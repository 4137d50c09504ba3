import QueryCoercion.Json.Value

/-!
The lexemes of JSON text. Each reader takes the text that is left and gives what it read and
the text after it. A text that ends inside a lexeme is told apart from one that no further
text could mend. Of a number, the digits before the point, and then those after it, are taken
into a 64-bit significand as long as they fit; digits that no longer fit scale the number
when they stand before the point and are passed over after it. A number without point and
exponent whose digits all fit is an integer, unless it is minus zero or lies below the least
64-bit integer. Any other number is the significand scaled in binary64 by powers of ten of at
most `10 ^ 308`.
-/
namespace QueryCoercion.Lexeme

inductive Fault where
  | unfinished
  | malformed
deriving DecidableEq, Repr

def isBlank (c : Char) : Bool := c == ' ' || c == '\n' || c == '\t' || c == '\r'

def skipBlanks (text : List Char) : List Char := text.dropWhile isBlank

/-- Reads the letters of a word that must follow. -/
def word : List Char → List Char → Except Fault (List Char)
  | [], text => .ok text
  | _ :: _, [] => .error .unfinished
  | c :: cs, d :: text => if c = d then word cs text else .error .malformed

def hexValue? (c : Char) : Option Nat :=
  if c.isDigit then some (c.toNat - '0'.toNat)
  else if 'a' ≤ c ∧ c ≤ 'f' then some (c.toNat - 'a'.toNat + 10)
  else if 'A' ≤ c ∧ c ≤ 'F' then some (c.toNat - 'A'.toNat + 10)
  else none

def byteLength (text : List Char) : Nat := (String.ofList text).utf8ByteSize

/-- Reads four hexadecimal digits. Whether the text ends too early is judged by
its bytes. -/
def hexUnit : List Char → Except Fault Nat
  | a :: b :: c :: d :: _ =>
    match hexValue? a, hexValue? b, hexValue? c, hexValue? d with
    | some p, some q, some r, some s => .ok (((p * 16 + q) * 16 + r) * 16 + s)
    | _, _, _, _ => .error .malformed
  | text => .error (if byteLength text < 4 then .unfinished else .malformed)

def isLeading (unit : Nat) : Bool := 0xd800 ≤ unit && unit ≤ 0xdbff
def isTrailing (unit : Nat) : Bool := 0xdc00 ≤ unit && unit ≤ 0xdfff

/-- The second unit of a pair, after the first one. -/
def trailingUnit : List Char → Except Fault Nat
  | [] => .error .unfinished
  | '\\' :: [] => .error .unfinished
  | '\\' :: 'u' :: rest => do
    let unit ← hexUnit rest
    if isTrailing unit then .ok unit else .error .malformed
  | _ :: _ => .error .malformed

/-- Reads what follows `\u`: the character and how many characters spell it. -/
def codePoint (text : List Char) : Except Fault (Char × Nat) := do
  let unit ← hexUnit text
  if isTrailing unit then .error .malformed
  else if isLeading unit then
    let second ← trailingUnit (text.drop 4)
    .ok (Char.ofNat (0x10000 + (unit - 0xd800) * 0x400 + (second - 0xdc00)), 10)
  else .ok (Char.ofNat unit, 4)

def simpleEscape? : Char → Option Char
  | '"' => some '"'
  | '\\' => some '\\'
  | '/' => some '/'
  | 'b' => some '\x08'
  | 'f' => some '\x0c'
  | 'n' => some '\n'
  | 'r' => some '\r'
  | 't' => some '\t'
  | _ => none

/-- Reads what follows a backslash. -/
def escaped : List Char → Except Fault (Char × Nat)
  | [] => .error .unfinished
  | 'u' :: rest => (codePoint rest).map fun r => (r.1, r.2 + 1)
  | c :: _ =>
    match simpleEscape? c with
    | some d => .ok (d, 1)
    | none => .error .malformed

/-- Reads a string after its opening quote, with the characters read so far in
reverse. -/
def stringFrom (done : List Char) (text : List Char) : Except Fault (String × List Char) :=
  match text with
  | [] => .error .unfinished
  | c :: rest =>
    if c = '"' then .ok (String.ofList done.reverse, rest)
    else if c = '\\' then
      match escaped rest with
      | .ok (d, count) => stringFrom (d :: done) (rest.drop count)
      | .error fault => .error fault
    else if c.toNat < 0x20 then .error .malformed
    else stringFrom (c :: done) rest
termination_by text.length
decreasing_by all_goals simp; try omega

def string (text : List Char) : Except Fault (String × List Char) := stringFrom [] text

/-- Skips what follows a backslash, without looking at what it stands for. -/
def skipEscaped : List Char → Except Fault Nat
  | [] => .error .unfinished
  | 'u' :: rest => (hexUnit rest).map fun _ => 5
  | c :: _ => if (simpleEscape? c).isSome then .ok 1 else .error .malformed

/-- Skips a string after its opening quote. -/
def skipString (text : List Char) : Except Fault (List Char) :=
  match text with
  | [] => .error .unfinished
  | c :: rest =>
    if c = '"' then .ok rest
    else if c = '\\' then
      match skipEscaped rest with
      | .ok count => skipString (rest.drop count)
      | .error fault => .error fault
    else if c.toNat < 0x20 then .error .malformed
    else skipString rest
termination_by text.length
decreasing_by all_goals simp; try omega

end QueryCoercion.Lexeme

namespace QueryCoercion.Numeral

open Lexeme

def digitValue (c : Char) : Nat := c.toNat - '0'.toNat

/-- Takes digits into a significand while they fit, and counts them. -/
def absorb (significand count : Nat) : List Char → Nat × Nat
  | [] => (significand, count)
  | c :: cs =>
    let next := significand * 10 + digitValue c
    if next < Nat.pow 2 64 then absorb next (count + 1) cs else (significand, count)

def powerOfTen (n : Nat) : Binary64 := (Binary64.ofRatio? (Nat.pow 10 n) 1).getD (.zero false)

/-- Scales by a power of ten; none where the result is infinite. Two divisions by
the largest power bring every significand to zero. -/
def scale? : Nat → Binary64 → Int → Option Binary64
  | 0, x, _ => some x
  | fuel + 1, x, exponent =>
    if exponent.natAbs ≤ 308 then
      if 0 ≤ exponent then x.times? (powerOfTen exponent.natAbs)
      else x.over? (powerOfTen exponent.natAbs)
    else if x.magnitude = 0 then some x
    else if 0 ≤ exponent then none
    else (x.over? (powerOfTen 308)).bind fun y => scale? fuel y (exponent + 308)

def float (negative : Bool) (significand : Nat) (exponent : Int) : Except Fault Json.Number :=
  match (Binary64.ofRatio? significand 1).bind fun x => scale? 3 x exponent with
  | some x => .ok (.float (if negative then x.negate else x))
  | none => .error .malformed

def integer (negative : Bool) (significand : Nat) : Except Fault Json.Number :=
  if !negative then .ok (.integer significand)
  else if significand = 0 ∨ Nat.pow 2 63 < significand then float true significand 0
  else .ok (.integer (-significand))

/-- Reads one digit or more. -/
def digits (text : List Char) : Except Fault (List Char × List Char) :=
  match text with
  | [] => .error .unfinished
  | c :: _ =>
    if c.isDigit then .ok (text.takeWhile Char.isDigit, text.dropWhile Char.isDigit)
    else .error .malformed

/-- The digits before the point; a zero stands alone. -/
def wholeDigits (text : List Char) : Except Fault (List Char × List Char) := do
  let (ds, rest) ← digits text
  if ds.head? = some '0' ∧ 1 < ds.length then .error .malformed else .ok (ds, rest)

def sign : List Char → Bool × List Char
  | '-' :: rest => (true, rest)
  | '+' :: rest => (false, rest)
  | text => (false, text)

/-- The exponent after its mark. -/
def exponent (text : List Char) : Except Fault (Int × List Char) := do
  let (negative, text) := sign text
  let (ds, rest) ← digits text
  let value := ds.foldl (fun n c => n * 10 + digitValue c) 0
  .ok (if negative then -value else value, rest)

def isMark (c : Char) : Bool := c == 'e' || c == 'E'

/-- Ends a number that has a point or an exponent, or whose digits do not fit. -/
def scaled (negative : Bool) (significand : Nat) (shift : Int) (text : List Char) :
    Except Fault (Json.Number × List Char) := do
  match text with
  | c :: rest =>
    if isMark c then
      let (e, rest) ← exponent rest
      .ok (← float negative significand (shift + e), rest)
    else .ok (← float negative significand shift, text)
  | [] => .ok (← float negative significand shift, text)

/-- Reads a number after its sign. -/
def unsigned (negative : Bool) (text : List Char) : Except Fault (Json.Number × List Char) := do
  let (ds, rest) ← wholeDigits text
  let (significand, taken) := absorb 0 0 ds
  let shift : Int := ds.length - taken
  match rest with
  | '.' :: rest =>
    let (fraction, rest) ← digits rest
    let (significand, taken) := absorb significand 0 fraction
    scaled negative significand (shift - taken) rest
  | c :: _ =>
    if isMark c ∨ taken < ds.length then scaled negative significand shift rest
    else .ok (← integer negative significand, rest)
  | [] =>
    if taken < ds.length then scaled negative significand shift rest
    else .ok (← integer negative significand, rest)

def read : List Char → Except Fault (Json.Number × List Char)
  | '-' :: rest => unsigned true rest
  | text => unsigned false text

/-- In a number that is only passed over, an early end of the text is no excuse,
and its size does not matter. -/
def skipDigits (text : List Char) : Except Fault (List Char) :=
  match digits text with
  | .ok (_, rest) => .ok rest
  | .error _ => .error .malformed

def skipExponent : List Char → Except Fault (List Char)
  | c :: rest => if isMark c then skipDigits (sign rest).2 else .ok (c :: rest)
  | [] => .ok []

def skipUnsigned (text : List Char) : Except Fault (List Char) :=
  match wholeDigits text with
  | .ok (_, '.' :: rest) => skipDigits rest >>= skipExponent
  | .ok (_, rest) => skipExponent rest
  | .error _ => .error .malformed

def skip : List Char → Except Fault (List Char)
  | '-' :: rest => skipUnsigned rest
  | text => skipUnsigned text

end QueryCoercion.Numeral
