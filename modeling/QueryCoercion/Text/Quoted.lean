import QueryCoercion.Text.Printable

namespace QueryCoercion.Identifier

def isStart (c : Char) : Bool := c.isAlpha || c == '_' || c == '$'
def isRest (c : Char) : Bool := c.isAlphanum || c == '_' || c == '$'

def isPlain : List Char → Bool
  | [] => false
  | c :: cs => isStart c && cs.all isRest

/-- The letter written after a backslash for a character that is escaped. -/
def escapeLetter? : Char → Option Char
  | '\x08' => some 'b'
  | '\x0c' => some 'f'
  | '\r' => some 'r'
  | '\n' => some 'n'
  | '\t' => some 't'
  | '\x00' => some '0'
  | '\x07' => some 'a'
  | '\x0b' => some 'v'
  | '\\' => some '\\'
  | '\x60' => some '\x60'
  | _ => none

def escapeChar (c : Char) : List Char :=
  match escapeLetter? c with
  | some letter => ['\\', letter]
  | none => [c]

def backquoted (name : List Char) : List Char :=
  '\x60' :: (name.flatMap escapeChar ++ ['\x60'])

/-- A plain name is written as it is. Any other one ends at the first backquote that no
backslash announces. -/
def chars (name : List Char) : List Char :=
  if isPlain name then name else backquoted name

def render (name : String) : String := String.ofList (chars name.toList)

end QueryCoercion.Identifier

namespace QueryCoercion.Literal

def escapeChar (c : Char) : List Char :=
  if c = '\\' ∨ c = '\x27' then ['\\', c] else [c]

def chars (text : List Char) : List Char :=
  '\x27' :: (text.flatMap escapeChar ++ ['\x27'])

def render (text : String) : String := String.ofList (chars text.toList)

end QueryCoercion.Literal

/- Text in diagnostics: short escapes for the common controls, and the code point in
hexadecimal for anything else that has no glyph. -/
namespace QueryCoercion.Quoted

def codePoint (c : Char) : List Char :=
  ['\\', 'u', '\x7b'] ++ Nat.toDigits 16 c.toNat ++ ['\x7d']

def escapeChar (c : Char) : List Char :=
  if c = '\x00' then ['\\', '0']
  else if c = '\t' then ['\\', 't']
  else if c = '\r' then ['\\', 'r']
  else if c = '\n' then ['\\', 'n']
  else if c = '\\' ∨ c = '"' then ['\\', c]
  else if Printable.isShown c then [c]
  else codePoint c

def render (text : String) : String :=
  String.ofList ('"' :: (text.toList.flatMap escapeChar ++ ['"']))

end QueryCoercion.Quoted
