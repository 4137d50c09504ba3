/-!
Binary64 numbers and their decimal text. A number is a sign and a magnitude, the exponent
and fraction bits read as one natural number. The reals that read back as a magnitude form
an interval around it. Its shortest digits are the multiplier of the coarsest power of ten
with a multiple in that interval, and of two such multiples the nearer one is taken.
-/
namespace QueryCoercion

/-- The patterns above the infinite one are not numbers and are left out. -/
structure Binary64 where
  negative : Bool
  magnitude : Nat
  bounded : magnitude ≤ 2047 * Nat.pow 2 52
deriving DecidableEq

namespace Binary64

def infinity : Nat := 2047 * Nat.pow 2 52

def ofBits? (bits : Nat) : Option Binary64 :=
  if h : bits % Nat.pow 2 63 ≤ 2047 * Nat.pow 2 52 then
    some ⟨bits / Nat.pow 2 63 % 2 == 1, bits % Nat.pow 2 63, h⟩
  else none

def bits (x : Binary64) : Nat := (if x.negative then Nat.pow 2 63 else 0) + x.magnitude

def same (x y : Binary64) : Bool :=
  x == y || (x.magnitude == 0 && y.magnitude == 0)

/-- What is said of a bit pattern that `ofBits?` leaves out. -/
def notANumber : String := "NotNan constructed with NaN"

def zero (negative : Bool) : Binary64 := ⟨negative, 0, by decide⟩

def negate (x : Binary64) : Binary64 := { x with negative := !x.negative }

/-- A finite magnitude is `significand * 2 ^ scale`, with the scale kept as its
distance from the least one, that of `2 ^ (-1074)`. -/
def significand (x : Binary64) : Nat :=
  if x.magnitude < Nat.pow 2 52 then x.magnitude
  else x.magnitude % Nat.pow 2 52 + Nat.pow 2 52

def steps (x : Binary64) : Nat := x.magnitude / Nat.pow 2 52 - 1

/-- Half up to the even neighbour. -/
def roundedQuotient (num den : Nat) : Nat :=
  let q := num / den
  let r := num % den
  if den < 2 * r || (den == 2 * r && q % 2 == 1) then q + 1 else q

/-- The scale of the number nearest to `num / den`, as a distance from the least one. -/
def stepsOfRatio (num den : Nat) : Nat :=
  let top := num.log2 + 1074
  let floor := if num * Nat.pow 2 den.log2 < den * Nat.pow 2 num.log2 then top - 1 else top
  if num = 0 then 0 else floor - den.log2 - 52

/-- The magnitude nearest to `num / den`, or none where that is infinite. A carry
out of the significand moves on to the next exponent by itself. -/
def ofRatio? (num den : Nat) : Option Binary64 :=
  let steps := stepsOfRatio num den
  let magnitude :=
    steps * Nat.pow 2 52 + roundedQuotient (num * Nat.pow 2 1074) (den * Nat.pow 2 steps)
  if h : magnitude < 2047 * Nat.pow 2 52 then some ⟨false, magnitude, Nat.le_of_lt h⟩ else none

/-- The value of a finite magnitude as a ratio. -/
def ratio (x : Binary64) : Nat × Nat := (x.significand * Nat.pow 2 x.steps, Nat.pow 2 1074)

def times? (x y : Binary64) : Option Binary64 :=
  ofRatio? (x.ratio.1 * y.ratio.1) (x.ratio.2 * y.ratio.2)

def over? (x y : Binary64) : Option Binary64 :=
  ofRatio? (x.ratio.1 * y.ratio.2) (x.ratio.2 * y.ratio.1)

end Binary64

/-- The number `digits * 10 ^ exponent`. -/
structure Decimal where
  digits : Nat
  exponent : Int
deriving DecidableEq, Repr

/-- Where an exact tie between two neighbours goes. -/
inductive Tie where
  | up
  | toEven
deriving DecidableEq

namespace Decimal

/-- An interval in units of a quarter of the last binary place. -/
structure Window where
  low : Nat
  value : Nat
  high : Nat
  closed : Bool

/-- Just above a power of two the neighbour below is nearer by half. -/
def window (x : Binary64) : Window :=
  let v := 4 * x.significand
  let below := if x.significand = Nat.pow 2 52 ∧ 0 < x.steps then 1 else 2
  ⟨v - below, v, v + 2, x.significand % 2 == 0⟩

/-- Whether a multiple of a power of ten lies inside. A quarter is `num` and a
multiple `den` of some common unit. -/
def Window.holds (w : Window) (num den point : Nat) : Bool :=
  if w.closed then w.low * num ≤ point * den && point * den ≤ w.high * num
  else w.low * num < point * den && point * den < w.high * num

/-- The multiple nearest to the value, if one lies inside. -/
def Window.pick? (w : Window) (tie : Tie) (num den : Nat) : Option Nat :=
  let below := w.value * num / den
  let rest := w.value * num % den
  match w.holds num den below, w.holds num den (below + 1) with
  | true, true =>
    if 2 * rest < den then some below
    else if den < 2 * rest then some (below + 1)
    else match tie with
      | .up => some (below + 1)
      | .toEven => some (if below % 2 = 0 then below else below + 1)
  | true, false => some below
  | false, true => some (below + 1)
  | false, false => none

/-- Tries the powers of ten from `10 ^ (grid - 324)` down. A quarter of the last
place is `2 ^ (steps - 1076)`, so a multiple `p` of `10 ^ e` is `p * 10 ^ e * 2 ^ 1076`
such quarters at the least scale. -/
def search (w : Window) (tie : Tie) (steps : Nat) : Nat → Decimal
  | 0 => ⟨(w.pick? tie (Nat.pow 2 steps * Nat.pow 10 324) (Nat.pow 2 1076)).getD 0, -324⟩
  | grid + 1 =>
    let e : Int := (grid : Int) + 1 - 324
    let quarter := Nat.pow 2 steps * Nat.pow 10 (-e).toNat
    match w.pick? tie quarter (Nat.pow 2 1076 * Nat.pow 10 e.toNat) with
    | some digits => ⟨digits, e⟩
    | none => search w tie steps grid

/-- The digits of a finite nonzero magnitude. No such number reaches `10 ^ 309`. -/
def shortest (tie : Tie) (x : Binary64) : Decimal :=
  search (window x) tie x.steps 633

end Decimal

/-- How a number is written. -/
structure Layout where
  /-- Whether a number with this many digits before its point is written without exponent. -/
  positional : Int → Bool
  /-- Whether an exponent that is not negative takes a plus. -/
  exponentPlus : Bool
  wholePoint : Bool
  tie : Tie

namespace Layout

/-- Numbers in query text never take an exponent and whole ones have no point. -/
def query : Layout := ⟨fun _ => true, false, false, .up⟩

/-- Numbers in complaints always look like fractions, and take an exponent when
they are tiny or have more than sixteen digits before the point. The exponent is always
signed, and a tie goes to the even digit. -/
def complaint : Layout := ⟨fun lead => -5 < lead && lead ≤ 16, true, true, .toEven⟩

def digitChars (n : Nat) : List Char := Nat.toDigits 10 n

def fixed (wholePoint : Bool) (digits : List Char) (exponent : Int) : List Char :=
  let tail := if wholePoint then ['.', '0'] else []
  let lead := (digits.length : Int) + exponent
  if 0 ≤ exponent then digits ++ List.replicate exponent.toNat '0' ++ tail
  else if 0 < lead then digits.take lead.toNat ++ '.' :: digits.drop lead.toNat
  else '0' :: '.' :: (List.replicate (-lead).toNat '0' ++ digits)

def exponentSign (plus : Bool) (power : Int) : List Char :=
  if power < 0 then ['-'] else if plus then ['+'] else []

def scientific (plus : Bool) (digits : List Char) (exponent : Int) : List Char :=
  let power := (digits.length : Int) + exponent - 1
  let mark := 'e' :: (exponentSign plus power ++ digitChars power.natAbs)
  match digits with
  | [d] => d :: mark
  | d :: ds => d :: '.' :: (ds ++ mark)
  | [] => mark

def magnitude (l : Layout) (x : Binary64) : List Char :=
  if x.magnitude = Binary64.infinity then ['i', 'n', 'f']
  else if x.magnitude = 0 then fixed l.wholePoint ['0'] 0
  else
    let d := Decimal.shortest l.tie x
    let digits := digitChars d.digits
    if l.positional ((digits.length : Int) + d.exponent) then fixed l.wholePoint digits d.exponent
    else scientific l.exponentPlus digits d.exponent

def render (l : Layout) (x : Binary64) : String :=
  String.ofList ((if x.negative then ['-'] else []) ++ l.magnitude x)

end Layout

end QueryCoercion
