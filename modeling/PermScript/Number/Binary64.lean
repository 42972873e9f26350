/-
Double precision numbers as exact values: `mantissa · 2 ^ exponent`, with
the mantissa below `2 ^ 53` and as large as the exponent range allows. Each
double but zero then has one form, and reading a decimal is rounding a
quotient of natural numbers.
-/
namespace PermScript.Number

/-- A double: not a number, an infinity, or a signed `mantissa · 2 ^ exponent`. -/
inductive Binary64
  | nan
  | infinite (negative : Bool)
  | finite (negative : Bool) (mantissa : Nat) (exponent : Int)
  deriving DecidableEq, Repr, Inhabited

/-- The exponent of the smallest double and of zero. -/
def minExponent : Int := -1074

/-- The largest exponent of a finite double. -/
def maxExponent : Int := 971

/-- `num / den` rounded to a natural number, a half going to the even one. -/
def roundDiv (num den : Nat) : Nat :=
  let q := num / den
  let r := num % den
  if 2 * r < den then q
  else if den < 2 * r then q + 1
  else q + q % 2

/-- Numerator and denominator of `num / den` measured in units of `2 ^ e`. -/
def inUnits (num den : Nat) (e : Int) : Nat × Nat :=
  (num * Nat.pow 2 (-e).toNat, den * Nat.pow 2 e.toNat)

namespace Binary64

/-- Zero with a sign. -/
def zero (negative : Bool) : Binary64 := .finite negative 0 minExponent

/-- Whether the number is neither infinite nor not a number. -/
def isFinite : Binary64 → Bool
  | .finite .. => true
  | _ => false

/-- The double nearest to `num / den`, a tie going to the even mantissa;
past the largest double it is infinite. -/
def ofRatio (negative : Bool) (num den : Nat) : Binary64 :=
  if num = 0 then zero negative
  else
    -- `num / den` lies between `2 ^ (guess + 51)` and `2 ^ (guess + 53)`.
    let guess : Int := (Nat.log2 num : Int) - Nat.log2 den - 52
    let (n, d) := inUnits num den guess
    let e := max minExponent (if n / d < Nat.pow 2 52 then guess - 1 else guess)
    let (n, d) := inUnits num den e
    let m := roundDiv n d
    let (m, e) := if m = Nat.pow 2 53 then (Nat.pow 2 52, e + 1) else (m, e)
    if e > maxExponent then .infinite negative else .finite negative m e

/-- The double nearest to `digits · 10 ^ exponent`. Far outside the range of
doubles the answer does not need the power. -/
def ofDecimal (negative : Bool) (digits : Nat) (exponent : Int) : Binary64 :=
  if digits = 0 then zero negative
  else
    let leading := exponent + (Nat.log2 digits * 30103 / 100000 : Nat)
    if leading > 400 then .infinite negative
    else if leading < -400 then zero negative
    else ofRatio negative (digits * Nat.pow 10 exponent.toNat) (Nat.pow 10 (-exponent).toNat)

/-- Numbers as mapping keys: the two zeros are one key, and not-a-number is
the same key each time. -/
def sameKey (x y : Binary64) : Bool :=
  match x, y with
  | .finite _ 0 _, .finite _ 0 _ => true
  | x, y => x == y

end Binary64

/-! ## Reading decimals -/

/-- The value of a list of decimal digits. -/
def digitsValue (ds : List Char) : Nat := ds.foldl (fun n c => n * 10 + (c.toNat - '0'.toNat)) 0

/-- `+`, `-` or nothing, and the rest; true for a minus. -/
def splitSign : List Char → Bool × List Char
  | '-' :: r => (true, r)
  | '+' :: r => (false, r)
  | r => (false, r)

/-- Reads an exponent mark with its digits, or nothing. -/
def readExponent : List Char → Option Int
  | [] => some 0
  | c :: r =>
    if c == 'e' || c == 'E' then
      let (negative, ds) := splitSign r
      if ds.isEmpty || !ds.all Char.isDigit then none
      else some (if negative then -(digitsValue ds : Int) else digitsValue ds)
    else none

/-- Reads a decimal number: a sign, digits with at most one point among or
around them, and an exponent. At least one digit stands before the
exponent. -/
def Binary64.ofText? (s : String) : Option Binary64 :=
  let (negative, cs) := splitSign s.toList
  let whole := cs.takeWhile Char.isDigit
  let rest := cs.dropWhile Char.isDigit
  let (fraction, rest) := match rest with
    | '.' :: r => (r.takeWhile Char.isDigit, r.dropWhile Char.isDigit)
    | r => ([], r)
  if whole.isEmpty && fraction.isEmpty then none
  else (readExponent rest).map fun e =>
    ofDecimal negative (digitsValue (whole ++ fraction)) (e - fraction.length)

end PermScript.Number
