/-
The fewest digits that read back. A double stands for the interval of reals
that round to it; grids of one, two, … digits are tried, and on the first
with a point in the interval the point nearest to the value wins.
-/
import PermScript.Number.Binary64

namespace PermScript.Number

/-- Which of two equally near decimals is taken. -/
inductive Tie
  | even
  | up
  deriving DecidableEq, Repr

/-- `digits · 10 ^ exponent`. -/
structure Decimal where
  digits : Nat
  exponent : Int
  deriving DecidableEq, Repr

/-- Both sides of a comparison of `d · 10 ^ k` with `x · 2 ^ e`, over a
common denominator. -/
def crossed (d : Nat) (k : Int) (x : Nat) (e : Int) : Nat × Nat :=
  (d * Nat.pow 10 k.toNat * Nat.pow 2 (-e).toNat, x * Nat.pow 2 e.toNat * Nat.pow 10 (-k).toNat)

/-- The reals that round to `mantissa · 2 ^ exponent`, in quarters of its
last place: the ends, and whether they belong to it. Below a power of two
the gap is half as wide. -/
structure Rounding where
  low : Nat
  high : Nat
  unit : Int
  closed : Bool

/-- The interval of a positive double. -/
def rounding (mantissa : Nat) (exponent : Int) : Rounding where
  low := 4 * mantissa - if mantissa = Nat.pow 2 52 ∧ exponent > minExponent then 1 else 2
  high := 4 * mantissa + 2
  unit := exponent - 2
  closed := mantissa % 2 == 0

/-- Whether `d · 10 ^ k` rounds to the double. -/
def Rounding.contains (i : Rounding) (d : Nat) (k : Int) : Bool :=
  let (d₁, low) := crossed d k i.low i.unit
  let (d₂, high) := crossed d k i.high i.unit
  if i.closed then low ≤ d₁ && d₂ ≤ high else low < d₁ && d₂ < high

/-- The least `k` from `start` on, within `steps`, with `m · 2 ^ e < 10 ^ k`. -/
def scaleFrom (m : Nat) (e : Int) : Nat → Int → Int
  | 0, k => k
  | steps + 1, k =>
    let (power, value) := crossed 1 k m e
    if value < power then k else scaleFrom m e steps (k + 1)

/-- The point of the grid `10 ^ k` that stands for the double, if one of the
two neighbours of its value does. -/
def gridPoint (tie : Tie) (m : Nat) (e k : Int) : Option Nat :=
  let i := rounding m e
  let (grid, value) := crossed 1 k m e
  let below := value / grid
  match i.contains below k && below != 0, i.contains (below + 1) k with
  | true, false => some below
  | false, true => some (below + 1)
  | false, false => none
  | true, true =>
    let twice := 2 * (value % grid)
    if twice < grid then some below
    else if grid < twice then some (below + 1)
    else match tie with
      | .even => some (below + below % 2)
      | .up => some (below + 1)

/-- Moves trailing zeros of the digits, at most `steps`, to the exponent. -/
def stripZeros : Nat → Decimal → Decimal
  | 0, d => d
  | steps + 1, d =>
    if d.digits % 10 = 0 then stripZeros steps ⟨d.digits / 10, d.exponent + 1⟩ else d

/-- Tries the grids of `n`, `n + 1`, … digits of a value below `10 ^ k`. -/
def searchGrids (tie : Tie) (m : Nat) (e k : Int) : Nat → Nat → Option Decimal
  | 0, _ => none
  | steps + 1, n =>
    match gridPoint tie m e (k - n) with
    | some d => some ⟨d, k - n⟩
    | none => searchGrids tie m e k steps (n + 1)

/-- The shortest decimal that reads back as `m · 2 ^ e`, for `m` positive.
Seventeen digits always do; were they not to, the exact value stands in. -/
def shortest (tie : Tie) (m : Nat) (e : Int) : Decimal :=
  let bits : Int := Nat.log2 m + e
  let k := scaleFrom m e 4 (bits * 30103 / 100000 - 1)
  match searchGrids tie m e k 17 1 with
  | some d => stripZeros 20 d
  | none => ⟨m * Nat.pow 2 e.toNat * Nat.pow 5 (-e).toNat, min e 0⟩

end PermScript.Number
