/-
How the digits of a double are laid out: where the point goes, when the
exponent is written, and what stands for the values without digits.
-/
import PermScript.Number.Shortest

namespace PermScript.Number

/-- The decisions of one format. -/
structure Layout where
  /-- The exponents of the leading digit for which the number is written out. -/
  written : Int → Bool
  tie : Tie
  infinity : String
  negativeInfinity : String
  notANumber : String

/-- The sign of a number as text. -/
def signText (negative : Bool) : String := if negative then "-" else ""

/-- A row of `n` zeros. -/
def zeros (n : Nat) : String := String.ofList (List.replicate n '0')

/-- Digits with the point after `point` of them, which may lie before the
first or after the last; at least one digit stands on each side. -/
def writtenOut (digits : String) (point : Int) : String :=
  let ds := digits.toList
  if point ≤ 0 then "0." ++ zeros (-point).toNat ++ digits
  else if ds.length ≤ point.toNat then digits ++ zeros (point.toNat - ds.length) ++ ".0"
  else String.ofList (ds.take point.toNat) ++ "." ++ String.ofList (ds.drop point.toNat)

/-- Digits with the point after the first and an exponent. -/
def scientific (digits : String) (exponent : Int) : String :=
  match digits.toList with
  | [d] => String.ofList [d] ++ "e" ++ toString exponent
  | d :: ds => String.ofList (d :: '.' :: ds) ++ "e" ++ toString exponent
  | [] => ""

/-- The text of a double. -/
def Layout.text (f : Layout) : Binary64 → String
  | .nan => f.notANumber
  | .infinite negative => if negative then f.negativeInfinity else f.infinity
  | .finite negative 0 _ => signText negative ++ "0.0"
  | .finite negative m e =>
    let d := shortest f.tie m e
    let digits := toString d.digits
    let point := d.exponent + digits.length
    signText negative ++
      if f.written (point - 1) then writtenOut digits point else scientific digits (point - 1)

/-- Numbers of a document: written out from the fifth place after the point
up to sixteen digits before it, ties to even. -/
def documentLayout : Layout where
  written e := -5 ≤ e && e ≤ 15
  tie := .even
  infinity := ".inf"
  negativeInfinity := "-.inf"
  notANumber := ".nan"

/-- Numbers in explanations: always written out, ties upwards. -/
def explainedLayout : Layout where
  written _ := true
  tie := .up
  infinity := "inf"
  negativeInfinity := "-inf"
  notANumber := "NaN"

end PermScript.Number
