/-
Sets of characters given by their boundaries: the increasing code points
at which membership changes. A standard's property with hundreds of ranges
is then one array of numbers, and white space, the only property needed on
every document, is the smallest of them.
-/
namespace PermScript.Text

/-- A set of characters, as the increasing code points where membership
changes: outside below the first, inside from the first up to the second,
and so on. -/
structure CharSet where
  bounds : Array Nat

/-- A character is inside when an odd number of boundaries lie at or below it. -/
def CharSet.contains (s : CharSet) (c : Char) : Bool :=
  (s.bounds.toList.takeWhile (· ≤ c.toNat)).length % 2 == 1

/-- The characters with the property White_Space: tab to carriage return,
the space, next line, no-break space and the spaces of typography. -/
def whiteSpace : CharSet where
  bounds := #[0x9, 0xE, 0x20, 0x21, 0x85, 0x86, 0xA0, 0xA1, 0x1680, 0x1681, 0x2000, 0x200B,
    0x2028, 0x202A, 0x202F, 0x2030, 0x205F, 0x2060, 0x3000, 0x3001]

/-- `s` without the white space at its two ends. -/
def trim (s : String) : String :=
  let front := s.toList.dropWhile whiteSpace.contains
  String.ofList (front.reverse.dropWhile whiteSpace.contains).reverse

end PermScript.Text
