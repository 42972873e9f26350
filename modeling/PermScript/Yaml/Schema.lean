/-
What a scalar without quotes means: null, a truth value, a number or, if it
is none of these, a string; and the few tags that ask for one of them.
-/
import PermScript.Yaml.Source
import PermScript.Yaml.Value

namespace PermScript.Yaml

open PermScript.Number

/-- The spellings of null. -/
def isNullText (s : String) : Bool := ["~", "null", "Null", "NULL"].contains s

/-- The spellings of the truth values. -/
def boolOfText? (s : String) : Option Bool :=
  if ["true", "True", "TRUE"].contains s then some true
  else if ["false", "False", "FALSE"].contains s then some false
  else none

/-! ## Integers -/

/-- The value of digits in a base up to sixteen; at least one is needed. -/
def digitsIn? (base : Nat) (ds : List Char) : Option Nat :=
  if ds.isEmpty then none
  else ds.foldlM (fun n c => (hexValue? c).bind fun v =>
    if v < base then some (n * base + v) else none) 0

/-- Whether a row of digits begins with a zero that is not the whole row.
Such a row is no number. -/
def isZeroLed : List Char → Bool
  | '0' :: c :: ds => (c :: ds).all Char.isDigit
  | _ => false

/-- A magnitude: digits, or digits in the base that their mark names. -/
def magnitude? (cs : List Char) : Option Nat :=
  match cs with
  | '0' :: 'x' :: ds => digitsIn? 16 ds
  | '0' :: 'o' :: ds => digitsIn? 8 ds
  | '0' :: 'b' :: ds => digitsIn? 2 ds
  | ds => if isZeroLed ds then none else digitsIn? 10 ds

/-- An integer of any size with at most one sign. -/
def integerOfText? (s : String) : Option Int :=
  match s.toList with
  | '-' :: cs => (magnitude? cs).map fun n => -(n : Int)
  | '+' :: cs => (magnitude? cs).map Int.ofNat
  | cs => (magnitude? cs).map Int.ofNat

/-- Where an integer stands: the values that a document can hold, the larger
ones that it cannot, and those so large that only a float could hold them. -/
inductive IntegerRange
  | held
  | refused
  | beyond
  deriving DecidableEq, Repr

/-- The range of an integer: 64 bits are held, 128 bits refused. -/
def IntegerRange.of (i : Int) : IntegerRange :=
  if -Int.pow 2 63 ≤ i ∧ i < Int.pow 2 64 then .held
  else if -Int.pow 2 127 ≤ i ∧ i < Int.pow 2 128 then .refused
  else .beyond

/-! ## Floats -/

/-- The spellings of infinity after its sign. -/
def isInfinityText (s : String) : Bool := [".inf", ".Inf", ".INF"].contains s

/-- A float: a decimal, an infinity or not-a-number. -/
def floatOfText? (s : String) : Option Binary64 :=
  let unsigned := match s.toList with
    | '+' :: cs => String.ofList cs
    | _ => s
  if isInfinityText unsigned then some (.infinite false)
  else if ["-.inf", "-.Inf", "-.INF"].contains s then some (.infinite true)
  else if [".nan", ".NaN", ".NAN"].contains s then some .nan
  else if s.toList.head? == some '+' && unsigned.toList.head?.any ("+-".toList.contains ·) then
    none
  else (Binary64.ofText? unsigned).filter (·.isFinite)

/-! ## Scalars -/

/-- The number that a scalar spells, an error if it is an integer that no
document can hold, and nothing if it spells none. -/
def numeralOfText? (s : String) : Option (Option Numeral) :=
  match (integerOfText? s).map fun i => (i, IntegerRange.of i) with
  | some (i, .held) => some (some (.integer i))
  | some (_, .refused) => none
  | _ => some none

/-- The value of a plain scalar; `none` if no document can hold it. -/
def plainValue? (s : String) : Option Value :=
  if s.isEmpty || isNullText s then some .null
  else match boolOfText? s with
    | some b => some (.bool b)
    | none => do
      match ← numeralOfText? s with
      | some n => some (.number n)
      | none =>
        let zeroLed := match s.toList with
          | '-' :: cs | '+' :: cs => isZeroLed cs
          | cs => isZeroLed cs
        match if zeroLed then none else floatOfText? s with
        | some x => some (.number (.float x))
        | none => some (.string s)

/-- The value of a scalar with one of the common tags, plain or not; the
inner `none` if the tag is none of them. -/
def commonTagValue? (tag : String) (s : String) : Option (Option Value) :=
  if tag == "tag:yaml.org,2002:bool" then (boolOfText? s).map fun b => some (.bool b)
  else if tag == "tag:yaml.org,2002:int" then do
    return some (.number (← ← numeralOfText? s))
  else if tag == "tag:yaml.org,2002:float" then
    (floatOfText? s).map fun x => some (.number (.float x))
  else if tag == "tag:yaml.org,2002:null" then
    if isNullText s then some (some .null) else none
  else some none

end PermScript.Yaml
