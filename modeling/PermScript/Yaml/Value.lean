/-
Documents as values: what a document says once tags are read, plain scalars
are resolved and aliases are followed. Mappings keep the order of their
entries, and no two of their keys are the same.
-/
import PermScript.Number.Layout

namespace PermScript.Yaml

open PermScript.Number

/-- A number of a document. -/
inductive Numeral
  | integer (value : Int)
  | float (value : Binary64)
  deriving DecidableEq, Repr, Inhabited

/-- The text of a number. -/
def Numeral.text : Numeral → String
  | .integer i => toString i
  | .float x => documentLayout.text x

/-- Whether two numbers are the same key. An integer and a float never are. -/
def Numeral.sameKey : Numeral → Numeral → Bool
  | .integer i, .integer j => i == j
  | .float x, .float y => x.sameKey y
  | _, _ => false

/-- A value of a document. A tag is named without the mark before it. -/
inductive Value
  | null
  | bool (value : Bool)
  | number (value : Numeral)
  | string (value : String)
  | sequence (items : List Value)
  | mapping (entries : List (Value × Value))
  | tagged (tag : String) (value : Value)
  deriving Inhabited

namespace Value

/-- The value without its tags. -/
def untag : Value → Value
  | .tagged _ v => v.untag
  | v => v

/-- Whether the value is null, tagged or not. -/
def isNull (v : Value) : Bool :=
  match v.untag with
  | .null => true
  | _ => false

mutual

/-- Whether two values are the same key: mappings whatever the order of
their entries, tags by name. -/
def sameKey : Value → Value → Bool
  | .null, .null => true
  | .bool a, .bool b => a == b
  | .number a, .number b => a.sameKey b
  | .string a, .string b => a == b
  | .sequence as, .sequence bs => sameItems as bs
  | .mapping as, .mapping bs => as.length == bs.length && entriesIn bs as
  | .tagged s a, .tagged t b => s == t && sameKey a b
  | _, _ => false

/-- Whether two lists hold the same keys in the same places. -/
def sameItems : List Value → List Value → Bool
  | [], [] => true
  | a :: as, b :: bs => sameKey a b && sameItems as bs
  | _, _ => false

/-- Whether every entry of the second list has its like in the first. -/
def entriesIn (bs : List (Value × Value)) : List (Value × Value) → Bool
  | [] => true
  | (k, v) :: as => bs.any (fun b => sameKey k b.1 && sameKey v b.2) && entriesIn bs as

end

mutual

/-- Whether the value or any part of it is tagged. -/
def hasTag : Value → Bool
  | .tagged .. => true
  | .sequence items => itemsHaveTag items
  | .mapping entries => entriesHaveTag entries
  | _ => false

/-- Whether any of the values is tagged. -/
def itemsHaveTag : List Value → Bool
  | [] => false
  | v :: vs => v.hasTag || itemsHaveTag vs

/-- Whether any key or value is tagged. -/
def entriesHaveTag : List (Value × Value) → Bool
  | [] => false
  | (k, v) :: es => k.hasTag || v.hasTag || entriesHaveTag es

end

/-- The text of a plain string. -/
def text? : Value → Option String
  | .string s => some s
  | _ => none

/-- The value that a mapping, tagged or not, has under a string key. -/
def get? (v : Value) (key : String) : Option Value :=
  match v.untag with
  | .mapping entries => (entries.find? fun e => e.1.text? == some key).map (·.2)
  | _ => none

end Value

end PermScript.Yaml
