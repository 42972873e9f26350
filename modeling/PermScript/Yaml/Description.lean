/-
Values in error messages: in full, where a value is shown for what it is,
and by kind, where it stands in the wrong place.
-/
import PermScript.Text.Quoted
import PermScript.Yaml.Value

namespace PermScript.Yaml

namespace Value

/-- The word for a truth value. -/
def boolText (b : Bool) : String := if b then "true" else "false"

mutual

/-- A value in full, each part with the name of its kind. -/
def fullText : Value → String
  | .null => "Null"
  | .bool b => "Bool(" ++ boolText b ++ ")"
  | .number n => "Number(" ++ n.text ++ ")"
  | .string s => "String(" ++ Text.quoted s ++ ")"
  | .sequence items => "Sequence [" ++ ", ".intercalate (itemTexts items) ++ "]"
  | .mapping entries => "Mapping \x7b" ++ ", ".intercalate (entryTexts entries) ++ "\x7d"
  | .tagged tag value =>
    "TaggedValue \x7b tag: !" ++ tag ++ ", value: " ++ value.fullText ++ " \x7d"

/-- The items of a sequence in full. -/
def itemTexts : List Value → List String
  | [] => []
  | v :: vs => v.fullText :: itemTexts vs

/-- The entries of a mapping in full. -/
def entryTexts : List (Value × Value) → List String
  | [] => []
  | (k, v) :: es => (k.keyText ++ ": " ++ v.fullText) :: entryTexts es

/-- A key in full; a scalar one goes without the name of its kind. -/
def keyText : Value → String
  | .bool b => boolText b
  | .number n => n.text
  | .string s => Text.quoted s
  | .null => "Null"
  | .sequence items => "Sequence [" ++ ", ".intercalate (itemTexts items) ++ "]"
  | .mapping entries => "Mapping \x7b" ++ ", ".intercalate (entryTexts entries) ++ "\x7d"
  | .tagged tag value =>
    "TaggedValue \x7b tag: !" ++ tag ++ ", value: " ++ value.fullText ++ " \x7d"

end

/-- A value by its kind, and if it is a scalar by its contents. -/
def kindText (v : Value) : String :=
  match v.untag with
  | .null => "unit value"
  | .bool b => "boolean \x60" ++ boolText b ++ "\x60"
  | .number (.integer i) => "integer \x60" ++ toString i ++ "\x60"
  | .number (.float x) => "floating point \x60" ++ Number.explainedLayout.text x ++ "\x60"
  | .string s => "string " ++ Text.quoted s
  | .sequence _ => "sequence"
  | .mapping _ => "map"
  | .tagged .. => "enum"

end Value

end PermScript.Yaml
