/-
Reading a whole document.
-/
import PermScript.Text.CharSet
import PermScript.Yaml.Composition
import PermScript.Yaml.Scanner

namespace PermScript.Yaml

/-- The value of a text, or nothing if it is no document. A text without
any document in it is null. -/
def Value.ofText? (text : String) : Option Value := do
  match ← Tree.ofTokens? (← tokens? (← readable? text)) with
  | some tree => Value.ofTree? tree
  | none => some .null

/-- The value of a text in which white space alone is null. -/
def parse (text : String) : Option Value :=
  if (PermScript.Text.trim text).isEmpty then some .null else Value.ofText? text

end PermScript.Yaml
