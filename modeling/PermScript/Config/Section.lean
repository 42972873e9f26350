/-
Sections: the mappings of a configuration whose keys name entities and
whose values are their bodies.
-/
import PermScript.Config.Error

namespace PermScript.Config

open PermScript.Yaml

/-- The entries of a mapping, tagged or not. -/
def entriesOf? (v : Value) : Option (List (Value × Value)) :=
  match v.untag with
  | .mapping entries => some entries
  | _ => none

/-- The mapping that a document has under a key. No such key, null and any
other value are all as if it were not there. -/
def section? (doc : Value) (key : String) : Option (List (Value × Value)) :=
  (doc.get? key).bind entriesOf?

/-- The name that a key gives to an entity: strings, numbers and truth
values without a tag do. -/
def keyName? : Value → Option String
  | .string s => some s
  | .number n => some n.text
  | .bool b => some (Value.boolText b)
  | _ => none

/-- Reads one entry of a section. A null body is the one with nothing in it. -/
def readEntry {α : Type} (label heading : String) (read : Value → Except ShapeError α)
    (default : α) (entry : Value × Value) : Except LoadError (String × α) :=
  match keyName? entry.1 with
  | none => .error (.invalidKey label heading entry.1)
  | some name =>
    if entry.2.isNull then .ok (name, default)
    else match read entry.2 with
      | .ok body => .ok (name, body)
      | .error e => .error (.invalidEntry label heading name e)

/-- Reads the entries of a section in document order, up to the first that
is wrong. -/
def readEntries {α : Type} (label heading : String) (read : Value → Except ShapeError α)
    (default : α) : List (Value × Value) → Except LoadError (List (String × α))
  | [] => .ok []
  | entry :: rest => do
    let first ← readEntry label heading read default entry
    let others ← readEntries label heading read default rest
    return first :: others

end PermScript.Config
