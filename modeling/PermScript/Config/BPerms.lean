/-
Configurations with groups alone: `permissions`, parents in `groups`, chat
decoration in `meta`. A caret denies and patterns are literal.
-/
import PermScript.Config.Body
import PermScript.Entity
import PermScript.Permission.Statement

namespace PermScript.Config.BPerms

open PermScript.Yaml

/-- A caret denies, and patterns are literal. -/
def rules : PatternRules := ⟨'^', false⟩

/-- The chat decoration of a group. -/
structure MetaBody where
  chatPrefix : Option String := none
  chatSuffix : Option String := none
  deriving DecidableEq, Inhabited

/-- The fields of the decoration. -/
def metaField : FieldReader MetaBody
  | "prefix" => some fun v b => do return { b with chatPrefix := ← optional readString v }
  | "suffix" => some fun v b => do return { b with chatSuffix := ← optional readString v }
  | _ => none

/-- Reads the decoration. -/
def readMeta : Value → Except ShapeError MetaBody := readBody "Meta" metaField {}

/-- The body of a group. -/
structure GroupBody where
  permissions : Option (List String) := none
  groups : Option (List String) := none
  decoration : Option MetaBody := none
  deriving DecidableEq, Inhabited

/-- The fields of a group. -/
def groupField : FieldReader GroupBody
  | "permissions" => some fun v b => do return { b with permissions := ← optional readStrings v }
  | "groups" => some fun v b => do return { b with groups := ← optional readStrings v }
  | "meta" => some fun v b => do return { b with decoration := ← optional readMeta v }
  | _ => none

/-- Reads a group. -/
def readGroup : Value → Except ShapeError GroupBody := readBody "GroupDef" groupField {}

/-- The group that a body declares, without members. -/
def GroupBody.group (b : GroupBody) : Group where
  permissions := .ofStatements rules none (b.permissions.getD [])
  parents := b.groups.getD []
  chatPrefix := nonEmpty (b.decoration.getD {}).chatPrefix
  chatSuffix := nonEmpty (b.decoration.getD {}).chatSuffix

/-- Takes groups into a roster. -/
def addGroups (entries : List (String × GroupBody)) (r : Roster) : Roster :=
  { r with groups := entries.foldl (fun groups e => groups.insert e.1 e.2.group) r.groups }

/-- Takes the groups of a document into a roster, all of them or none. -/
def load (label : String) (doc : Value) (r : Roster) : Except LoadError Unit × Roster :=
  match section? doc "groups" with
  | none => (.ok (), r)
  | some mapping =>
    match readEntries label "groups" readGroup {} mapping with
    | .error e => (.error e, r)
    | .ok entries => (.ok (), addGroups entries r)

end PermScript.Config.BPerms
