/-
The bodies of entities: mappings whose string keys name fields. Each kind
of body tells how one of its fields is taken in; fields it does not know
are passed over, and a null field is the same as none.
-/
import PermScript.Config.Section

namespace PermScript.Config

open PermScript.Yaml

/-! ## Fields -/

/-- A string, tagged or not. -/
def readString (v : Value) : Except ShapeError String :=
  match v.untag with
  | .string s => .ok s
  | other => .error (.mismatch other .string)

/-- A list of strings; null is the empty one. -/
def readStrings (v : Value) : Except ShapeError (List String) :=
  match v.untag with
  | .sequence items => items.mapM readString
  | .null => .ok []
  | other => .error (.mismatch other .sequence)

/-- A mapping, left as it is; a tagged null is the empty one. -/
def readMapping (v : Value) : Except ShapeError (List (Value × Value)) :=
  match v.untag with
  | .mapping entries => .ok entries
  | .null => .ok []
  | other => .error (.mismatch other .mapping)

/-- A list of strings, where one string stands for the list of itself. No
part may be tagged. -/
def readOneOrMany (v : Value) : Except ShapeError (List String) :=
  if v.hasTag then .error .taggedStrings
  else match v with
    | .string s => .ok [s]
    | .sequence items =>
      match items.mapM Value.text? with
      | some strings => .ok strings
      | none => .error .notStrings
    | _ => .error .notStrings

/-- A field that may be null. -/
def optional {α : Type} (read : Value → Except ShapeError α) (v : Value) :
    Except ShapeError (Option α) :=
  match v with
  | .null => .ok none
  | v => (read v).map some

/-! ## Bodies -/

/-- How one field is taken into a body; `none` for a field that is not
known. -/
abbrev FieldReader (β : Type) := String → Option (Value → β → Except ShapeError β)

/-- Takes in the fields of a body from left to right. `done` holds the
names of the known fields so far, none of which may come again. -/
def readFields {β : Type} (field : FieldReader β) (done : List String) (body : β) :
    List (Value × Value) → Except ShapeError β
  | [] => .ok body
  | (key, value) :: rest =>
    match key.untag with
    | .string name =>
      match field name with
      | none => readFields field done body rest
      | some read =>
        if done.contains name then .error (.duplicateField name)
        else do readFields field (name :: done) (← read value body) rest
    | other => .error (.mismatch other .fieldName)

/-- Reads a body of the given name from a mapping or null. -/
def readBody {β : Type} (name : String) (field : FieldReader β) (blank : β) (v : Value) :
    Except ShapeError β :=
  match v.untag with
  | .mapping entries => readFields field [] blank entries
  | .null => .ok blank
  | other => .error (.mismatch other (.body name))

/-- Text that is empty counts as none. -/
def nonEmpty (text : Option String) : Option String := text.filter (!·.isEmpty)

end PermScript.Config
