/-
The tokens of a document, in the order in which a reader of the whole text
would name them.
-/
namespace PermScript.Yaml

/-- The name of a tag, or a handle's meaning. `readable` is false when its
escapes spell no text; such a tag names nothing. -/
structure TagText where
  chars : List Char
  readable : Bool := true
  deriving DecidableEq, Repr, Inhabited

instance : Append TagText where
  append a b := ⟨a.chars ++ b.chars, a.readable && b.readable⟩

/-- One token. -/
inductive Token
  | versionDirective (major minor : Nat)
  | tagDirective (handle : String) (meaning : TagText)
  | documentStart
  | documentEnd
  | blockSequenceStart
  | blockMappingStart
  | blockEnd
  | flowSequenceStart
  | flowSequenceEnd
  | flowMappingStart
  | flowMappingEnd
  | blockEntry
  | flowEntry
  | key
  | value
  | alias (name : String)
  | anchor (name : String)
  | tag (handle : String) (suffix : TagText)
  | scalar (text : String) (plain : Bool)
  deriving DecidableEq, Repr, Inhabited

end PermScript.Yaml
