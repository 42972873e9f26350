/-
From the shape of a document to its value: tags are read, plain scalars
resolved and aliases replaced by what they name. Nesting is limited, and so
is how often aliases are followed, so that a small document cannot grow
without bound.
-/
import PermScript.Yaml.Schema
import PermScript.Yaml.Tree

namespace PermScript.Yaml

/-- How deep sequences and mappings may nest. -/
def nestingLimit : Nat := 128

/-- How many aliases may be followed for each event of the document. -/
def aliasesPerEvent : Nat := 100

namespace Tree

mutual

/-- The number of events of a tree: one for a scalar or an alias, a start
and an end for a collection. -/
def events : Tree → Nat
  | .alias _ => 1
  | .scalar .. => 1
  | .sequence _ items => 2 + eventsOfItems items
  | .mapping _ entries => 2 + eventsOfEntries entries

/-- The number of events of several trees. -/
def eventsOfItems : List Tree → Nat
  | [] => 0
  | t :: ts => t.events + eventsOfItems ts

/-- The number of events of the entries of a mapping. -/
def eventsOfEntries : List (Tree × Tree) → Nat
  | [] => 0
  | (k, v) :: es => k.events + v.events + eventsOfEntries es

end

mutual

/-- The nodes with an anchor in the order in which they begin, put behind
`later` ones. -/
def anchored (later : List (Nat × Tree)) : Tree → List (Nat × Tree)
  | .alias _ => later
  | t@(.scalar p ..) => label p t later
  | t@(.sequence p items) => label p t (anchoredItems later items)
  | t@(.mapping p entries) => label p t (anchoredEntries later entries)

/-- The anchored nodes of several trees. -/
def anchoredItems (later : List (Nat × Tree)) : List Tree → List (Nat × Tree)
  | [] => later
  | t :: ts => anchored (anchoredItems later ts) t

/-- The anchored nodes of the entries of a mapping. -/
def anchoredEntries (later : List (Nat × Tree)) : List (Tree × Tree) → List (Nat × Tree)
  | [] => later
  | (k, v) :: es => anchored (anchored (anchoredEntries later es) v) k

/-- Puts a node with an anchor in front. -/
def label (p : Properties) (t : Tree) (later : List (Nat × Tree)) : List (Nat × Tree) :=
  match p.anchor with
  | some n => (n, t) :: later
  | none => later

end

end Tree

/-- A step of composition: it fails where no value can be made, and counts
the aliases that may still be followed. -/
abbrev Composing := StateT Nat Option

/-- The name of a local tag, one that begins with its mark. A mark alone
names itself. -/
def localTag? (t : TagText) : Option String :=
  match t.readable, t.chars with
  | true, '!' :: rest =>
    let name := if rest.isEmpty then ['!'] else rest
    -- A second mark is dropped as well, unless nothing is left.
    some (String.ofList (match name with
      | '!' :: c :: cs => c :: cs
      | cs => cs))
  | _, _ => none

/-- The value of a scalar. A plain one is resolved unless a tag makes it a
string; where the local tag has been taken off, other tags do not count. -/
def scalarValue? (taken : Bool) (p : Properties) (text : String) (plain : Bool) : Option Value :=
  match (if taken then none else p.tag) with
  | none => if plain then plainValue? text else some (.string text)
  | some tag => do
    match ← commonTagValue? (if tag.readable then String.ofList tag.chars else "") text with
    | some v => some v
    | none => if plain && tag.chars.head? == some '!' then plainValue? text else some (.string text)

/-- Puts the local tag of a node, unless it is taken already, around the
value of its contents. -/
def underTag (taken : Bool) (p : Properties) (contents : Bool → Composing Value) :
    Composing Value := do
  match if taken then none else p.tag.bind localTag? with
  | some tag => return .tagged tag (← contents true)
  | none => contents taken

/-- Adds an entry to a mapping, which must not have its key already. -/
def addEntry (entries : List (Value × Value)) (key value : Value) :
    Option (List (Value × Value)) :=
  if entries.any (fun e => e.1.sameKey key) then none else some (entries ++ [(key, value)])

/-- The node that an alias names, with the count of aliases reduced; any
other node is itself. -/
def follow (anchors : List (Nat × Tree)) (taken : Bool) : Tree → Composing (Tree × Bool)
  | .alias n => do
    let left ← get
    if left = 0 then failure
    set (left - 1)
    -- Of several nodes with the number the last one counts.
    return (← (anchors.reverse.lookup n), false)
  | t => return (t, taken)

/-- Composes a node whose collections may nest `depth` deep. Keys share
with their mapping whether its local tag is taken; items and values start
anew. -/
def compose (anchors : List (Nat × Tree)) : Nat → Bool → Tree → Composing Value
  | 0, taken, t => do
    match ← follow anchors taken t with
    | (.scalar p text plain, taken) =>
      underTag taken p fun taken => scalarValue? taken p text plain
    | _ => failure
  | depth + 1, taken, t => do
    match ← follow anchors taken t with
    | (.scalar p text plain, taken) =>
      underTag taken p fun taken => scalarValue? taken p text plain
    | (.sequence p items, taken) =>
      underTag taken p fun _ => do
        return .sequence (← items.mapM (compose anchors depth false))
    | (.mapping p entries, taken) =>
      underTag taken p fun taken => do
        let entries ← entries.foldlM (fun done e => do
          let key ← compose anchors depth taken e.1
          let value ← compose anchors depth false e.2
          addEntry done key value) []
        return .mapping entries
    | (.alias _, _) => failure

/-- The value of a document. -/
def Value.ofTree? (t : Tree) : Option Value :=
  let budget := aliasesPerEvent * t.events
  ((compose (t.anchored []) nestingLimit false t).run budget).map (·.1)

end PermScript.Yaml
