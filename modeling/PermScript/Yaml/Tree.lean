/-
The shape of a document: scalars, sequences and mappings as they are
written, with aliases still standing for the nodes they name. A tree is
read from the tokens by one function for each kind of collection.
-/
import PermScript.Yaml.Token

namespace PermScript.Yaml

/-- What stands before a node: the number of its anchor and its tag. -/
structure Properties where
  anchor : Option Nat := none
  tag : Option TagText := none
  deriving DecidableEq, Repr, Inhabited

/-- Whether neither an anchor nor a tag has been read. -/
def Properties.isEmpty (p : Properties) : Bool := p.anchor.isNone && p.tag.isNone

/-- A node as it is written. -/
inductive Tree
  | alias (anchor : Nat)
  | scalar (properties : Properties) (text : String) (plain : Bool)
  | sequence (properties : Properties) (items : List Tree)
  | mapping (properties : Properties) (entries : List (Tree × Tree))
  deriving Inhabited

/-- The node that is left out. -/
def Tree.empty : Tree := .scalar {} "" true

/-! ## Names -/

/-- What the names of a document mean: the handles of tags, and the anchors
so far with their numbers. -/
structure Names where
  handles : List (String × TagText)
  anchors : List (String × Nat)

/-- The meaning of the two handles that every document has. -/
def defaultHandles : List (String × TagText) :=
  [("!", ⟨['!'], true⟩), ("!!", ⟨"tag:yaml.org,2002:".toList, true⟩)]

/-- Names an anchor. Its number is that of the different names before it,
so a name used again may share its number with the next new one. -/
def Names.define (n : Names) (name : String) : Nat × Names :=
  let number := n.anchors.length
  (number, { n with anchors := (name, number) :: n.anchors.filter (·.1 != name) })

/-- The full name of a tag. A tag without a handle is one already. -/
def Names.tag? (n : Names) (handle : String) (suffix : TagText) : Option TagText :=
  if handle.isEmpty then some suffix else (n.handles.lookup handle).map (· ++ suffix)

/-! ## Reading -/

/-- Tokens still to be read and the names known so far. -/
structure Remaining where
  tokens : List Token
  names : Names

/-- A step of reading, which fails where the tokens make no document. -/
abbrev Reading := StateT Remaining Option

namespace Reading

/-- The next token, left where it is. -/
def peek : Reading (Option Token) := do return (← get).tokens.head?

/-- Drops the next token. -/
def skip : Reading Unit := modify fun r => { r with tokens := r.tokens.tail }

/-- Whether the next token is one of the given ones. -/
def atAny (ts : List Token) : Reading Bool := do return (← peek).any ts.contains

/-- Reads the anchor and the tag of a node, in either order and each at
most once. -/
def properties : Nat → Properties → Reading Properties
  | 0, p => return p
  | n + 1, p => do
    match ← peek with
    | some (.anchor name) =>
      if p.anchor.isSome then return p
      skip
      let (number, names) := (← get).names.define name
      modify fun r => { r with names }
      properties n { p with anchor := some number }
    | some (.tag handle suffix) =>
      if p.tag.isSome then return p
      skip
      let tag ← (← get).names.tag? handle suffix
      properties n { p with tag := some tag }
    | _ => return p

mutual

/-- Reads a node. Block collections count where `block` is set, and entries
without a sequence around them where `indentless` is. A node with
properties may have no content. -/
def node (block indentless : Bool) : Nat → Reading Tree
  | 0 => failure
  | n + 1 => do
    if let some (.alias name) ← peek then
      skip
      return .alias (← (← get).names.anchors.lookup name)
    let p ← properties 2 {}
    match ← peek with
    | some (.scalar text plain) => skip; return .scalar p text plain
    | some .flowSequenceStart => skip; return .sequence p (← flowItems true n)
    | some .flowMappingStart => skip; return .mapping p (← flowEntries true n)
    | next =>
      if indentless && next == some .blockEntry then
        return .sequence p (← indentlessItems n)
      else if block && next == some .blockSequenceStart then
        skip; return .sequence p (← blockItems n)
      else if block && next == some .blockMappingStart then
        skip; return .mapping p (← blockEntries n)
      else if p.isEmpty then failure
      else return .scalar p "" true

/-- Reads a node unless one of the tokens `before` comes, which leave it out. -/
def nodeBefore (before : List Token) (block indentless : Bool) : Nat → Reading Tree
  | 0 => failure
  | n + 1 => do if ← atAny before then return .empty else node block indentless n

/-- Reads the entries of a block sequence and its end. -/
def blockItems : Nat → Reading (List Tree)
  | 0 => failure
  | n + 1 => do
    match ← peek with
    | some .blockEntry =>
      skip
      let item ← nodeBefore [.blockEntry, .blockEnd] true false n
      return item :: (← blockItems n)
    | some .blockEnd => skip; return []
    | _ => failure

/-- Reads the entries of a sequence at the column of the mapping around it,
which end with the last dash. -/
def indentlessItems : Nat → Reading (List Tree)
  | 0 => failure
  | n + 1 => do
    if ← atAny [.blockEntry] then
      skip
      let item ← nodeBefore [.blockEntry, .key, .value, .blockEnd] true false n
      return item :: (← indentlessItems n)
    else return []

/-- Reads the entries of a block mapping and its end. -/
def blockEntries : Nat → Reading (List (Tree × Tree))
  | 0 => failure
  | n + 1 => do
    match ← peek with
    | some .key =>
      skip
      let key ← nodeBefore [.key, .value, .blockEnd] true true n
      let value ← valueBefore [.key, .value, .blockEnd] true true n
      return (key, value) :: (← blockEntries n)
    | some .blockEnd => skip; return []
    | _ => failure

/-- Reads the value of an entry, which has one if its mark comes. -/
def valueBefore (before : List Token) (block indentless : Bool) : Nat → Reading Tree
  | 0 => failure
  | n + 1 => do
    if ← atAny [.value] then
      skip
      nodeBefore before block indentless n
    else return .empty

/-- Reads the items of a flow sequence and its end; a comma stands before
each but the first, and may stand before the end. -/
def flowItems (first : Bool) : Nat → Reading (List Tree)
  | 0 => failure
  | n + 1 => do
    if ← atAny [.flowSequenceEnd] then skip; return []
    unless first do
      unless ← atAny [.flowEntry] do failure
      skip
    match ← peek with
    | some .flowSequenceEnd => skip; return []
    | some .key =>
      skip
      let entry ← flowPair n
      return .mapping {} [entry] :: (← flowItems false n)
    | _ =>
      let item ← node false false n
      return item :: (← flowItems false n)

/-- Reads a single entry inside a flow sequence, after the mark of its key.
Where the key is left out, the token in its place goes with it. -/
def flowPair : Nat → Reading (Tree × Tree)
  | 0 => failure
  | n + 1 => do
    let omitted ← atAny [.value, .flowEntry, .flowSequenceEnd]
    if omitted then skip
    let key ← if omitted then pure .empty else node false false n
    return (key, ← valueBefore [.flowEntry, .flowSequenceEnd] false false n)

/-- Reads the entries of a flow mapping and its end. A key without a mark
has no value. -/
def flowEntries (first : Bool) : Nat → Reading (List (Tree × Tree))
  | 0 => failure
  | n + 1 => do
    if ← atAny [.flowMappingEnd] then skip; return []
    unless first do
      unless ← atAny [.flowEntry] do failure
      skip
    match ← peek with
    | some .flowMappingEnd => skip; return []
    | some .key =>
      skip
      let key ← nodeBefore [.value, .flowEntry, .flowMappingEnd] false false n
      let value ← valueBefore [.flowEntry, .flowMappingEnd] false false n
      return (key, value) :: (← flowEntries false n)
    | _ =>
      let key ← node false false n
      return (key, .empty) :: (← flowEntries false n)

end

end Reading

/-! ## Documents -/

/-- Adds a directive to the handles of a document; each handle is set at
most once, and only versions 1.1 and 1.2 are known. -/
def readDirectives (versioned : Bool) (handles : List (String × TagText)) :
    List Token → Option (List (String × TagText) × List Token)
  | .versionDirective major minor :: rest =>
    if versioned || major != 1 || (minor != 1 && minor != 2) then none
    else readDirectives true handles rest
  | .tagDirective handle meaning :: rest =>
    if (handles.lookup handle).isSome then none
    else readDirectives versioned (handles ++ [(handle, meaning)]) rest
  | rest => some (handles, rest)

/-- Whether a token begins a document or ends one, so that a document that
was begun without content is empty. -/
def Token.boundsDocument : Token → Bool
  | .versionDirective .. | .tagDirective .. | .documentStart | .documentEnd => true
  | _ => false

/-- The document that the tokens form, `some none` if there is none at all.
Nothing but end marks may follow it. -/
def Tree.ofTokens? (tokens : List Token) : Option (Option Tree) :=
  if tokens.isEmpty then some none
  else do
    let (handles, rest) ← readDirectives false [] tokens
    let names : Names := ⟨handles ++ defaultHandles, []⟩
    -- Each function takes a token or hands over to one that does.
    let fuel := 4 * tokens.length + 4
    let (root, rest) ← match rest with
      | .documentStart :: body =>
        if body.head?.all Token.boundsDocument then some (Tree.empty, body)
        else (Reading.node true false fuel ⟨body, names⟩).map fun (t, r) => (t, r.tokens)
      | _ =>
        if rest.length < tokens.length then none
        else (Reading.node true false fuel ⟨rest, names⟩).map fun (t, r) => (t, r.tokens)
    if rest.all (· == .documentEnd) then some (some root) else none

end PermScript.Yaml
