/-
Cutting a document into tokens. Most tokens show themselves by their first
character. Two kinds do not: the start and end of an indented block, which
follow from columns, and the mark of a key without one of its own, which is
known only when its colon comes and is then put in front of the key.
-/
import PermScript.Yaml.BlockText
import PermScript.Yaml.Quotation
import PermScript.Yaml.Tag

namespace PermScript.Yaml

/-- A token that may turn out to be a key: where it stands, how many tokens
come before it, and whether it cannot be anything else. -/
structure PossibleKey where
  place : Place
  index : Nat
  required : Bool
  deriving DecidableEq, Repr

/-- A document being cut into tokens. -/
structure Scanner where
  rest : List Char
  place : Place
  /-- The tokens so far. -/
  tokens : Array Token
  /-- The column of the innermost block, -1 outside every block. -/
  indent : Int
  /-- The columns of the blocks around it. -/
  outer : List Int
  /-- The possible key of the innermost flow collection, or of the blocks. -/
  key : Option PossibleKey
  /-- Those of the flow collections around it and of the blocks. -/
  outerKeys : List (Option PossibleKey)
  /-- Whether a key may start here. -/
  keyAllowed : Bool

namespace Scanner

/-- A scanner at the start of a text. -/
def ofChars (cs : List Char) : Scanner where
  rest := cs
  place := ⟨0, 0⟩
  tokens := #[]
  indent := -1
  outer := []
  key := none
  outerKeys := []
  keyAllowed := true

/-- Whether the place is inside a flow collection. -/
def inFlow (s : Scanner) : Bool := !s.outerKeys.isEmpty

/-- Adds a token of `n` characters. -/
def pushWord (s : Scanner) (n : Nat) (t : Token) : Scanner :=
  { s with rest := s.rest.drop n, place := s.place.right n, tokens := s.tokens.push t }

/-- Adds a token read from the line, with `rest` left of the text. -/
def pushRead (s : Scanner) (t : Token) (rest : List Char) : Scanner :=
  s.pushWord (s.rest.length - rest.length) t

/-- Adds a scalar. -/
def pushScalar (s : Scanner) (r : Scanned) (plain : Bool) : Scanner :=
  { s with
    rest := r.rest
    place := r.place
    tokens := s.tokens.push (.scalar (String.ofList r.text) plain)
    keyAllowed := s.keyAllowed || r.crossedLine }

/-- Puts a token in front of the one with the given index. -/
def insertAt (s : Scanner) (index : Nat) (t : Token) : Scanner :=
  { s with tokens := s.tokens.insertIdxIfInBounds index t }

/-! ## Blanks, comments and lines -/

/-- Skips to the next token: blanks, comments and line breaks. A new line
outside flow collections may start a key; a tab is a blank only where no
key may start. Returns the rest, its place and whether a key may start. -/
def blanksFrom (inFlow inComment keyAllowed : Bool) (p : Place) :
    List Char → List Char × Place × Bool
  | [] => ([], p, keyAllowed)
  | c :: rest =>
    if isBreak c then blanksFrom inFlow false (keyAllowed || !inFlow) (p.after c) rest
    else if inComment || c == ' ' || (c == '\t' && (inFlow || !keyAllowed)) ||
        (c == byteOrderMark && p.column == 0) then
      blanksFrom inFlow inComment keyAllowed (p.after c) rest
    else if c == '#' then blanksFrom inFlow true keyAllowed (p.after c) rest
    else (c :: rest, p, keyAllowed)

/-- Moves to the next token. -/
def skipBlanks (s : Scanner) : Scanner :=
  let (rest, place, keyAllowed) := blanksFrom s.inFlow false s.keyAllowed s.place s.rest
  { s with rest, place, keyAllowed }

/-! ## Possible keys -/

/-- The longest key, in characters. -/
def keyLimit : Nat := 1024

/-- A key ends on its line and within the limit; one that did not is no key
any more, and if it had to be one the document is malformed. -/
def expire (p : Place) : Option PossibleKey → Option (Option PossibleKey)
  | some k =>
    if k.place.line < p.line || k.place.column + keyLimit < p.column then
      if k.required then none else some none
    else some (some k)
  | none => some none

/-- Gives up every possible key that is too far back. -/
def expireKeys (s : Scanner) : Option Scanner := do
  let key ← expire s.place s.key
  let outerKeys ← s.outerKeys.mapM (expire s.place)
  some { s with key, outerKeys }

/-- Gives up the innermost possible key, which must not have to be one. -/
def dropKey (s : Scanner) : Option Scanner :=
  if s.key.any (·.required) then none else some { s with key := none }

/-- Notes that the token to come may be a key. At the column of its block
it has to be one. -/
def noteKey (s : Scanner) : Option Scanner :=
  if s.keyAllowed then do
    let required := !s.inFlow && decide (s.indent = s.place.column)
    let s ← s.dropKey
    some { s with key := some ⟨s.place, s.tokens.size, required⟩ }
  else some s

/-! ## Blocks -/

/-- Opens a block at a column deeper than the innermost one, with its start
in front of the token with the given index. -/
def openBlock (s : Scanner) (column : Nat) (index : Nat) (start : Token) : Scanner :=
  if !s.inFlow && decide (s.indent < column) then
    { s.insertAt index start with indent := column, outer := s.indent :: s.outer }
  else s

/-- Closes the blocks deeper than `column`, given those around the
innermost one. -/
def closeFrom (column : Int) (tokens : Array Token) (indent : Int) :
    List Int → Array Token × Int × List Int
  | [] => (tokens, indent, [])
  | next :: outer =>
    if column < indent then closeFrom column (tokens.push .blockEnd) next outer
    else (tokens, indent, next :: outer)

/-- Closes the blocks deeper than `column`. -/
def closeBlocks (s : Scanner) (column : Int) : Scanner :=
  if s.inFlow then s
  else
    let (tokens, indent, outer) := closeFrom column s.tokens s.indent s.outer
    { s with tokens, indent, outer }

/-! ## Tokens -/

/-- Leaves every block, for a directive or a document mark. -/
def leaveBlocks (s : Scanner) : Option Scanner := do
  let s ← (s.closeBlocks (-1)).dropKey
  some { s with keyAllowed := false }

/-- A directive takes its whole line. -/
def directive (s : Scanner) : Option Scanner := do
  let s ← s.leaveBlocks
  let (token, rest) ← directive? (s.rest.drop 1)
  let s := s.pushRead token rest
  let (rest, place) ← endOfLine? false s.place s.rest
  some { s with rest, place }

/-- `---` or `...`. -/
def documentMark (s : Scanner) (t : Token) : Option Scanner := do
  some ((← s.leaveBlocks).pushWord 3 t)

/-- An opening bracket, which may itself be a key. -/
def openFlow (s : Scanner) (t : Token) : Option Scanner := do
  let s ← s.noteKey
  let s := { s with key := none, outerKeys := s.key :: s.outerKeys, keyAllowed := true }
  some (s.pushWord 1 t)

/-- A closing bracket. -/
def closeFlow (s : Scanner) (t : Token) : Option Scanner := do
  let s ← s.dropKey
  let s := match s.outerKeys with
    | key :: outerKeys => { s with key, outerKeys }
    | [] => s
  some ({ s with keyAllowed := false }.pushWord 1 t)

/-- A comma. -/
def flowEntry (s : Scanner) : Option Scanner := do
  some ({ ← s.dropKey with keyAllowed := true }.pushWord 1 .flowEntry)

/-- A dash before an entry. In a flow collection it is left to the reader of
the tokens to refuse it. -/
def blockEntry (s : Scanner) : Option Scanner := do
  if !s.inFlow && !s.keyAllowed then none
  let s ← (s.openBlock s.place.column s.tokens.size .blockSequenceStart).dropKey
  some ({ s with keyAllowed := true }.pushWord 1 .blockEntry)

/-- A question mark before a key. -/
def explicitKey (s : Scanner) : Option Scanner := do
  if !s.inFlow && !s.keyAllowed then none
  let s ← (s.openBlock s.place.column s.tokens.size .blockMappingStart).dropKey
  some ({ s with keyAllowed := !s.inFlow }.pushWord 1 .key)

/-- A colon: the possible key before it becomes one, or the value stands
without a simple key. -/
def colon (s : Scanner) : Option Scanner :=
  match s.key with
  | some k =>
    let s := (s.insertAt k.index .key).openBlock k.place.column k.index .blockMappingStart
    some ({ s with key := none, keyAllowed := false }.pushWord 1 .value)
  | none =>
    if !s.inFlow && !s.keyAllowed then none
    else
      let s := s.openBlock s.place.column s.tokens.size .blockMappingStart
      some ({ s with keyAllowed := !s.inFlow }.pushWord 1 .value)

/-- A name after `&` or `*`; only some characters may follow it. -/
def name (s : Scanner) (token : String → Token) : Option Scanner := do
  let s ← s.noteKey
  let word := (s.rest.drop 1).takeWhile isWord
  let rest := (s.rest.drop 1).dropWhile isWord
  let ends := match rest with
    | c :: _ => startsBlank rest || "?:,]\x7d%@\x60".toList.contains c
    | [] => true
  if word.isEmpty || !ends then none
  else some ({ s with keyAllowed := false }.pushRead (token (String.ofList word)) rest)

/-- A tag. -/
def tag (s : Scanner) : Option Scanner := do
  let s ← s.noteKey
  let (token, rest) ← tag? s.inFlow s.rest
  some ({ s with keyAllowed := false }.pushRead token rest)

/-- A block scalar, which is never a key. -/
def blockScalar (s : Scanner) (literal : Bool) : Option Scanner := do
  let s ← s.dropKey
  let r ← blockText? literal s.indent (s.place.right 1) (s.rest.drop 1)
  some ({ s with keyAllowed := true }.pushScalar r false)

/-- A scalar that the function reads from the text after the first `skip`
characters. -/
def inlineScalar (s : Scanner) (skip : Nat) (plain : Bool)
    (read : Place → List Char → Option Scanned) : Option Scanner := do
  let s ← s.noteKey
  let r ← read (s.place.right skip) (s.rest.drop skip)
  some ({ s with keyAllowed := false }.pushScalar r plain)

/-- Whether a plain scalar may start with `c`, which `rest` follows. -/
def startsPlain (inFlow : Bool) (c : Char) (rest : List Char) : Bool :=
  !(isBlank c || isIndicator c) || (c == '-' && !(rest.head?.any isBlank)) ||
    (!inFlow && (c == '?' || c == ':') && !startsBlank rest)

/-- Reads the token that starts with `c`, which `rest` follows. -/
def token (s : Scanner) (c : Char) (rest : List Char) : Option Scanner :=
  if c == '%' && s.place.column == 0 then s.directive
  else if atDocumentMark s.place s.rest then
    s.documentMark (if c == '-' then .documentStart else .documentEnd)
  else match c with
    | '[' => s.openFlow .flowSequenceStart
    | '\x7b' => s.openFlow .flowMappingStart
    | ']' => s.closeFlow .flowSequenceEnd
    | '\x7d' => s.closeFlow .flowMappingEnd
    | ',' => s.flowEntry
    | '*' => s.name .alias
    | '&' => s.name .anchor
    | '!' => s.tag
    | '\'' => s.inlineScalar 1 false fun p => singleFrom p [] .none
    | '"' => s.inlineScalar 1 false fun p => doubleFrom p [] .none 0 0
    | c =>
      if c == '-' && startsBlank rest then s.blockEntry
      else if c == '?' && (s.inFlow || startsBlank rest) then s.explicitKey
      else if c == ':' && (s.inFlow || startsBlank rest) then s.colon
      else if (c == '|' || c == '>') && !s.inFlow then s.blockScalar (c == '|')
      else if startsPlain s.inFlow c rest then
        s.inlineScalar 0 true fun p => plainFrom s.inFlow (s.indent + 1) p [] .none
      else none

/-- Reads the tokens of the text, at most `fuel` of them. Each takes at
least one character. -/
def run : Nat → Scanner → Option (List Token)
  | 0, _ => none
  | fuel + 1, s => do
    let s ← s.skipBlanks.expireKeys
    match s.rest with
    | [] => some (← (s.closeBlocks (-1)).dropKey).tokens.toList
    | c :: rest => run fuel (← (s.closeBlocks s.place.column).token c rest)

end Scanner

/-- The tokens of a document, or nothing if it is malformed. -/
def tokens? (cs : List Char) : Option (List Token) :=
  Scanner.run (cs.length + 1) (.ofChars cs)

end PermScript.Yaml
