/-
Tags and directives: handles, the names behind them with their escapes,
and the two directives that may stand before a document.
-/
import PermScript.Number.Binary64
import PermScript.Yaml.Source
import PermScript.Yaml.Token

namespace PermScript.Yaml

/-- How many octets the character takes that begins with this one. -/
def octetWidth? (octet : Nat) : Option Nat :=
  if octet < 0x80 then some 1
  else if 0xC0 ≤ octet && octet < 0xE0 then some 2
  else if 0xE0 ≤ octet && octet < 0xF0 then some 3
  else if 0xF0 ≤ octet && octet < 0xF8 then some 4
  else none

/-- The text that the octets of one escaped character spell. -/
def ofOctets (octets : List Nat) : TagText :=
  match String.fromUTF8? ⟨(octets.map UInt8.ofNat).toArray⟩ with
  | some s => ⟨s.toList, true⟩
  | none => ⟨[], false⟩

/-- Reads the characters of a tag. `octets` are those of an escaped
character that still needs `need` more, `done` is the text so far. -/
def tagTextFrom (wide : Bool) (need : Nat) (octets : List Nat) (done : TagText) :
    List Char → Option (TagText × List Char)
  | '%' :: a :: b :: rest => do
    let octet := (← hexValue? a) * 16 + (← hexValue? b)
    if need = 0 then
      let width ← octetWidth? octet
      if width = 1 then tagTextFrom wide 0 [] (done ++ ofOctets [octet]) rest
      else tagTextFrom wide (width - 1) [octet] done rest
    else if 0x80 ≤ octet ∧ octet < 0xC0 then
      if need = 1 then tagTextFrom wide 0 [] (done ++ ofOctets (octets ++ [octet])) rest
      else tagTextFrom wide (need - 1) (octets ++ [octet]) done rest
    else none
  | c :: rest =>
    if need ≠ 0 || c == '%' then none
    else if isTagChar wide c then tagTextFrom wide 0 [] (done ++ ⟨[c], true⟩) rest
    else some (done, c :: rest)
  | [] => if need ≠ 0 then none else some (done, [])

/-- Reads the rest of a tag whose first characters are `head`; the whole
may not be empty, and a null character ends it early. -/
def tagText? (wide : Bool) (head cs : List Char) : Option (TagText × List Char) := do
  let (text, rest) ← tagTextFrom wide 0 [] ⟨head, true⟩ cs
  if head.isEmpty && rest.length == cs.length then none
  else some ({ text with chars := text.chars.takeWhile (· != '\x00') }, rest)

/-- Splits a handle off: a mark, a word and perhaps another mark. -/
def splitHandle? : List Char → Option (List Char × List Char)
  | '!' :: cs =>
    let word := cs.takeWhile isWord
    match cs.dropWhile isWord with
    | '!' :: rest => some ('!' :: word ++ ['!'], rest)
    | rest => some ('!' :: word, rest)
  | _ => none

/-- A tag in angle brackets, after the opening one. -/
def verbatimTag? (cs : List Char) : Option (Token × List Char) := do
  let (suffix, rest) ← tagText? true [] cs
  match rest with
  | '>' :: rest => some (.tag "" suffix, rest)
  | _ => none

/-- A tag made of a handle and a suffix. A word after a single mark belongs
to the suffix; a mark alone is a tag of its own. -/
def shorthandTag? (cs : List Char) : Option (Token × List Char) := do
  let (handle, rest) ← splitHandle? cs
  if 2 ≤ handle.length && handle.getLast? == some '!' then
    let (suffix, rest) ← tagText? false [] rest
    some (.tag (String.ofList handle) suffix, rest)
  else
    -- The mark itself counts, so nothing need follow it.
    let (suffix, rest) ← tagTextFrom false 0 [] ⟨handle.drop 1, true⟩ rest
    let suffix := { suffix with chars := suffix.chars.takeWhile (· != '\x00') }
    if suffix.chars.isEmpty && suffix.readable then some (.tag "" ⟨['!'], true⟩, rest)
    else some (.tag "!" suffix, rest)

/-- Reads a tag; a blank or a line end has to follow, or a comma inside a
flow collection. -/
def tag? (inFlow : Bool) (cs : List Char) : Option (Token × List Char) := do
  let (token, rest) ← match cs with
    | '!' :: '<' :: rest => verbatimTag? rest
    | cs => shorthandTag? cs
  if startsBlank rest || (inFlow && rest.head? == some ',') then some (token, rest) else none

/-! ## Directives -/

/-- Reads a version number of at most nine digits. -/
def versionNumber? (cs : List Char) : Option (Nat × List Char) :=
  let ds := cs.takeWhile Char.isDigit
  if ds.isEmpty || 9 < ds.length then none
  else some (Number.digitsValue ds, cs.dropWhile Char.isDigit)

/-- What follows the name of a version directive. -/
def versionDirective? (cs : List Char) : Option (Token × List Char) := do
  let (major, rest) ← versionNumber? (cs.dropWhile isBlank)
  match rest with
  | '.' :: rest =>
    let (minor, rest) ← versionNumber? rest
    some (.versionDirective major minor, rest)
  | _ => none

/-- What follows the name of a tag directive: a handle and its meaning. -/
def tagDirective? (cs : List Char) : Option (Token × List Char) := do
  let (handle, rest) ← splitHandle? (cs.dropWhile isBlank)
  if handle != ['!'] && handle.getLast? != some '!' then none
  else match rest with
    | c :: _ =>
      if isBlank c then
        let (meaning, rest) ← tagText? true [] (rest.dropWhile isBlank)
        if startsBlank rest then some (.tagDirective (String.ofList handle) meaning, rest) else none
      else none
    | [] => none

/-- Reads a directive after its percent sign, up to but not with the blanks
and the comment that may end its line. -/
def directive? (cs : List Char) : Option (Token × List Char) :=
  let name := cs.takeWhile isWord
  let rest := cs.dropWhile isWord
  if name.isEmpty || !startsBlank rest then none
  else if name == "YAML".toList then versionDirective? rest
  else if name == "TAG".toList then tagDirective? rest
  else none

end PermScript.Yaml
