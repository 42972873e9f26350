/-
Block scalars: indented lines taken over as they are or folded, with a
header that may fix the indentation and says what becomes of the line
breaks at the end.
-/
import PermScript.Yaml.Plain

namespace PermScript.Yaml

/-- What becomes of the line breaks after the last line. -/
inductive Chomp
  | strip
  | clip
  | keep
  deriving DecidableEq, Repr

/-- The chomping that a character asks for. -/
def Chomp.of? : Char → Option Chomp
  | '-' => some .strip
  | '+' => some .keep
  | _ => none

/-- The header's indicators, a chomping mark and an indentation digit in
either order, with how many characters they take. -/
def blockHeader? : List Char → Option (Chomp × Nat × Nat)
  | c :: d :: _ =>
    match Chomp.of? c with
    | some chomp =>
      if d == '0' then none
      else if d.isDigit then some (chomp, d.toNat - '0'.toNat, 2) else some (chomp, 0, 1)
    | none =>
      if c == '0' then none
      else if c.isDigit then
        match Chomp.of? d with
        | some chomp => some (chomp, c.toNat - '0'.toNat, 2)
        | none => some (.clip, c.toNat - '0'.toNat, 1)
      else some (.clip, 0, 0)
  | [c] =>
    match Chomp.of? c with
    | some chomp => some (chomp, 0, 1)
    | none =>
      if c == '0' then none
      else if c.isDigit then some (.clip, c.toNat - '0'.toNat, 1) else some (.clip, 0, 0)
  | [] => some (.clip, 0, 0)

/-- Skips blanks and a comment to the end of the line; anything else there
is an error. -/
def endOfLine? (inComment : Bool) (p : Place) : List Char → Option (List Char × Place)
  | [] => some ([], p)
  | c :: rest =>
    if isBreak c then some (rest, p.after c)
    else if inComment || isBlank c then endOfLine? inComment (p.after c) rest
    else if c == '#' then endOfLine? true (p.after c) rest
    else none

/-- The blank lines in front of a block whose indentation is not given:
their breaks, the deepest column that spaces reached, and what follows. -/
def leadingLines (p : Place) (breaks : List Char) (deepest : Nat) :
    List Char → Option (List Char × Nat × List Char × Place)
  | [] => some (breaks, deepest, [], p)
  | c :: rest =>
    if c == ' ' then leadingLines (p.after c) breaks (max deepest (p.column + 1)) rest
    else if c == '\t' then none
    else if isBreak c then leadingLines (p.after c) (breaks ++ [c]) deepest rest
    else some (breaks, deepest, c :: rest, p)

/-- The line breaks between two lines of a block: the one that ended the
line and those of blank lines after it. -/
structure Breaks where
  first : List Char
  more : List Char

/-- What stands between two lines. Folding joins lines that begin with
neither space nor tab: a single break becomes a space, of several the first
goes. -/
def Breaks.text (b : Breaks) (folds : Bool) : List Char :=
  if folds && b.first == ['\n'] then (if b.more.isEmpty then [' '] else b.more)
  else b.first ++ b.more

/-- What stands after the last line. -/
def Breaks.tail (b : Breaks) : Chomp → List Char
  | .strip => []
  | .clip => b.first
  | .keep => b.first ++ b.more

/-- Reads the lines of a block that are indented to the column `indent`.
`done` is the reversed text so far, `breaks` what followed its last line,
`wasBlank` tells whether that line began with a blank and `inLine` whether
the place is inside a line. -/
def blockFrom (literal : Bool) (chomp : Chomp) (indent : Nat) (p : Place) (done : List Char)
    (breaks : Breaks) (wasBlank inLine : Bool) : List Char → Option Scanned
  | [] => some ⟨done.reverse ++ breaks.tail chomp, [], p, false⟩
  | c :: rest =>
    if inLine then
      if isBreak c then
        blockFrom literal chomp indent (p.after c) done ⟨[c], []⟩ wasBlank false rest
      else blockFrom literal chomp indent (p.after c) (c :: done) breaks wasBlank true rest
    else if c == ' ' && p.column < indent then
      blockFrom literal chomp indent (p.after c) done breaks wasBlank false rest
    else if c == '\t' && p.column < indent then none
    else if isBreak c then
      blockFrom literal chomp indent (p.after c) done { breaks with more := breaks.more ++ [c] }
        wasBlank false rest
    else if p.column == indent then
      let folds := !literal && !wasBlank && !isBlank c
      blockFrom literal chomp indent (p.after c) (c :: ((breaks.text folds).reverse ++ done))
        ⟨[], []⟩ (isBlank c) true rest
    else some ⟨done.reverse ++ breaks.tail chomp, c :: rest, p, false⟩

/-- Reads a block scalar after its `|` or `>` inside a block indented to
the column `parent`, which is -1 outside every block. -/
def blockText? (literal : Bool) (parent : Int) (p : Place) (cs : List Char) : Option Scanned := do
  let (chomp, increment, width) ← blockHeader? cs
  let (rest, p) ← endOfLine? false (p.right width) (cs.drop width)
  if increment ≠ 0 then
    blockFrom literal chomp ((max parent 0).toNat + increment) p [] ⟨[], []⟩ false false rest
  else
    let (breaks, deepest, rest, p) ← leadingLines p [] 0 rest
    let indent := max (max deepest (parent + 1).toNat) 1
    blockFrom literal chomp indent p [] ⟨[], breaks⟩ false false rest

end PermScript.Yaml
