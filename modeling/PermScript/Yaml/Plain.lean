/-
Plain scalars: words without quotes, which end where an indicator, a
comment, a document mark or a shallower line begins.
-/
import PermScript.Yaml.Source

namespace PermScript.Yaml

/-- A scalar read from the text, with what follows it. -/
structure Scanned where
  text : List Char
  rest : List Char
  place : Place
  /-- Whether the text after the last word was crossed to a new line. -/
  crossedLine : Bool := false

/-- Whether a plain scalar ends before `c`, which `rest` follows. -/
def endsPlain (inFlow : Bool) (c : Char) (rest : List Char) : Bool :=
  (c == ':' && startsBlank rest) || (inFlow && isFlowIndicator c)

/-- Whether `c` is a colon that a flow collection cannot read. -/
def isStrayColon (inFlow : Bool) (c : Char) : List Char → Bool
  | next :: _ => inFlow && c == ':' && (next == '?' || isFlowIndicator next)
  | [] => false

/-- Reads a plain scalar on from `p`, where `done` is its reversed text so
far and `gap` what follows its last word. Lines of a block have to reach
the column `indent`; a tab before it is an error. -/
def plainFrom (inFlow : Bool) (indent : Int) (p : Place) (done : List Char) (gap : Gap) :
    List Char → Option Scanned
  | [] => some ⟨done.reverse, [], p, gap.crossesLine⟩
  | c :: rest =>
    if isBlank c then
      if gap.crossesLine && c == '\t' && decide ((p.column : Int) < indent) then none
      else plainFrom inFlow indent (p.after c) done (gap.addBlank c) rest
    else if isBreak c then plainFrom inFlow indent (p.after c) done (gap.addBreak c) rest
    else if gap.isOpen && (atDocumentMark p (c :: rest) || c == '#' ||
        (!inFlow && decide ((p.column : Int) < indent))) then
      some ⟨done.reverse, c :: rest, p, gap.crossesLine⟩
    else if isStrayColon inFlow c rest then none
    else if endsPlain inFlow c rest then some ⟨done.reverse, c :: rest, p, gap.crossesLine⟩
    else plainFrom inFlow indent (p.after c) (c :: (gap.text.reverse ++ done)) .none rest

end PermScript.Yaml
