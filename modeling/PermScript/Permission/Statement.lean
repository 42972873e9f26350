/-
Statements: permissions as a configuration writes them. A statement grants
or, after a negation mark, denies what its pattern stands for; under a
world its keys carry the world's name.
-/
import PermScript.Permission.Pattern
import PermScript.Permission.Set

namespace PermScript

/-- How the statements of a configuration are read. -/
structure PatternRules where
  /-- The mark that turns a grant into a denial. -/
  negation : Char
  /-- Whether alternatives are expanded. -/
  expands : Bool
  deriving DecidableEq, Repr

namespace PatternRules

/-- Whether the statement grants, and its pattern: one negation mark is
taken off. -/
def split (rules : PatternRules) (statement : String) : Bool × String :=
  match statement.toList with
  | c :: cs => if c = rules.negation then (false, String.ofList cs) else (true, statement)
  | [] => (true, statement)

/-- The literals of a pattern. -/
def literals (rules : PatternRules) (pattern : String) : List String :=
  if rules.expands then expand pattern else [pattern]

end PatternRules

/-- What stands before the keys of a scope: nothing, or the world's name. -/
def scopeMark : Option String → String
  | none => ""
  | some world => world ++ ":"

/-- The entries that a statement makes in a scope, in order. -/
def statementEntries (rules : PatternRules) (world : Option String) (statement : String) :
    List Permission :=
  let (value, pattern) := rules.split statement
  (rules.literals pattern).map fun literal => (scopeMark world ++ literal, value)

/-- The permissions of a list of statements in one scope; of two statements
on one key the later one counts. -/
def PermissionSet.ofStatements (rules : PatternRules) (world : Option String)
    (statements : List String) : PermissionSet :=
  PermissionSet.empty.insertMany (statements.flatMap (statementEntries rules world))

/-- The permissions of an entity: first its global statements, then those
of each world in order. -/
def PermissionSet.ofScopes (rules : PatternRules) (global : List String)
    (worlds : List (String × List String)) : PermissionSet :=
  worlds.foldl (fun set w => set.extend (.ofStatements rules (some w.1) w.2))
    (.ofStatements rules none global)

end PermScript
