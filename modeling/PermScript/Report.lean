/-
What writing a roster comes to: the script, its counts and every warning in
the order in which it arose, from reading, from ordering the groups and from
writing.
-/
import PermScript.Hierarchy
import PermScript.Script

namespace PermScript

/-- The result of writing a roster. -/
structure Report where
  script : Script
  /-- The counts of the script; its warnings are among those of the report. -/
  tally : Tally
  warnings : List Warning
  deriving DecidableEq

/-- Writes a roster, the groups in the order of their hierarchy. -/
def Roster.report (r : Roster) : Report :=
  let resolution := resolve r.groups
  let script := Script.of r.players r.groups resolution.order
  let tally := script.tally
  { script
    tally := { tally with warnings := [] }
    warnings := r.warnings ++ resolution.warnings ++ tally.warnings }

end PermScript
