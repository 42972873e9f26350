/-
The log of a run: events with a level, shown in plain text or in colour,
and a count of the warnings that the conversion itself gave rise to.
-/
import PermScript.Warning

namespace PermScript

/-- The weight of an event, from the gravest. -/
inductive Level
  | error
  | warn
  | info
  | debug
  | trace
  deriving DecidableEq, Repr

/-- How grave a level is; the gravest is 1. -/
def Level.rank : Level → Nat
  | error => 1
  | warn => 2
  | info => 3
  | debug => 4
  | trace => 5

/-- The levels with their names. -/
def Level.all : List (String × Level) :=
  [("error", .error), ("warn", .warn), ("info", .info), ("debug", .debug), ("trace", .trace)]

/-- Which events are shown: those at least as grave as a level, or none. -/
abbrev Filter := Option Level

/-- The filter of a run that nothing else decides. -/
def Filter.default (verbose : Bool) : Filter := some (if verbose then .debug else .info)

/-- The filter that a text asks for: the name of a level in any case, its
number, a word for none; the empty text asks for errors only. -/
def Filter.ofText? (text : String) : Option Filter :=
  let name := String.ofList (text.toList.map Char.toLower)
  if name.isEmpty then some (some .error)
  else if name == "off" || name == "0" then some none
  else match Level.all.find? fun l => l.1 == name || toString l.2.rank == name with
    | some l => some (some l.2)
    | none => none

/-- An event of the log. -/
structure Event where
  level : Level
  /-- Whether the event opens a stage of the run. -/
  stage : Bool := false
  message : String
  deriving DecidableEq, Repr

/-- Whether a filter shows an event. -/
def Event.isShown (filter : Filter) (e : Event) : Bool :=
  filter.any fun l => e.level.rank ≤ l.rank

/-- A colour code, or nothing where colours are off. -/
def colour (on : Bool) (code : String) : String := if on then "\x1b[" ++ code ++ "m" else ""

/-- An event as a line, with its end. -/
def Event.text (colours : Bool) (e : Event) : String :=
  let paint := colour colours
  let reset := paint "0"
  let line := match e.level with
    | .error => paint "31" ++ "ERROR" ++ reset ++ " " ++ e.message
    | .warn => paint "33" ++ "WARN" ++ reset ++ "  " ++ e.message
    | .info =>
      if e.stage then paint "1;34" ++ "==>" ++ reset ++ " " ++ paint "1" ++ e.message ++ reset
      else "  " ++ e.message
    | _ => "  " ++ paint "2" ++ e.message ++ reset
  line ++ "\n"

/-- The events of a run and how many conversion warnings are among them. -/
structure Log where
  events : List Event := []
  warningCount : Nat := 0
  deriving DecidableEq, Repr

namespace Log

/-- Adds an event. -/
def add (log : Log) (e : Event) : Log := { log with events := log.events ++ [e] }

/-- Opens a stage. -/
def stage (log : Log) (message : String) : Log := log.add ⟨.info, true, message⟩

/-- Adds an event that is no stage. -/
def say (log : Log) (level : Level) (message : String) : Log := log.add ⟨level, false, message⟩

/-- Adds a conversion warning and counts it. -/
def warning (log : Log) (w : Warning) : Log :=
  { log.say .warn w.detail with warningCount := log.warningCount + 1 }

/-- The shown events as text. -/
def text (log : Log) (filter : Filter) (colours : Bool) : String :=
  String.join ((log.events.filter (·.isShown filter)).map (·.text colours))

end Log

end PermScript
