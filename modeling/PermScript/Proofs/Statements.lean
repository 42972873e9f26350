/-
The permissions of an entity, statement by statement.

Each scope has its statements gathered in a set of their own, and the sets
are joined. `get?_ofScopes` says that this comes to the same as going through
all statements in one stream, where the last one on a key decides.
-/
import PermScript.Permission.Statement
import PermScript.Proofs.PermissionSet

namespace PermScript

/-! ## Statements -/

/-- A statement of an entity, with the world it stands under. -/
structure ScopedStatement where
  world : Option String
  text : String

namespace ScopedStatement

variable (rules : PatternRules) (s : ScopedStatement)

/-- A statement grants unless it begins with the negation mark. -/
def grants : Bool := s.text.toList.head? != some rules.negation

/-- What the statement is about: its text, without the mark it may begin with. -/
def pattern : String :=
  if s.grants rules then s.text else String.ofList s.text.toList.tail

/-- The literals of the pattern, which is expanded only if the rules say so. -/
def literals : List String :=
  if rules.expands then expand (s.pattern rules) else [s.pattern rules]

/-- The keys that the statement gives a value: its literals, after the name
of its world and a colon. -/
def keys : List String :=
  match s.world with
  | none => s.literals rules
  | some world => (s.literals rules).map fun literal => world ++ ":" ++ literal

theorem split_text : rules.split s.text = (s.grants rules, s.pattern rules) := by
  rw [PatternRules.split, pattern, grants]
  cases h : s.text.toList with
  | nil => simp
  | cons c cs =>
    by_cases hc : c = rules.negation
    · simp [hc]
    · simp [hc]

/-- A statement gives all its keys the same value. -/
theorem statementEntries_eq :
    statementEntries rules s.world s.text =
      (s.keys rules).map fun key => (key, s.grants rules) := by
  have hentries : statementEntries rules s.world s.text =
      (s.literals rules).map fun literal => (scopeMark s.world ++ literal, s.grants rules) := by
    rw [statementEntries, split_text]
    rfl
  rw [hentries, keys]
  cases s.world with
  | none =>
    refine List.map_congr_left fun literal _ => ?_
    rw [scopeMark, String.empty_append]
  | some world =>
    rw [List.map_map]
    rfl

theorem mem_keys {rules : PatternRules} {s : ScopedStatement} {key : String} :
    key ∈ s.keys rules ↔ ∃ literal ∈ s.literals rules, scopeMark s.world ++ literal = key := by
  rw [keys]
  cases s.world <;> simp [scopeMark]

end ScopedStatement

/-- All statements of an entity, first the global ones, then those of each
world in order. -/
def stream (global : List String) (worlds : List (String × List String)) : List ScopedStatement :=
  global.map (.mk none) ++ worlds.flatMap fun w => w.2.map (.mk (some w.1))

theorem stream_concat (global : List String) (worlds : List (String × List String))
    (w : String × List String) :
    stream global (worlds ++ [w]) = stream global worlds ++ w.2.map (.mk (some w.1)) := by
  rw [stream, stream, List.flatMap_append, List.flatMap_singleton, List.append_assoc]

/-! ## The last statement on a key -/

/-- The value that statements give a key: that of the last one on it. -/
def lastGrant (rules : PatternRules) (statements : List ScopedStatement) (key : String) :
    Option Bool :=
  (statements.filter fun s => key ∈ s.keys rules).getLast?.map (·.grants rules)

theorem lastGrant_append (rules : PatternRules) (statements more : List ScopedStatement)
    (key : String) :
    lastGrant rules (statements ++ more) key =
      (lastGrant rules more key).or (lastGrant rules statements key) := by
  rw [lastGrant, List.filter_append, List.getLast?_append, Option.map_or]
  rfl

theorem lastGrant_singleton (rules : PatternRules) (s : ScopedStatement) (key : String) :
    lastGrant rules [s] key = if key ∈ s.keys rules then some (s.grants rules) else none := by
  by_cases h : key ∈ s.keys rules <;> simp [lastGrant, h]

theorem lastGrant_eq_none {rules : PatternRules} {statements : List ScopedStatement}
    {key : String} :
    lastGrant rules statements key = none ↔ ∀ s ∈ statements, key ∉ s.keys rules := by
  simp [lastGrant]

theorem lastRecord_map_const {keys : List String} (value : Bool) (key : String) :
    lastRecord (keys.map fun k => (k, value)) key = if key ∈ keys then some value else none := by
  induction keys using List.reverseRecOn with
  | nil => rfl
  | append_singleton keys k ih =>
    rw [List.map_append, List.map_singleton, lastRecord_concat, ih]
    by_cases hk : key = k
    · simp [hk]
    · simp [hk]

/-- The last entry on a key comes from the last statement on it. -/
theorem lastRecord_statementEntries (rules : PatternRules) (statements : List ScopedStatement)
    (key : String) :
    lastRecord (statements.flatMap fun s => statementEntries rules s.world s.text) key =
      lastGrant rules statements key := by
  induction statements using List.reverseRecOn with
  | nil => rfl
  | append_singleton statements s ih =>
    have hs : lastRecord (statementEntries rules s.world s.text) key = lastGrant rules [s] key := by
      rw [s.statementEntries_eq, lastRecord_map_const, lastGrant_singleton]
    rw [List.flatMap_append, List.flatMap_singleton, lastRecord_append, ih, hs, lastGrant_append]

namespace PermissionSet

/-- Where both sets have a key, the second decides. -/
theorem get?_extend (s t : PermissionSet) (key : String) :
    (s.extend t).get? key = (t.get? key).or (s.get? key) := by
  have ht : lastRecord t.entries key = t.get? key := by
    ext value
    rw [lastRecord_eq_some_iff t.ascending.nodup_keys, get?_eq_some]
  rw [extend, get?_insertMany, ht]

theorem get?_ofStatements (rules : PatternRules) (world : Option String) (statements : List String)
    (key : String) :
    (ofStatements rules world statements).get? key =
      lastGrant rules (statements.map (.mk world)) key := by
  have hempty : empty.get? key = none := rfl
  rw [ofStatements, get?_insertMany, hempty, Option.or_none, ← lastRecord_statementEntries,
    List.flatMap_map]

theorem ofScopes_concat (rules : PatternRules) (global : List String)
    (worlds : List (String × List String)) (w : String × List String) :
    ofScopes rules global (worlds ++ [w]) =
      (ofScopes rules global worlds).extend (.ofStatements rules (some w.1) w.2) := by
  rw [ofScopes, List.foldl_append]
  rfl

/-- The value of a key is that of the last statement on it, of all global
statements followed by those of each world in order; a key that no statement
is about has none. -/
theorem get?_ofScopes (rules : PatternRules) (global : List String)
    (worlds : List (String × List String)) (key : String) :
    (ofScopes rules global worlds).get? key =
      ((stream global worlds).filter fun s => key ∈ s.keys rules).getLast?.map
        (·.grants rules) := by
  change _ = lastGrant rules (stream global worlds) key
  induction worlds using List.reverseRecOn with
  | nil =>
    rw [ofScopes, List.foldl_nil, get?_ofStatements, stream, List.flatMap_nil, List.append_nil]
  | append_singleton worlds w ih =>
    -- The statements of the last world come after all others.
    rw [ofScopes_concat, get?_extend, ih, get?_ofStatements, stream_concat, lastGrant_append]

end PermissionSet

end PermScript
