/-
The permissions of a world, by those that the same statements give without
one.

Under a world each key comes after the name of the world and a colon. A mark
in front of all keys leaves their order and their values as they are
(`PermissionSet.marked`), and it makes no difference whether a key is marked
before it is inserted or with the set after that (`insert_marked`). So the set
of a world is the marked set of the global scope.
-/
import Mathlib.Data.String.Basic
import PermScript.Proofs.Scopes

namespace PermScript

/-! ## Keys with a mark -/

/-- A mark in front of texts leaves their order as it is. -/
theorem strictMono_append (mark : String) : StrictMono fun text : String => mark ++ text := by
  intro a b h
  have hlist : a.toList < b.toList := String.lt_iff_toList_lt.1 h
  rw [String.lt_iff_toList_lt, String.toList_append, String.toList_append]
  exact List.append_left_lt hlist

/-- The entry with a mark in front of its key. -/
def markEntry (mark : String) (e : Permission) : Permission := (mark ++ e.1, e.2)

theorem insertEntry_markEntry (mark key : String) (value : Bool) (entries : List Permission) :
    insertEntry (mark ++ key) value (entries.map (markEntry mark)) =
      (insertEntry key value entries).map (markEntry mark) := by
  have hlt : ∀ a b : String, mark ++ a < mark ++ b ↔ a < b := fun _ _ =>
    (strictMono_append mark).lt_iff_lt
  induction entries with
  | nil => rfl
  | cons e entries ih =>
    obtain ⟨k, v⟩ := e
    simp only [List.map_cons, markEntry, insertEntry, hlt]
    split
    · rfl
    · split
      · rw [ih]
        rfl
      · rfl

namespace PermissionSet

/-- The set with a mark in front of each key. -/
def marked (mark : String) (s : PermissionSet) : PermissionSet where
  entries := s.entries.map (markEntry mark)
  ascending := by
    rw [Ascending, List.pairwise_map]
    exact s.ascending.imp fun h => strictMono_append mark h

variable (s : PermissionSet) (mark key : String) (value : Bool)

theorem size_marked : (s.marked mark).size = s.size := List.length_map ..

theorem get?_marked : (s.marked mark).get? (mark ++ key) = s.get? key := by
  have hmem : ∀ value, (mark ++ key, value) ∈ (s.marked mark).entries ↔
      (key, value) ∈ s.entries := by
    intro value
    simp [marked, markEntry]
  ext value
  rw [get?_eq_some, get?_eq_some, hmem]

theorem keys_marked : (s.marked mark).keys = s.keys.image (mark ++ ·) := by
  ext k
  simp [keys, marked, markEntry]

theorem insert_marked :
    (s.marked mark).insert (mark ++ key) value = (s.insert key value).marked mark :=
  ext (insertEntry_markEntry mark key value s.entries)

theorem insertMany_marked (entries : List Permission) :
    (s.marked mark).insertMany (entries.map (markEntry mark)) =
      (s.insertMany entries).marked mark := by
  induction entries generalizing s with
  | nil => rfl
  | cons e entries ih =>
    have hstep := s.insert_marked mark e.1 e.2
    rw [List.map_cons, insertMany, List.foldl_cons, markEntry, hstep]
    exact ih (s.insert e.1 e.2)

end PermissionSet

/-! ## Statements of a world -/

/-- A statement makes the same entries in every scope, but for the mark. -/
theorem statementEntries_markEntry (rules : PatternRules) (world : Option String)
    (statement : String) :
    statementEntries rules world statement =
      (statementEntries rules none statement).map (markEntry (scopeMark world)) := by
  simp [statementEntries, markEntry, scopeMark, Function.comp_def]

namespace PermissionSet

variable (rules : PatternRules)

theorem ofStatements_eq_marked (world : Option String) (statements : List String) :
    ofStatements rules world statements =
      (ofStatements rules none statements).marked (scopeMark world) := by
  have hentries : statements.flatMap (statementEntries rules world) =
      (statements.flatMap (statementEntries rules none)).map (markEntry (scopeMark world)) := by
    rw [List.map_flatMap]
    exact List.flatMap_congr fun s _ => statementEntries_markEntry rules world s
  rw [ofStatements, hentries]
  exact insertMany_marked empty _ _

/-- What comes later in a list of statements is laid over what came before. -/
theorem ofStatements_append (world : Option String) (xs ys : List String) :
    ofStatements rules world (xs ++ ys) =
      (ofStatements rules world xs).extend (ofStatements rules world ys) := by
  refine ext_get? fun key => ?_
  rw [get?_extend, get?_ofStatements, get?_ofStatements, get?_ofStatements, List.map_append,
    lastGrant_append]

/-- The set of a world is that of the same statements in the global scope with
the name of the world and a colon in front of each key: a key has there the
value that it has globally without them, there are no other keys, and as many
of them. In every scope the set of two lists on end is that of the first,
extended by that of the second. -/
theorem ofStatements_world (world : String) (statements : List String) :
    (∀ key, (ofStatements rules (some world) statements).get? (world ++ ":" ++ key) =
        (ofStatements rules none statements).get? key) ∧
      (ofStatements rules (some world) statements).keys =
        (ofStatements rules none statements).keys.image (world ++ ":" ++ ·) ∧
      (ofStatements rules (some world) statements).size =
        (ofStatements rules none statements).size ∧
      ∀ scope xs ys, ofStatements rules scope (xs ++ ys) =
        (ofStatements rules scope xs).extend (ofStatements rules scope ys) := by
  have hmarked : ofStatements rules (some world) statements =
      (ofStatements rules none statements).marked (world ++ ":") :=
    ofStatements_eq_marked rules (some world) statements
  rw [hmarked]
  exact ⟨get?_marked _ _, keys_marked _ _, size_marked _ _, ofStatements_append rules⟩

end PermissionSet

end PermScript
