/-
Statements in another order.

Two statements are opposed if the one grants and the other denies a literal
that both stand for. Of opposed statements the later one counts; all others
can change places. A list is a reordering of another if it has the same
statements at other places, and opposed ones one after the other as before
(`Reordering`). Both make the same permissions, and what is written of these is
the same, line by line.
-/
import Mathlib.Logic.Equiv.Fin.Rotate
import Mathlib.Order.Fin.Basic
import PermScript.Config.Pex
import PermScript.Proofs.Statements
import PermScript.Script

namespace PermScript

/-! ## Reorderings -/

/-- One of the statements grants and the other denies, and they have a literal
in common. -/
def Opposed (rules : PatternRules) (s t : String) : Prop :=
  (rules.split s).1 ≠ (rules.split t).1 ∧
    ∃ literal ∈ rules.literals (rules.split s).2, literal ∈ rules.literals (rules.split t).2

instance (rules : PatternRules) (s t : String) : Decidable (Opposed rules s t) :=
  inferInstanceAs (Decidable (_ ∧ ∃ literal ∈ rules.literals (rules.split s).2, _))

/-- The second list has the statements of the first at places of its own,
where any two that are opposed come in the same order. -/
def Reordering (rules : PatternRules) (xs ys : List String) : Prop :=
  ∃ place : Fin xs.length ≃ Fin ys.length,
    (∀ i, ys.get (place i) = xs.get i) ∧
      ∀ i j, i < j → Opposed rules (xs.get i) (xs.get j) → place i < place j

/-! ## The last place -/

/-- The last of the items that pass a test has a place after which none
passes it. -/
theorem exists_last_place {α : Type} {p : α → Bool} {xs : List α} {a : α}
    (h : (xs.filter p).getLast? = some a) :
    ∃ i, xs.get i = a ∧ p a = true ∧ ∀ j, i < j → p (xs.get j) = false := by
  obtain ⟨front, hfront⟩ := List.getLast?_eq_some_iff.1 h
  obtain ⟨before, rest, rfl, -, hrest⟩ := List.filter_eq_append_iff.1 hfront
  obtain ⟨between, after, rfl, -, ha, hafter⟩ := List.filter_eq_cons_iff.1 hrest
  rw [← List.append_assoc]
  generalize before ++ between = front
  refine ⟨⟨front.length, by simp⟩, by simp, ha, fun j hj => ?_⟩
  have hlt : front.length < j := hj
  have hmem : (front ++ a :: after).get j ∈ (front ++ a :: after).drop (front.length + 1) :=
    List.mem_drop_iff_getElem.2 ⟨j - (front.length + 1), by omega, by simp; congr 1; omega⟩
  have hdrop : (front ++ a :: after).drop (front.length + 1) = after := by simp
  rw [hdrop] at hmem
  simpa using List.filter_eq_nil_iff.1 hafter _ hmem

section

variable {rules : PatternRules} {world : Option String}

/-- Statements of one scope that give a key different values are opposed. -/
theorem opposed_of_mem_keys {s t key : String}
    (hs : key ∈ (ScopedStatement.mk world s).keys rules)
    (ht : key ∈ (ScopedStatement.mk world t).keys rules)
    (hne : (ScopedStatement.mk world s).grants rules ≠ (ScopedStatement.mk world t).grants rules) :
    Opposed rules s t := by
  obtain ⟨literal, hliteral, rfl⟩ := ScopedStatement.mem_keys.1 hs
  obtain ⟨literal', hliteral', heq⟩ := ScopedStatement.mem_keys.1 ht
  obtain rfl : literal' = literal := (String.append_right_inj _).1 heq
  have hsplit : ∀ text : String, rules.split text =
      ((ScopedStatement.mk world text).grants rules,
        (ScopedStatement.mk world text).pattern rules) :=
    fun text => (ScopedStatement.mk world text).split_text rules
  rw [Opposed, hsplit, hsplit]
  exact ⟨hne, literal', hliteral, hliteral'⟩

/-- A key has its value from a statement after which none is about it. -/
theorem exists_place_of_get? {statements : List String} {key : String} {value : Bool}
    (h : (PermissionSet.ofStatements rules world statements).get? key = some value) :
    ∃ i, key ∈ (ScopedStatement.mk world (statements.get i)).keys rules ∧
      (ScopedStatement.mk world (statements.get i)).grants rules = value ∧
      ∀ j, i < j → key ∉ (ScopedStatement.mk world (statements.get j)).keys rules := by
  rw [PermissionSet.get?_ofStatements, lastGrant, List.filter_map, List.getLast?_map,
    Option.map_map, Option.map_eq_some_iff] at h
  obtain ⟨s, hlast, hvalue⟩ := h
  obtain ⟨i, rfl, hkey, hafter⟩ := exists_last_place hlast
  refine ⟨i, by simpa using hkey, hvalue, fun j hj => ?_⟩
  simpa using hafter j hj

theorem get?_ofStatements_eq_none {statements : List String} {key : String} :
    (PermissionSet.ofStatements rules world statements).get? key = none ↔
      ∀ i, key ∉ (ScopedStatement.mk world (statements.get i)).keys rules := by
  rw [PermissionSet.get?_ofStatements, lastGrant_eq_none, List.forall_mem_map]
  constructor
  · exact fun h i => h _ (List.get_mem _ _)
  · intro h s hs
    obtain ⟨i, rfl⟩ := List.get_of_mem hs
    exact h i

end

/-! ## Permissions of reordered statements -/

section

variable {rules : PatternRules} {xs ys : List String}

/-- A key that has a value in both sets has the same. -/
theorem get?_eq_of_reordering (h : Reordering rules xs ys) {world : Option String} {key : String}
    {v w : Bool} (hx : (PermissionSet.ofStatements rules world xs).get? key = some v)
    (hy : (PermissionSet.ofStatements rules world ys).get? key = some w) : v = w := by
  obtain ⟨place, hplace, hkeeps⟩ := h
  obtain ⟨i, hi, rfl, hafter⟩ := exists_place_of_get? hx
  obtain ⟨j', hj, rfl, hafter'⟩ := exists_place_of_get? hy
  obtain ⟨j, rfl⟩ := place.surjective j'
  rw [hplace] at hj ⊢
  -- With other values the two last statements would be opposed, and each would be the later one.
  by_contra hne
  have hji : j ≠ i := by
    rintro rfl
    exact hne rfl
  have hlt : j < i := by
    refine lt_of_le_of_ne (not_lt.1 fun hij => ?_) hji
    exact hafter j hij hj
  have hplaces : place j < place i := hkeeps j i hlt (opposed_of_mem_keys hj hi (Ne.symm hne))
  have hnot := hafter' (place i) hplaces
  rw [hplace] at hnot
  exact hnot hi

/-- A reordering makes the same permissions. -/
theorem ofStatements_eq_of_reordering (h : Reordering rules xs ys) (world : Option String) :
    PermissionSet.ofStatements rules world xs = PermissionSet.ofStatements rules world ys := by
  refine PermissionSet.ext_get? fun key => ?_
  have hnone : (PermissionSet.ofStatements rules world xs).get? key = none ↔
      (PermissionSet.ofStatements rules world ys).get? key = none := by
    obtain ⟨place, hplace, -⟩ := h
    rw [get?_ofStatements_eq_none, get?_ofStatements_eq_none, ← place.forall_congr_right]
    simp only [hplace]
  cases hx : (PermissionSet.ofStatements rules world xs).get? key with
  | none => exact (hnone.1 hx).symm
  | some v =>
    cases hy : (PermissionSet.ofStatements rules world ys).get? key with
    | none => exact hx.symm.trans (hnone.2 hy)
    | some w => rw [get?_eq_of_reordering h hx hy]

end

/-- The block with other permissions. -/
def Block.withPermissions (permissions : PermissionSet) : Block → Block
  | player name p => player name { p with permissions }
  | group name g => group name { g with permissions }

/-- A reordering of the statements of a scope makes the same permissions.
What is written of them and warned of is the same for every entity: the same
lines and the same warnings, in the same order. -/
theorem ofStatements_reordered {rules : PatternRules} {xs ys : List String}
    (h : Reordering rules xs ys) (world : Option String) :
    PermissionSet.ofStatements rules world xs = PermissionSet.ofStatements rules world ys ∧
      ∀ b : Block,
        (b.withPermissions (.ofStatements rules world xs)).settings =
            (b.withPermissions (.ofStatements rules world ys)).settings ∧
          (b.withPermissions (.ofStatements rules world xs)).warnings =
            (b.withPermissions (.ofStatements rules world ys)).warnings := by
  have hsame := ofStatements_eq_of_reordering h world
  rw [hsame]
  exact ⟨rfl, fun b => ⟨rfl, rfl⟩⟩

/-- Opposed statements cannot change places. -/
example : PermissionSet.ofStatements Config.Pex.rules none ["a.(x|y)", "-a.x"] ≠
    PermissionSet.ofStatements Config.Pex.rules none ["-a.x", "a.(x|y)"] := by decide

/-- Two opposed statements and a third, which denies what no other is about. -/
def chores : List String := ["a.(x|y)", "-a.x", "-c"]

/-- The same statements, the third of them first. -/
def rotatedChores : List String := ["-c", "a.(x|y)", "-a.x"]

theorem rotated_chores :
    Reordering Config.Pex.rules chores rotatedChores ∧
      (PermissionSet.ofStatements Config.Pex.rules none chores).entries =
        [("a.x", false), ("a.y", true), ("c", false)] ∧
      PermissionSet.ofStatements Config.Pex.rules none chores =
        PermissionSet.ofStatements Config.Pex.rules none rotatedChores := by
  have hreordering : Reordering Config.Pex.rules chores rotatedChores :=
    ⟨finRotate 3, by decide, by decide⟩
  exact ⟨hreordering, by decide, (ofStatements_reordered hreordering none).1⟩

end PermScript
