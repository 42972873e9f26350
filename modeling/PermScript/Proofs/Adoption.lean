/-
Adoption comes to an end, whatever the children are and wherever it begins.

Nothing counts the rounds. The groups that a round adopts were unseen before
it and are seen after it, so it leaves fewer groups of the table unseen than
there were (`unseen_adoptOnce_lt`), whatever else its walk passes: names that
came out earlier in the round, circles of children, names without a group.
What was seen stays seen, so nobody is adopted again (`adoptees_unique`).

`Adoption` says how the rounds go and where they stop, `adoption_adopt` that
`adopt` goes so, and `adoption_ends` that the run over a table does, in no
more rounds than the table has groups.
-/
import Mathlib.Logic.Function.Iterate
import PermScript.Proofs.Order
import PermScript.Proofs.Reach

namespace PermScript

/-! ## Rounds -/

/-- One round of adoption: a walk from the groups there are to adopt. -/
def adoptOnce (groups : Table Group) (children : Children) (w : Walk) : Walk :=
  walk children (adoptable groups w.seen) w

/-- The walk after `k` rounds. -/
def rounds (groups : Table Group) (children : Children) (start : Walk) (k : Nat) : Walk :=
  (adoptOnce groups children)^[k] start

/-- The groups that are adopted after `k` rounds, in the next one. -/
def adoptees (groups : Table Group) (children : Children) (start : Walk) (k : Nat) : List String :=
  adoptable groups (rounds groups children start k).seen

section

variable {groups : Table Group} {children : Children} {start w : Walk} {name : String} {j k : Nat}

theorem rounds_succ :
    rounds groups children start (k + 1) =
      adoptOnce groups children (rounds groups children start k) :=
  Function.iterate_succ_apply' ..

/-! ## One round -/

theorem contains_adoptOnce (h : w.seen.contains name = true) :
    (adoptOnce groups children w).seen.contains name = true := contains_walk_of_contains h

theorem contains_adoptOnce_of_mem (h : name ∈ adoptable groups w.seen) :
    (adoptOnce groups children w).seen.contains name = true := contains_walk_of_mem children h

/-- A round that has a group to adopt leaves fewer groups unseen. -/
theorem unseen_adoptOnce_lt (h : adoptable groups w.seen ≠ []) :
    unseen groups.names (adoptOnce groups children w).seen < unseen groups.names w.seen := by
  obtain ⟨name, hname⟩ := List.exists_mem_of_ne_nil _ h
  obtain ⟨hm, hu⟩ := of_mem_adoptable hname
  exact unseen_lt (fun _ => contains_adoptOnce) hm hu (contains_adoptOnce_of_mem hname)

/-! ## A run of rounds -/

theorem contains_rounds (hjk : j ≤ k)
    (h : (rounds groups children start j).seen.contains name = true) :
    (rounds groups children start k).seen.contains name = true := by
  induction hjk with
  | refl => exact h
  | step _ ih => exact rounds_succ ▸ contains_adoptOnce ih

/-- Who is adopted is a group of the table, unseen before the round and seen
after it. -/
theorem seen_of_mem_adoptees (h : name ∈ adoptees groups children start k) :
    name ∈ groups.names ∧ (rounds groups children start k).seen.contains name = false ∧
      (rounds groups children start (k + 1)).seen.contains name = true := by
  obtain ⟨hm, hu⟩ := of_mem_adoptable h
  exact ⟨hm, hu, rounds_succ ▸ contains_adoptOnce_of_mem h⟩

theorem not_mem_adoptees_of_lt (hjk : j < k) (h : name ∈ adoptees groups children start j) :
    name ∉ adoptees groups children start k := by
  intro hk
  obtain ⟨-, -, hseen⟩ := seen_of_mem_adoptees h
  have hstill := contains_rounds hjk hseen
  rw [(seen_of_mem_adoptees hk).2.1] at hstill
  cases hstill

theorem adoptees_unique (hj : name ∈ adoptees groups children start j)
    (hk : name ∈ adoptees groups children start k) : j = k := by
  rcases Nat.lt_trichotomy j k with h | h | h
  · exact absurd hk (not_mem_adoptees_of_lt h hj)
  · exact h
  · exact absurd hj (not_mem_adoptees_of_lt h hk)

/-- Rounds that each have a group to adopt use up as many unseen groups. -/
theorem add_unseen_rounds_le {count : Nat}
    (h : ∀ k < count, adoptees groups children start k ≠ []) :
    count + unseen groups.names (rounds groups children start count).seen ≤
      unseen groups.names start.seen := by
  induction count with
  | zero => exact Nat.le_of_eq (Nat.zero_add _)
  | succ count ih =>
    have hbefore := ih fun k hk => h k (Nat.lt_succ_of_lt hk)
    have hlast : unseen groups.names (rounds groups children start (count + 1)).seen <
        unseen groups.names (rounds groups children start count).seen := by
      rw [rounds_succ]
      exact unseen_adoptOnce_lt (h count (Nat.lt_succ_self count))
    omega

variable (groups children start)

/-- Adoption is a number of rounds that each have groups to adopt. -/
theorem exists_rounds_adopt : ∃ count,
    rounds groups children start count = adopt groups children start ∧
      ∀ k < count, adoptees groups children start k ≠ [] := by
  fun_induction adopt groups children start with
  | case1 w _ => exact ⟨0, rfl, fun k hk => absurd hk (Nat.not_lt_zero k)⟩
  | case2 w name queue hq ih =>
    -- The walk of this call is the first round, the rounds of the next follow it.
    obtain ⟨count, hlast, hbefore⟩ := ih
    have hround : adoptOnce groups children w = walk children (name :: queue) w := by
      rw [adoptOnce, hq]
    rw [← hround] at hlast hbefore ⊢
    refine ⟨count + 1, hlast, fun k hk => ?_⟩
    cases k with
    | zero =>
      have hfirst : adoptees groups children w 0 = name :: queue := hq
      exact hfirst ▸ List.cons_ne_nil name queue
    | succ k => exact hbefore k (Nat.lt_of_succ_lt_succ hk)

theorem exists_ends_rounds (k : Nat) : ∃ turns, Ends children
    (adoptees groups children start k, rounds groups children start k) turns
    (rounds groups children start (k + 1)) := by
  obtain ⟨new, -, hends⟩ := ends_walk children (adoptees groups children start k)
    (rounds groups children start k)
  rw [rounds_succ]
  exact ⟨_, hends⟩

/-! ## The whole run -/

/-- From `start` adoption takes `count` rounds and leaves the walk `w`. -/
structure Adoption (count : Nat) (w : Walk) : Prop where
  /-- So many rounds lead to the walk. -/
  last : rounds groups children start count = w
  /-- There is a group to adopt before each round. -/
  before : ∀ k < count, adoptees groups children start k ≠ []
  /-- After the last no unseen group declares a seen parent. -/
  settled : ∀ name g, groups.get? name = some g → w.seen.contains name = false →
    ∀ parent ∈ g.parents, w.seen.contains parent = false
  /-- The walk of a round empties its queue. -/
  walks : ∀ k, ∃ turns, Ends children
    (adoptees groups children start k, rounds groups children start k) turns
    (rounds groups children start (k + 1))
  /-- Who is adopted is a group that the round brings out. -/
  gains : ∀ k, ∀ name ∈ adoptees groups children start k, name ∈ groups.names ∧
    (rounds groups children start k).seen.contains name = false ∧
    (rounds groups children start (k + 1)).seen.contains name = true
  /-- Nobody is adopted in two rounds. -/
  once : ∀ name j k, name ∈ adoptees groups children start j →
    name ∈ adoptees groups children start k → j = k
  /-- There are no more rounds than groups that were unseen and are no longer. -/
  bound : count + unseen groups.names w.seen ≤ unseen groups.names start.seen

theorem adoption_adopt :
    ∃ count, Adoption groups children start count (adopt groups children start) := by
  obtain ⟨count, hlast, hbefore⟩ := exists_rounds_adopt groups children start
  refine ⟨count, ?_⟩
  exact
    { last := hlast
      before := hbefore
      settled := adoptable_eq_nil_iff.1 (adoptable_adopt groups children start)
      walks := exists_ends_rounds groups children start
      gains := fun _ _ => seen_of_mem_adoptees
      once := fun _ _ _ => adoptees_unique
      bound := hlast ▸ add_unseen_rounds_le hbefore }

end

/-- The adoption that follows the walk from the roots of a table ends, after
no more rounds than the table has groups. -/
theorem adoption_ends (groups : Table Group) :
    ∃ count ≤ groups.size, Adoption groups (childrenIndex groups)
      (walk (childrenIndex groups) (roots groups) {}) count (fullWalk groups) := by
  obtain ⟨count, h⟩ := adoption_adopt groups (childrenIndex groups)
    (walk (childrenIndex groups) (roots groups) {})
  have hsize : unseen groups.names (walk (childrenIndex groups) (roots groups) {}).seen ≤
      groups.names.length := List.countP_le_length
  have hbound := h.bound
  rw [Table.length_names] at hsize
  exact ⟨count, by omega, h⟩

end PermScript
