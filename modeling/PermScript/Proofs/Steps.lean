/-
The order of a table worked out over lists, a name at a time.

A walk keeps the names it has seen in a hash set and finds children in a hash
index, and each round of adoption is a walk of its own. The machine here has
a queue and the names put out so far, and nothing else: it takes the first
name off the queue, and an empty queue it fills with the groups there are to
adopt. No step changes what order comes of it in the end (`outcome_step`), so
where the machine comes to rest it has put out the order of the table
(`order_eq_of_steps`). For a given table that is a computation.
-/
import Mathlib.Logic.Function.Iterate
import PermScript.Proofs.Order

namespace PermScript

variable {groups : Table Group}

/-! ## The walk as the names it has put out -/

/-- The walk that has put out these names. -/
def Walk.through (order : List String) : Walk := order.foldl Walk.visit {}

theorem Walk.through_concat (order : List String) (name : String) :
    Walk.through (order ++ [name]) = (Walk.through order).visit name := by
  rw [through, through, List.foldl_concat]

theorem Walk.order_through (order : List String) : (Walk.through order).order = order := by
  rw [through, order_foldl_visit, List.nil_append]

theorem Walk.contains_through {order : List String} {name : String} :
    (Walk.through order).seen.contains name = true ↔ name ∈ order := by
  rw [through, contains_foldl_visit]
  simp

/-! ## The machine -/

/-- The groups that are not put out and declare a parent that is, in table
order. -/
def waiting (entries : List (String × Group)) (order : List String) : List String :=
  (entries.filter fun e => e.1 ∉ order ∧ ∃ parent ∈ e.2.parents, parent ∈ order).map Prod.fst

/-- One step from a queue and the names put out so far. -/
def orderStep (entries : List (String × Group)) (placed : List (String × String)) :
    List String × List String → List String × List String
  | ([], order) => (waiting entries order, order)
  | (name :: queue, order) =>
    if name ∈ order then (queue, order) else (queue ++ childrenOf placed name, order ++ [name])

theorem waiting_toList (order : List String) :
    waiting groups.toList order = adoptable groups (Walk.through order).seen := by
  rw [waiting, adoptable]
  congr 2
  funext e
  rw [Bool.eq_iff_iff]
  simp [List.any_eq_true, ← Walk.contains_through]

/-- The walk that comes of a queue and the names put out so far. -/
def outcome (groups : Table Group) (s : List String × List String) : Walk :=
  adopt groups (childrenIndex groups) (walk (childrenIndex groups) s.1 (Walk.through s.2))

/-- A step leaves it to be as it was. -/
theorem outcome_step (s : List String × List String) :
    outcome groups (orderStep groups.toList (placements groups) s) = outcome groups s := by
  obtain ⟨queue, order⟩ := s
  cases queue with
  | nil =>
    rw [orderStep, outcome, outcome, waiting_toList, walk]
    by_cases h : adoptable groups (Walk.through order).seen = []
    · rw [h, walk]
    · exact (adopt_step h).symm
  | cons name queue =>
    have hseen : (Walk.through order).seen.contains name = true ↔ name ∈ order :=
      Walk.contains_through
    rw [orderStep, outcome, outcome, walk]
    by_cases hm : name ∈ order
    · rw [if_pos hm, if_pos (hseen.2 hm)]
    · rw [if_neg hm, if_neg (mt hseen.1 hm), Walk.through_concat, getD_childrenIndex]

theorem outcome_iterate (k : Nat) (s : List String × List String) :
    outcome groups ((orderStep groups.toList (placements groups))^[k] s) = outcome groups s := by
  induction k generalizing s with
  | zero => rfl
  | succ k ih => rw [Function.iterate_succ_apply, ih, outcome_step]

/-- If the queue of the roots leads to an empty queue when nobody is waiting
to be adopted, the names put out are the order. -/
theorem order_eq_of_steps {entries : List (String × Group)} {queue order : List String}
    {placed : List (String × String)} (hentries : groups.toList = entries)
    (hroots : roots groups = queue) (hplaced : placements groups = placed) (k : Nat)
    (hrun : (orderStep entries placed)^[k] (queue, []) = ([], order))
    (hrest : waiting entries order = []) : (resolve groups).order = order := by
  subst hentries hroots hplaced
  have hkept : outcome groups ([], order) = outcome groups (roots groups, []) :=
    hrun ▸ outcome_iterate k _
  have hdone : adoptable groups (Walk.through order).seen = [] := waiting_toList order ▸ hrest
  calc (resolve groups).order
    _ = (outcome groups (roots groups, [])).order := rfl
    _ = (outcome groups ([], order)).order := by rw [hkept]
    _ = (Walk.through order).order := by rw [outcome, walk, adopt_of_nil hdone]
    _ = order := Walk.order_through order

end PermScript
