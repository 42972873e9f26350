/-
The order in which groups are written. A group has to come after the parent
it is created under, so the order is a walk from the groups without parents
along one parent of each other group, its placement: the first declared
parent that is defined. Inheritance may be circular; a group stranded
behind a circle is adopted once any of its declared parents is out, and
what remains is reported.

The walk ends because each step shortens the queue or uses up a key of the
children index, and adoption ends because each round reaches a group of the
table.
-/
import PermScript.Entity

namespace PermScript

/-! ## Placement -/

/-- The parent that a group is placed under. -/
def placement (groups : Table Group) (g : Group) : Option String :=
  g.parents.find? groups.contains

/-- The groups placed under each group, sorted by name. -/
abbrev Children := Std.HashMap String (List String)

/-- Each placed group with the parent it is placed under, in table order. -/
def placements (groups : Table Group) : List (String × String) :=
  groups.toList.filterMap fun e => (placement groups e.2).map fun parent => (parent, e.1)

/-- The names placed under a parent, sorted. -/
def childrenOf (placed : List (String × String)) (parent : String) : List String :=
  ((placed.filter (·.1 == parent)).map (·.2)).mergeSort fun a b => decide (a ≤ b)

/-- The children index of a table. -/
def childrenIndex (groups : Table Group) : Children :=
  let placed := placements groups
  .ofList (groups.names.map fun name => (name, childrenOf placed name))

/-- The groups without parents, in table order. -/
def roots (groups : Table Group) : List String :=
  (groups.toList.filter (·.2.parents.isEmpty)).map (·.1)

/-! ## The walk -/

/-- How far a walk has come: the names seen and their order. -/
structure Walk where
  seen : Std.HashSet String := ∅
  order : List String := []

/-- Visits a name. -/
def Walk.visit (w : Walk) (name : String) : Walk :=
  ⟨w.seen.insert name, w.order ++ [name]⟩

/-- How many of the names are unseen. -/
def unseen (names : List String) (seen : Std.HashSet String) : Nat :=
  names.countP fun n => !seen.contains n

theorem unseen_le {names : List String} {s t : Std.HashSet String}
    (h : ∀ n, s.contains n = true → t.contains n = true) : unseen names t ≤ unseen names s := by
  refine List.countP_mono_left fun n _ => ?_
  cases hs : s.contains n
  · simp
  · simp [h n hs]

theorem unseen_lt {names : List String} {s t : Std.HashSet String}
    (h : ∀ n, s.contains n = true → t.contains n = true) {name : String} (hm : name ∈ names)
    (hs : s.contains name = false) (ht : t.contains name = true) :
    unseen names t < unseen names s := by
  induction names with
  | nil => cases hm
  | cons n names ih =>
    have hle : unseen names t ≤ unseen names s := unseen_le h
    simp only [unseen, List.countP_cons] at hle ih ⊢
    rcases List.mem_cons.1 hm with rfl | hm
    · simp only [hs, ht]; simp; omega
    · have := ih hm
      cases hn : s.contains n
      · simp only [Bool.not_false, ite_true]; split <;> omega
      · simp only [h n hn, Bool.not_true, Bool.false_eq_true, ite_false]; omega

theorem contains_visit {w : Walk} {name n : String} :
    (w.visit name).seen.contains n = (name == n || w.seen.contains n) := by
  simp [Walk.visit]

/-- Walks the queue: each name not seen before is put at the end of the
order, and its children at the end of the queue. -/
def walk (children : Children) : List String → Walk → Walk
  | [], w => w
  | name :: queue, w =>
    if w.seen.contains name then walk children queue w
    else walk children (queue ++ children.getD name []) (w.visit name)
termination_by queue w => (unseen children.keys w.seen, queue.length)
decreasing_by
  · exact Prod.Lex.right _ (Nat.lt_succ_self _)
  · rename_i hn
    have mono : ∀ n, w.seen.contains n = true → (w.visit name).seen.contains n = true := by
      intro n h; rw [contains_visit, h, Bool.or_true]
    by_cases hk : name ∈ children
    · refine Prod.Lex.left _ _ (unseen_lt mono (Std.HashMap.mem_keys.2 hk) (by simpa using hn) ?_)
      rw [contains_visit, beq_self_eq_true, Bool.true_or]
    · rw [Std.HashMap.getD_eq_fallback hk, List.append_nil]
      have hle : unseen children.keys (w.visit name).seen ≤ unseen children.keys w.seen :=
        unseen_le mono
      rcases Nat.lt_or_eq_of_le hle with h | h
      · exact Prod.Lex.left _ _ h
      · rw [h]; exact Prod.Lex.right _ (Nat.lt_succ_self _)

/-- What was seen stays seen. -/
theorem contains_walk_of_contains {children : Children} {queue : List String} {w : Walk}
    {n : String} (h : w.seen.contains n = true) :
    (walk children queue w).seen.contains n = true := by
  fun_induction walk children queue w with
  | case1 => exact h
  | case2 _ _ _ _ ih => exact ih h
  | case3 name queue w _ ih =>
    refine ih ?_
    rw [contains_visit, h, Bool.or_true]

/-- The first name of the queue is seen afterwards. -/
theorem contains_walk_head (children : Children) (name : String) (queue : List String) (w : Walk) :
    (walk children (name :: queue) w).seen.contains name = true := by
  rw [walk]
  split
  · rename_i h; exact contains_walk_of_contains h
  · refine contains_walk_of_contains ?_
    rw [contains_visit, beq_self_eq_true, Bool.true_or]

/-! ## Adoption -/

/-- The groups not seen that declare a parent that is, in table order. -/
def adoptable (groups : Table Group) (seen : Std.HashSet String) : List String :=
  (groups.toList.filter fun e => !seen.contains e.1 && e.2.parents.any seen.contains).map (·.1)

theorem of_mem_adoptable {groups : Table Group} {seen : Std.HashSet String} {name : String}
    (h : name ∈ adoptable groups seen) : name ∈ groups.names ∧ seen.contains name = false := by
  simp only [adoptable, List.mem_map, List.mem_filter, Bool.and_eq_true, Bool.not_eq_true'] at h
  obtain ⟨e, ⟨he, hs, -⟩, rfl⟩ := h
  exact ⟨List.mem_map_of_mem he, hs⟩

/-- Walks from the groups that a declared parent can adopt, as long as there
are any. -/
def adopt (groups : Table Group) (children : Children) (w : Walk) : Walk :=
  match _h : adoptable groups w.seen with
  | [] => w
  | name :: queue => adopt groups children (walk children (name :: queue) w)
termination_by unseen groups.names w.seen
decreasing_by
  have hm : name ∈ groups.names ∧ w.seen.contains name = false :=
    of_mem_adoptable (by rw [_h]; exact List.mem_cons_self)
  exact unseen_lt (fun _ => contains_walk_of_contains) hm.1 hm.2 (contains_walk_head ..)

/-! ## The order -/

/-- The order of the groups and what there is to warn of. -/
structure Resolution where
  order : List String
  warnings : List Warning
  deriving DecidableEq

/-- The walk over a whole table. -/
def fullWalk (groups : Table Group) : Walk :=
  let children := childrenIndex groups
  adopt groups children (walk children (roots groups) {})

/-- A warning for each group that declares several parents. -/
def multipleParents (groups : Table Group) : List Warning :=
  (groups.toList.filter (1 < ·.2.parents.length)).map fun e => .multipleParents e.1 e.2.parents

/-- A warning for each group that was not seen. -/
def unreachable (groups : Table Group) (seen : Std.HashSet String) : List Warning :=
  (groups.toList.filter (!seen.contains ·.1)).map fun e => .unreachableGroup e.1 e.2.primaryParent

/-- The order in which the groups of a table are written. -/
def resolve (groups : Table Group) : Resolution :=
  let w := fullWalk groups
  { order := w.order
    warnings := multipleParents groups ++
      if w.order.length < groups.size then unreachable groups w.seen else [] }

end PermScript
