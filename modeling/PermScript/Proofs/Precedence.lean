/-
When a group is written after its parent.

A script names as the parent of a group the first one it declares. A group
placed under a parent follows it, but a group can also be adopted by another
parent it declares, and then nothing makes it wait for the first. The order
of `name` and its first parent is decided in the round in which `name` is
adopted: `create_before_setParent_iff` says that the parent comes first
exactly if it was not overtaken there, `crossed_*` show a table without
circular inheritance in which a parent is overtaken.
-/
import Mathlib.Logic.Relation
import PermScript.Proofs.Steps
import PermScript.Report

namespace PermScript

variable {groups : Table Group}

/-! ## One element before another -/

section

variable {α β : Type} {a b : α} {l s t : List α}

theorem pair_sublist_append :
    [a, b].Sublist (s ++ t) ↔ [a, b].Sublist s ∨ (a ∈ s ∧ b ∈ t) ∨ [a, b].Sublist t := by
  constructor
  · intro h
    obtain ⟨m₁, m₂, hm, h₁, h₂⟩ := List.sublist_append_iff.1 h
    match m₁, hm with
    | [], hm =>
      rw [List.nil_append] at hm
      exact .inr (.inr (hm ▸ h₂))
    | [x], hm =>
      simp only [List.cons_append, List.nil_append, List.cons.injEq] at hm
      obtain ⟨rfl, rfl⟩ := hm
      exact .inr (.inl ⟨List.singleton_sublist.1 h₁, List.singleton_sublist.1 h₂⟩)
    | [x, y], hm =>
      simp only [List.cons_append, List.nil_append, List.cons.injEq] at hm
      obtain ⟨rfl, rfl, -⟩ := hm
      exact .inl h₁
    | _ :: _ :: _ :: _, hm => simp at hm
  · rintro (h | ⟨h₁, h₂⟩ | h)
    · exact h.trans (List.sublist_append_left _ _)
    · exact (List.singleton_sublist.2 h₁).append (List.singleton_sublist.2 h₂)
    · exact h.trans (List.sublist_append_right _ _)

theorem mem_left_of_pair (h : [a, b].Sublist l) : a ∈ l := h.subset (by simp)

theorem mem_right_of_pair (h : [a, b].Sublist l) : b ∈ l := h.subset (by simp)

/-- What comes later in the list leaves the order of its start alone. -/
theorem pair_sublist_append_left (hb : b ∉ t) :
    [a, b].Sublist (s ++ t) ↔ [a, b].Sublist s := by
  rw [pair_sublist_append]
  constructor
  · rintro (h | ⟨-, h⟩ | h)
    · exact h
    · exact absurd h hb
    · exact absurd (mem_right_of_pair h) hb
  · exact .inl

theorem pair_sublist_append_right (ha : a ∉ s) :
    [a, b].Sublist (s ++ t) ↔ [a, b].Sublist t := by
  rw [pair_sublist_append]
  constructor
  · rintro (h | ⟨h, -⟩ | h)
    · exact absurd (mem_left_of_pair h) ha
    · exact absurd h ha
    · exact h
  · exact fun h => .inr (.inr h)

/-- The members of a part of a list stand in it as they do in the list. -/
theorem pair_sublist_of_sublist (hs : s.Sublist l) (hnd : l.Nodup) :
    [a, b].Sublist s ↔ a ∈ s ∧ b ∈ s ∧ [a, b].Sublist l := by
  constructor
  · intro h
    exact ⟨mem_left_of_pair h, mem_right_of_pair h, h.trans hs⟩
  · rintro ⟨ha, hb, h⟩
    induction hs with
    | slnil => exact h
    | @cons s t x hs ih =>
      obtain ⟨hx, hnd⟩ := List.nodup_cons.1 hnd
      refine ih hnd ha hb ?_
      have hax : a ∉ [x] := fun hm => hx (List.mem_singleton.1 hm ▸ hs.subset ha)
      exact (pair_sublist_append_right (s := [x]) hax).1 h
    | @cons_cons s t x hs ih =>
      obtain ⟨hx, hnd⟩ := List.nodup_cons.1 hnd
      rcases (pair_sublist_append (s := [x])).1 h with h | ⟨hax, hb₂⟩ | h
      · simpa using h.length_le
      · refine (pair_sublist_append (s := [x])).2 (.inr (.inl ⟨hax, ?_⟩))
        rcases List.mem_cons.1 hb with rfl | hb
        · exact absurd hb₂ hx
        · exact hb
      · have hne : ∀ {c}, c ∈ t → c ∈ x :: s → c ∈ s := by
          intro c hc hm
          rcases List.mem_cons.1 hm with rfl | hm
          · exact absurd hc hx
          · exact hm
        have ha₁ := hne (mem_left_of_pair h) ha
        have hb₁ := hne (mem_right_of_pair h) hb
        exact (pair_sublist_append (s := [x])).2 (.inr (.inr (ih hnd ha₁ hb₁ h)))

/-- Two elements that only the parts of `a` and of `b` have. -/
theorem pair_sublist_flatMap {f : α → List β} {x y : β} (hab : a ≠ b)
    (hx : ∀ c ∈ l, x ∈ f c ↔ c = a) (hy : ∀ c ∈ l, y ∈ f c ↔ c = b) :
    [x, y].Sublist (l.flatMap f) ↔ [a, b].Sublist l := by
  induction l with
  | nil => simp
  | cons c l ih =>
    have ih := ih (fun d hd => hx d (List.mem_cons_of_mem _ hd))
      (fun d hd => hy d (List.mem_cons_of_mem _ hd))
    have hyl : y ∈ l.flatMap f ↔ b ∈ l := by
      rw [List.mem_flatMap]
      constructor
      · rintro ⟨d, hd, hyd⟩
        exact (hy d (List.mem_cons_of_mem _ hd)).1 hyd ▸ hd
      · intro hb
        exact ⟨b, hb, (hy b (List.mem_cons_of_mem _ hb)).2 rfl⟩
    have hone : ¬ [x, y].Sublist (f c) := by
      intro h
      have hca := (hx c List.mem_cons_self).1 (mem_left_of_pair h)
      have hcb := (hy c List.mem_cons_self).1 (mem_right_of_pair h)
      exact hab (hca.symm.trans hcb)
    have hone' : ¬ [a, b].Sublist [c] := fun h => by simpa using h.length_le
    have hcons : [a, b].Sublist (c :: l) ↔ _ := pair_sublist_append (s := [c]) (t := l)
    rw [List.flatMap_cons, pair_sublist_append, hcons, ih, hx c List.mem_cons_self, hyl,
      List.mem_singleton, @eq_comm _ a c]
    simp only [hone, hone', false_or]

end

/-! ## Rounds -/

/-- `name` is out after the walk from the roots and `k` rounds of adoption. -/
inductive OutBy (groups : Table Group) : Nat → String → Prop
  | root {k : Nat} {name : String} {g : Group} (hg : groups.get? name = some g)
      (hr : g.parents = []) : OutBy groups k name
  | placed {k : Nat} {name parent : String} {g : Group} (hg : groups.get? name = some g)
      (hp : placement groups g = some parent) (h : OutBy groups k parent) : OutBy groups k name
  | adopted {k : Nat} {name parent : String} {g : Group} (hg : groups.get? name = some g)
      (hp : parent ∈ g.parents) (h : OutBy groups k parent) : OutBy groups (k + 1) name

/-- `name` is not out after `k` rounds, but a parent it declares is: the next
round adopts it. -/
def AdoptedAfter (groups : Table Group) (k : Nat) (name : String) : Prop :=
  ¬ OutBy groups k name ∧
    ∃ g, groups.get? name = some g ∧ ∃ parent ∈ g.parents, OutBy groups k parent

/-- `name` is adopted in a round that does not also adopt `parent` and take
it before `name`, which is so if `parent` stands first in the table. -/
def Overtakes (groups : Table Group) (name parent : String) : Prop :=
  ∃ k, AdoptedAfter groups k name ∧
    ¬ (AdoptedAfter groups k parent ∧ [parent, name].Sublist groups.names)

theorem OutBy.succ {k : Nat} {name : String} (h : OutBy groups k name) :
    OutBy groups (k + 1) name := by
  induction h with
  | root hg hr => exact .root hg hr
  | placed hg hp _ ih => exact .placed hg hp ih
  | adopted hg hp _ ih => exact .adopted hg hp ih

theorem OutBy.mono {j k : Nat} {name : String} (h : OutBy groups j name) (hjk : j ≤ k) :
    OutBy groups k name := by
  induction hjk with
  | refl => exact h
  | step _ ih => exact ih.succ

theorem AdoptedAfter.outBy {k : Nat} {name : String} (h : AdoptedAfter groups k name) :
    OutBy groups (k + 1) name := by
  obtain ⟨-, g, hg, parent, hp, hout⟩ := h
  exact .adopted hg hp hout

/-- A group is adopted once. -/
theorem AdoptedAfter.unique {j k : Nat} {name : String} (hj : AdoptedAfter groups j name)
    (hk : AdoptedAfter groups k name) : j = k := by
  rcases Nat.lt_trichotomy j k with h | h | h
  · exact absurd (hj.outBy.mono h) hk.1
  · exact h
  · exact absurd (hk.outBy.mono h) hj.1

theorem AdoptedAfter.overtakes_iff {k : Nat} {name parent : String}
    (h : AdoptedAfter groups k name) :
    Overtakes groups name parent ↔
      ¬ (AdoptedAfter groups k parent ∧ [parent, name].Sublist groups.names) := by
  constructor
  · rintro ⟨j, hj, hnot⟩
    exact h.unique hj ▸ hnot
  · exact fun hnot => ⟨k, h, hnot⟩

/-- `w` is the walk after `k` rounds. -/
structure AfterRounds (groups : Table Group) (k : Nat) (w : Walk) : Prop where
  grows : ({} : Walk).Grows w w.order
  contains_iff : ∀ n, w.seen.contains n = true ↔ OutBy groups k n

namespace AfterRounds

variable {k : Nat} {w : Walk}

theorem mem_order_iff (h : AfterRounds groups k w) (n : String) :
    n ∈ w.order ↔ OutBy groups k n := by
  rw [← h.contains_iff, h.grows.contains_iff]
  simp

theorem mem_adoptable_iff (h : AfterRounds groups k w) (n : String) :
    n ∈ adoptable groups w.seen ↔ AdoptedAfter groups k n := by
  rw [mem_adoptable, AdoptedAfter, ← h.contains_iff, Bool.not_eq_true]
  simp only [h.contains_iff]

theorem grows_walk (h : AfterRounds groups k w) (queue : List String) :
    ∃ new, w.Grows (walk (childrenIndex groups) queue w) new ∧
      ({} : Walk).Grows (walk (childrenIndex groups) queue w) (w.order ++ new) := by
  obtain ⟨new, hnew⟩ := PermScript.grows_walk (childrenIndex groups) queue w
  exact ⟨new, hnew, h.grows.trans hnew⟩

/-- The walk from the roots is the walk after no round. -/
theorem zero (groups : Table Group) :
    AfterRounds groups 0 (walk (childrenIndex groups) (roots groups) {}) where
  grows := by
    obtain ⟨new, hnew⟩ := PermScript.grows_walk (childrenIndex groups) (roots groups) {}
    have horder : (walk (childrenIndex groups) (roots groups) {}).order = new := hnew.order_eq
    exact horder ▸ hnew
  contains_iff n := by
    constructor
    · refine walk_induct (P := OutBy groups 0) _ ?_ ?_ ?_
      · intro p m hp hm
        obtain ⟨g, hg, hpl⟩ := mem_childrenIndex.1 hm
        exact .placed hg hpl hp
      · intro m hm
        obtain ⟨g, hg, hr⟩ := mem_roots.1 hm
        exact .root hg hr
      · intro m hm
        simp at hm
    · intro h
      generalize hk : 0 = k at h
      induction h with
      | root hg hr => exact contains_walk_of_mem _ (mem_roots.2 ⟨_, hg, hr⟩)
      | placed hg hp _ ih =>
        exact contains_walk_of_child _ (ih hk) (by simp) (mem_childrenIndex.2 ⟨_, hg, hp⟩)
      | adopted => cases hk

/-- A walk from the adopted groups is one round more. -/
theorem succ (h : AfterRounds groups k w) :
    AfterRounds groups (k + 1) (walk (childrenIndex groups) (adoptable groups w.seen) w) where
  grows := by
    obtain ⟨new, hnew, hall⟩ := h.grows_walk (adoptable groups w.seen)
    exact hnew.order_eq ▸ hall
  contains_iff n := by
    constructor
    · refine walk_induct (P := OutBy groups (k + 1)) _ ?_ ?_ ?_
      · intro p m hp hm
        obtain ⟨g, hg, hpl⟩ := mem_childrenIndex.1 hm
        exact .placed hg hpl hp
      · exact fun m hm => ((h.mem_adoptable_iff m).1 hm).outBy
      · exact fun m hm => ((h.contains_iff m).1 hm).succ
    · intro hn
      generalize hj : k + 1 = j at hn
      induction hn with
      | root hg hr => exact contains_walk_of_contains ((h.contains_iff _).2 (.root hg hr))
      | @placed j n parent g hg hp _ ih =>
        -- A parent that was out before the round has its children out, too.
        by_cases hout : OutBy groups k parent
        · exact contains_walk_of_contains ((h.contains_iff _).2 (.placed hg hp hout))
        · have hu : w.seen.contains parent = false := by
            rw [← Bool.not_eq_true, h.contains_iff]
            exact hout
          exact contains_walk_of_child _ (ih hj) hu (mem_childrenIndex.2 ⟨_, hg, hp⟩)
      | @adopted j n parent g hg hp hout =>
        obtain rfl : k = j := Nat.succ.inj hj
        by_cases hn : OutBy groups k n
        · exact contains_walk_of_contains ((h.contains_iff _).2 hn)
        · exact contains_walk_of_mem _ ((h.mem_adoptable_iff n).2 ⟨hn, _, hg, parent, hp, hout⟩)

end AfterRounds

/-! ## The first parent -/

theorem placement_of_primaryParent {g : Group} {parent : String}
    (hp : g.primaryParent = some parent) (hm : parent ∈ groups.names) :
    placement groups g = some parent := by
  obtain ⟨rest, hrest⟩ := List.head?_eq_some_iff.1 hp
  rw [placement, hrest, List.find?_cons_of_pos (Table.contains_iff.2 hm)]

/-- If `name` is out, its parent is before it exactly if it was not
overtaken. -/
def ParentFirst (groups : Table Group) (name parent : String) (w : Walk) : Prop :=
  name ∈ w.order → ([parent, name].Sublist w.order ↔ ¬ Overtakes groups name parent)

section

variable {name parent : String} {g : Group}

theorem not_overtakes {k : Nat} (hout : OutBy groups k name)
    (hnot : ∀ j < k, ¬ AdoptedAfter groups j name) : ¬ Overtakes groups name parent := by
  rintro ⟨j, hj, -⟩
  rcases Nat.lt_or_ge j k with h | h
  · exact hnot j h hj
  · exact hj.1 (hout.mono h)

/-- What a walk sees as a child, it sees after its placement. -/
theorem parent_sublist_walk (hg : groups.get? name = some g)
    (hpl : placement groups g = some parent) {queue : List String} {w : Walk}
    (hn : (walk (childrenIndex groups) queue w).seen.contains name = true)
    (hu : w.seen.contains name = false) (hq : name ∉ queue) :
    [parent, name].Sublist (walk (childrenIndex groups) queue w).order := by
  obtain ⟨p, hk, hs⟩ := walk_follows (childrenIndex groups) hn hu hq
  rw [mem_childrenIndex_of_get? hg, hpl] at hk
  cases hk
  exact hs

theorem ParentFirst.zero (hg : groups.get? name = some g) (hpl : placement groups g = some parent) :
    ParentFirst groups name parent (walk (childrenIndex groups) (roots groups) {}) := by
  intro hn
  have hout := ((AfterRounds.zero groups).mem_order_iff name).1 hn
  have hseen := ((AfterRounds.zero groups).contains_iff name).2 hout
  have hpair := parent_sublist_walk hg hpl hseen (by simp) (not_mem_roots hg hpl)
  exact iff_of_true hpair (not_overtakes hout fun j hj => absurd hj (Nat.not_lt_zero j))

theorem ParentFirst.succ (hg : groups.get? name = some g) (hpl : placement groups g = some parent)
    {k : Nat} {w : Walk} (h : AfterRounds groups k w) (ho : ParentFirst groups name parent w) :
    ParentFirst groups name parent (walk (childrenIndex groups) (adoptable groups w.seen) w) := by
  intro hn
  by_cases hold : name ∈ w.order
  · obtain ⟨new, hnew⟩ := grows_walk (childrenIndex groups) (adoptable groups w.seen) w
    have hnot : name ∉ new := by
      intro hm
      have hf := hnew.fresh name hm
      rw [(h.contains_iff name).2 ((h.mem_order_iff name).1 hold)] at hf
      cases hf
    rw [hnew.order_eq, pair_sublist_append_left hnot]
    exact ho hold
  have hout : ¬ OutBy groups k name := fun hk => hold ((h.mem_order_iff name).2 hk)
  have hu : w.seen.contains name = false := by
    rw [← Bool.not_eq_true, h.contains_iff]
    exact hout
  by_cases hq : name ∈ adoptable groups w.seen
  · -- Adopted: the queue, which comes out as it stands, decides.
    have ha := (h.mem_adoptable_iff name).1 hq
    have hnd : (adoptable groups w.seen).Nodup := (adoptable_sublist _).nodup groups.nodup_names
    obtain ⟨rest, hrest⟩ := grows_walk_of_fresh (childrenIndex groups) hnd
      fun n hm => (mem_adoptable.1 hm).1
    have hparent : parent ∉ w.order := fun hm =>
      hout (.placed hg hpl ((h.mem_order_iff parent).1 hm))
    have hlate : name ∉ rest := by
      intro hm
      exact (List.nodup_append.1 hrest.nodup).2.2 name hq name hm rfl
    rw [hrest.order_eq, pair_sublist_append_right hparent, pair_sublist_append_left hlate,
      pair_sublist_of_sublist (adoptable_sublist _) groups.nodup_names, h.mem_adoptable_iff,
      ha.overtakes_iff, not_not]
    simp [hq]
  · -- Not adopted: it came out as a child.
    have hseen :
        (walk (childrenIndex groups) (adoptable groups w.seen) w).seen.contains name = true :=
      (h.succ.contains_iff name).2 ((h.succ.mem_order_iff name).1 hn)
    have hpair := parent_sublist_walk hg hpl hseen hu hq
    refine iff_of_true hpair (not_overtakes ((h.succ.contains_iff name).1 hseen) ?_)
    intro j hj ha
    rcases Nat.lt_succ_iff_lt_or_eq.1 hj with hlt | rfl
    · exact hout (ha.outBy.mono hlt)
    · exact hq ((h.mem_adoptable_iff name).2 ha)

/-- In the order, too. -/
theorem parentFirst_order (hg : groups.get? name = some g)
    (hpl : placement groups g = some parent) (hn : name ∈ (resolve groups).order) :
    [parent, name].Sublist (resolve groups).order ↔ ¬ Overtakes groups name parent := by
  have h : ∃ k, AfterRounds groups k (fullWalk groups) ∧
      ParentFirst groups name parent (fullWalk groups) := by
    refine fullWalk_induct
      (P := fun w => ∃ k, AfterRounds groups k w ∧ ParentFirst groups name parent w) ?_ ?_
    · exact ⟨0, .zero groups, .zero hg hpl⟩
    · rintro w ⟨k, hk, ho⟩
      exact ⟨k + 1, hk.succ, ho.succ hg hpl hk⟩
  obtain ⟨-, -, hfirst⟩ := h
  exact hfirst hn

end

/-! ## The lines -/

/-- The lines that a name in the order gives rise to. -/
def groupLines (groups : Table Group) (name : String) : List Line :=
  match groups.get? name with
  | some g => (Block.group name g).lines
  | none => []

theorem lines_of (players : Table Player) (groups : Table Group) (order : List String) :
    (Script.of players groups order).lines =
      (players.toList.filterMap fun e => Script.playerBlock? e.1 e.2).flatMap Block.lines ++
        order.flatMap (groupLines groups) := by
  rw [Script.of, Script.lines, List.flatMap_append]
  congr 1
  induction order with
  | nil => rfl
  | cons name order ih =>
    rw [List.flatMap_cons, ← ih, groupLines]
    cases hg : groups.get? name <;> simp [hg]

theorem create_mem_lines {b : Block} {name : String} :
    Line.create name ∈ b.lines ↔ b.side = .group ∧ b.name = name := by
  cases b <;>
    simp [Block.lines, Block.properties, Block.settings, Block.decorations, Block.side, Block.name,
      eq_comm]

theorem setParent_mem_lines {name n parent : String} {g : Group} :
    Line.setParent name parent ∈ (Block.group n g).lines ↔
      n = name ∧ g.primaryParent = some parent := by
  simp [Block.lines, Block.properties, Block.settings, Block.decorations, eq_comm, and_comm]

theorem create_not_mem_players {players : Table Player} {name : String} :
    Line.create name ∉
      (players.toList.filterMap fun e => Script.playerBlock? e.1 e.2).flatMap Block.lines := by
  intro h
  obtain ⟨b, hb, hl⟩ := List.mem_flatMap.1 h
  obtain ⟨e, -, he⟩ := List.mem_filterMap.1 hb
  have hside := (create_mem_lines.1 hl).1
  rw [Script.playerBlock?] at he
  split at he
  · cases he
  · cases he
    cases hside

/-- The lines that create two groups of the order and name a parent stand as
the groups do. -/
theorem create_setParent_sublist {players : Table Player} {order : List String}
    (hdef : ∀ n ∈ order, n ∈ groups.names) {name parent : String} {g : Group}
    (hg : groups.get? name = some g) (hp : g.primaryParent = some parent) (hne : parent ≠ name) :
    [.create parent, .setParent name parent].Sublist (Script.of players groups order).lines ↔
      [parent, name].Sublist order := by
  rw [lines_of, pair_sublist_append_right create_not_mem_players]
  refine pair_sublist_flatMap hne ?_ ?_
  · intro n hn
    obtain ⟨g', hg'⟩ := Table.mem_names.1 (hdef n hn)
    rw [groupLines, hg', create_mem_lines]
    simp [Block.side, Block.name]
  · intro n hn
    obtain ⟨g', hg'⟩ := Table.mem_names.1 (hdef n hn)
    rw [groupLines, hg', setParent_mem_lines]
    constructor
    · exact And.left
    · rintro rfl
      obtain rfl : g = g' := Option.some.inj (hg.symm.trans hg')
      exact ⟨rfl, hp⟩

/-- A group comes after its first declared parent, and the line that names
the parent after the one that creates it, exactly if the group does not
overtake it. -/
theorem create_before_setParent_iff (r : Roster) {name parent : String} {g : Group}
    (hg : r.groups.get? name = some g) (hp : g.primaryParent = some parent)
    (hn : name ∈ (resolve r.groups).order) (hm : parent ∈ (resolve r.groups).order) :
    ([parent, name].Sublist (resolve r.groups).order ↔ ¬ Overtakes r.groups name parent) ∧
      (parent ≠ name →
        ([.create parent, .setParent name parent].Sublist r.report.script.lines ↔
          ¬ Overtakes r.groups name parent)) := by
  have hdef : ∀ n ∈ (resolve r.groups).order, n ∈ r.groups.names :=
    fun n hn => mem_names_of_mem_order hn
  have hpl := placement_of_primaryParent hp (hdef parent hm)
  have horder := parentFirst_order hg hpl hn
  refine ⟨horder, fun hne => ?_⟩
  rw [← horder]
  exact create_setParent_sublist hdef hg hp hne

/-! ## A parent overtaken without a circle -/

/-- `name` declares `parent`, a group of the table. -/
def Declares (groups : Table Group) (name parent : String) : Prop :=
  parent ∈ groups.names ∧ ∃ g, groups.get? name = some g ∧ parent ∈ g.parents

/-- No group is its own ancestor. -/
def Acyclic (groups : Table Group) : Prop :=
  ∀ name, ¬ Relation.TransGen (Declares groups) name name

theorem Acyclic.of_rank (rank : String → Nat)
    (h : ∀ name parent, Declares groups name parent → rank parent < rank name) :
    Acyclic groups := by
  have hlt : ∀ name ancestor, Relation.TransGen (Declares groups) name ancestor →
      rank ancestor < rank name := by
    intro name ancestor hanc
    induction hanc with
    | single hd => exact h _ _ hd
    | tail _ hd ih => exact (h _ _ hd).trans ih
  exact fun name hcirc => Nat.lt_irrefl _ (hlt name name hcirc)

/-- The group that overtakes its parent. -/
def crossedMods : Group := { parents := ["staff", "default"] }

/-- Both `mods` and its first parent `staff` wait to be adopted by `default`,
since `event`, under which `staff` is placed, has no defined parent. -/
def crossed : Table Group :=
  .ofList [("mods", crossedMods), ("default", {}), ("event", { parents := ["ghost"] }),
    ("staff", { parents := ["event", "default"] })]

theorem toList_crossed : crossed.toList =
    [("mods", crossedMods), ("default", {}), ("event", { parents := ["ghost"] }),
      ("staff", { parents := ["event", "default"] })] :=
  Table.toList_ofList (by decide)

theorem placements_crossed : placements crossed = [("staff", "mods"), ("event", "staff")] := by
  simp [placements, placement_eq_find?, Table.names, toList_crossed, crossedMods,
    List.filterMap_cons]

theorem order_crossed : (resolve crossed).order = ["default", "mods", "staff"] := by
  have hroots : roots crossed = ["default"] := by simp [roots, toList_crossed, crossedMods]
  exact order_eq_of_steps toList_crossed hroots placements_crossed 5 (by decide +kernel)
    (by decide +kernel)

theorem get?_crossed_mods : crossed.get? "mods" = some crossedMods := by
  rw [Table.get?_eq_some, toList_crossed]
  exact List.mem_cons_self

theorem acyclic_crossed : Acyclic crossed := by
  refine .of_rank (fun n => ["default", "event", "staff", "mods"].idxOf n) ?_
  rintro name parent ⟨hdef, g, hg, hp⟩
  rw [Table.get?_eq_some, toList_crossed] at hg
  rw [Table.names, toList_crossed] at hdef
  simp only [List.mem_cons, List.not_mem_nil, or_false, Prod.mk.injEq] at hg
  rcases hg with ⟨rfl, rfl⟩ | ⟨rfl, rfl⟩ | ⟨rfl, rfl⟩ | ⟨rfl, rfl⟩
  · simp only [crossedMods, List.mem_cons, List.not_mem_nil, or_false] at hp
    rcases hp with rfl | rfl <;> decide
  · cases hp
  · simp only [List.mem_singleton] at hp
    subst hp
    simp at hdef
  · simp only [List.mem_cons, List.not_mem_nil, or_false] at hp
    rcases hp with rfl | rfl <;> decide

/-- Nothing in the table is circular, both groups are in the order, and the
parent comes second. -/
theorem crossed_parent_second :
    Acyclic crossed ∧ crossed.get? "mods" = some crossedMods ∧
      crossedMods.primaryParent = some "staff" ∧
      (resolve crossed).order = ["default", "mods", "staff"] ∧
      ¬ ["staff", "mods"].Sublist (resolve crossed).order ∧
      ¬ [.create "staff", .setParent "mods" "staff"].Sublist
        ({ groups := crossed } : Roster).report.script.lines := by
  have hlate : ¬ ["staff", "mods"].Sublist (resolve crossed).order := by
    rw [order_crossed]
    decide
  have hdef : ∀ n ∈ (resolve crossed).order, n ∈ crossed.names :=
    fun n hn => mem_names_of_mem_order hn
  refine ⟨acyclic_crossed, get?_crossed_mods, rfl, order_crossed, hlate, fun hlines => hlate ?_⟩
  exact (create_setParent_sublist hdef get?_crossed_mods rfl (by decide)).1 hlines

/-- In that table the law says that `mods` overtakes `staff`. -/
theorem crossed_overtakes :
    crossed.get? "mods" = some crossedMods ∧ crossedMods.primaryParent = some "staff" ∧
      "mods" ∈ (resolve crossed).order ∧ "staff" ∈ (resolve crossed).order ∧
      Overtakes crossed "mods" "staff" := by
  have hn : "mods" ∈ (resolve crossed).order := by
    rw [order_crossed]
    decide
  have hm : "staff" ∈ (resolve crossed).order := by
    rw [order_crossed]
    decide
  have hlaw := create_before_setParent_iff { groups := crossed } get?_crossed_mods rfl hn hm
  refine ⟨get?_crossed_mods, rfl, hn, hm, not_not.1 fun hnot => ?_⟩
  have hfirst : ["staff", "mods"].Sublist (resolve crossed).order := hlaw.1.2 hnot
  rw [order_crossed] at hfirst
  exact absurd hfirst (by decide)

end PermScript
