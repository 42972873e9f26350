/-
What a walk adds to the order, and what a whole run of adoption leaves
behind.

`Walk.Grows` is the invariant of every step: the order only grows, by names
that were unseen and are seen from then on. On top of it stand the three
facts that the laws of the order rest on: a walk leaves no child of a name
it saw unseen (`contains_walk_of_child`), it sees only what its queue leads
to (`walk_induct`), and a name it saw without having it in the queue comes
after the name it is a child of (`walk_follows`).
-/
import Mathlib.Data.List.Basic
import PermScript.Hierarchy

namespace PermScript

theorem contains_visit_eq_false {w : Walk} {name n : String} :
    (w.visit name).seen.contains n = false ↔ name ≠ n ∧ w.seen.contains n = false := by
  rw [contains_visit, Bool.or_eq_false_iff, beq_eq_false_iff_ne]

theorem order_foldl_visit (queue : List String) (w : Walk) :
    (queue.foldl Walk.visit w).order = w.order ++ queue := by
  induction queue generalizing w with
  | nil => exact (List.append_nil _).symm
  | cons name queue ih =>
    rw [List.foldl_cons, ih, Walk.visit, List.append_assoc, List.singleton_append]

theorem contains_foldl_visit (queue : List String) (w : Walk) {n : String} :
    (queue.foldl Walk.visit w).seen.contains n = true ↔
      w.seen.contains n = true ∨ n ∈ queue := by
  induction queue generalizing w with
  | nil => simp
  | cons name queue ih =>
    rw [List.foldl_cons, ih, contains_visit, Bool.or_eq_true, beq_iff_eq, List.mem_cons,
      @eq_comm _ n, or_assoc, or_left_comm]

/-! ## Growth -/

/-- `w'` is `w` after a visit of each of the names `new`. -/
structure Walk.Grows (w w' : Walk) (new : List String) : Prop where
  order_eq : w'.order = w.order ++ new
  contains_iff : ∀ n, w'.seen.contains n = true ↔ w.seen.contains n = true ∨ n ∈ new
  fresh : ∀ n ∈ new, w.seen.contains n = false
  nodup : new.Nodup

namespace Walk.Grows

variable {w w' w'' : Walk} {new more : List String}

theorem refl (w : Walk) : w.Grows w [] where
  order_eq := by simp
  contains_iff := by simp
  fresh := by simp
  nodup := by simp

theorem visit {name : String} (h : w.seen.contains name = false) :
    w.Grows (w.visit name) [name] where
  order_eq := rfl
  contains_iff n := by
    rw [contains_visit, Bool.or_eq_true, beq_iff_eq, List.mem_singleton, or_comm, @eq_comm _ name]
  fresh n hn := by
    rw [List.mem_singleton.1 hn]
    exact h
  nodup := by simp

theorem trans (h : w.Grows w' new) (h' : w'.Grows w'' more) : w.Grows w'' (new ++ more) where
  order_eq := by rw [h'.order_eq, h.order_eq, List.append_assoc]
  contains_iff n := by rw [h'.contains_iff, h.contains_iff, List.mem_append, or_assoc]
  fresh n hn := by
    rcases List.mem_append.1 hn with hn | hn
    · exact h.fresh n hn
    · have hf := h'.fresh n hn
      cases hw : w.seen.contains n with
      | false => rfl
      | true =>
        have hs : w'.seen.contains n = true := (h.contains_iff n).2 (.inl hw)
        rw [hf] at hs
        cases hs
  nodup := by
    refine List.nodup_append.2 ⟨h.nodup, h'.nodup, ?_⟩
    rintro n hn _ hm rfl
    have hs : w'.seen.contains n = true := (h.contains_iff n).2 (.inr hn)
    rw [h'.fresh n hm] at hs
    cases hs

/-- What came out anew was unseen before and is seen now. -/
theorem mem_new_iff (h : w.Grows w' new) (n : String) :
    n ∈ new ↔ w'.seen.contains n = true ∧ w.seen.contains n = false := by
  constructor
  · intro hn
    exact ⟨(h.contains_iff n).2 (.inr hn), h.fresh n hn⟩
  · rintro ⟨hs, hu⟩
    rcases (h.contains_iff n).1 hs with hw | hn
    · rw [hu] at hw
      cases hw
    · exact hn

end Walk.Grows

/-! ## One walk -/

section

variable (children : Children)

theorem grows_walk (queue : List String) (w : Walk) :
    ∃ new, w.Grows (walk children queue w) new := by
  fun_induction walk children queue w with
  | case1 w => exact ⟨[], .refl w⟩
  | case2 _ _ _ _ ih => exact ih
  | case3 name queue w hs ih =>
    obtain ⟨new, hnew⟩ := ih
    exact ⟨[name] ++ new, (Walk.Grows.visit (by simpa using hs)).trans hnew⟩

theorem contains_walk_of_mem {queue : List String} {w : Walk} {n : String} (h : n ∈ queue) :
    (walk children queue w).seen.contains n = true := by
  fun_induction walk children queue w with
  | case1 => cases h
  | case2 name queue w hs ih =>
    rcases List.mem_cons.1 h with rfl | h
    · exact contains_walk_of_contains hs
    · exact ih h
  | case3 name queue w _ ih =>
    rcases List.mem_cons.1 h with rfl | h
    · refine contains_walk_of_contains ?_
      rw [contains_visit, beq_self_eq_true, Bool.true_or]
    · exact ih (List.mem_append_left _ h)

/-- Of a name that a walk is the first to see, it sees the children too. -/
theorem contains_walk_of_child {queue : List String} {w : Walk} {p n : String}
    (hp : (walk children queue w).seen.contains p = true) (hu : w.seen.contains p = false)
    (hn : n ∈ children.getD p []) : (walk children queue w).seen.contains n = true := by
  fun_induction walk children queue w with
  | case1 w =>
    rw [hu] at hp
    cases hp
  | case2 _ _ _ _ ih => exact ih hp hu
  | case3 name queue w _ ih =>
    by_cases hpn : name = p
    · subst hpn
      exact contains_walk_of_mem children (List.mem_append_right _ hn)
    · exact ih hp (contains_visit_eq_false.2 ⟨hpn, hu⟩)

/-- A walk sees only what its queue leads to. -/
theorem walk_induct {P : String → Prop} (hstep : ∀ p n, P p → n ∈ children.getD p [] → P n)
    {queue : List String} {w : Walk} (hq : ∀ n ∈ queue, P n)
    (hw : ∀ n, w.seen.contains n = true → P n) {n : String}
    (hn : (walk children queue w).seen.contains n = true) : P n := by
  fun_induction walk children queue w with
  | case1 w => exact hw n hn
  | case2 name queue w _ ih => exact ih (fun m hm => hq m (List.mem_cons_of_mem _ hm)) hw hn
  | case3 name queue w _ ih =>
    have hname : P name := hq name List.mem_cons_self
    refine ih ?_ ?_ hn
    · intro m hm
      rcases List.mem_append.1 hm with hm | hm
      · exact hq m (List.mem_cons_of_mem _ hm)
      · exact hstep name m hname hm
    · intro m hm
      rw [contains_visit, Bool.or_eq_true, beq_iff_eq] at hm
      rcases hm with rfl | hm
      · exact hname
      · exact hw m hm

/-- What a walk sees without having it in the queue comes after the name it
is a child of. -/
theorem walk_follows {queue : List String} {w : Walk} {n : String}
    (hn : (walk children queue w).seen.contains n = true) (hu : w.seen.contains n = false)
    (hq : n ∉ queue) :
    ∃ p, n ∈ children.getD p [] ∧ [p, n].Sublist (walk children queue w).order := by
  fun_induction walk children queue w with
  | case1 w =>
    rw [hu] at hn
    cases hn
  | case2 name queue w _ ih => exact ih hn hu (fun hm => hq (List.mem_cons_of_mem _ hm))
  | case3 name queue w hs ih =>
    have hne : name ≠ n := fun he => hq (he ▸ List.mem_cons_self)
    have hu' : (w.visit name).seen.contains n = false := contains_visit_eq_false.2 ⟨hne, hu⟩
    by_cases hk : n ∈ children.getD name []
    · obtain ⟨new, hnew⟩ := grows_walk children (queue ++ children.getD name []) (w.visit name)
      refine ⟨name, hk, ?_⟩
      rw [hnew.order_eq]
      have hname : [name].Sublist (w.visit name).order := by simp [Walk.visit]
      exact hname.append (List.singleton_sublist.2 ((hnew.mem_new_iff n).2 ⟨hn, hu'⟩))
    · refine ih hn hu' ?_
      rw [List.mem_append, not_or]
      exact ⟨fun hm => hq (List.mem_cons_of_mem _ hm), hk⟩

/-- Fresh names at the front of the queue are visited before anything else. -/
theorem walk_append {queue : List String} (hnd : queue.Nodup) {w : Walk}
    (hu : ∀ n ∈ queue, w.seen.contains n = false) (rest : List String) :
    walk children (queue ++ rest) w =
      walk children (rest ++ queue.flatMap fun n => children.getD n [])
        (queue.foldl Walk.visit w) := by
  induction queue generalizing w rest with
  | nil => simp
  | cons name queue ih =>
    obtain ⟨hn, hnd⟩ := List.nodup_cons.1 hnd
    have hname : w.seen.contains name = false := hu name List.mem_cons_self
    have hu' : ∀ n ∈ queue, (w.visit name).seen.contains n = false := by
      intro n hm
      have hne : name ≠ n := fun he => hn (he ▸ hm)
      exact contains_visit_eq_false.2 ⟨hne, hu n (List.mem_cons_of_mem _ hm)⟩
    rw [List.cons_append, walk, if_neg (by simp [hname]), List.append_assoc, ih hnd hu']
    simp

theorem grows_foldl_visit {queue : List String} (hnd : queue.Nodup) {w : Walk}
    (hu : ∀ n ∈ queue, w.seen.contains n = false) :
    w.Grows (queue.foldl Walk.visit w) queue where
  order_eq := order_foldl_visit queue w
  contains_iff _ := contains_foldl_visit queue w
  fresh := hu
  nodup := hnd

/-- A queue of fresh names comes out first, as it stands. -/
theorem grows_walk_of_fresh {queue : List String} (hnd : queue.Nodup) {w : Walk}
    (hu : ∀ n ∈ queue, w.seen.contains n = false) :
    ∃ rest, w.Grows (walk children queue w) (queue ++ rest) := by
  have heq := walk_append children hnd hu []
  rw [List.append_nil, List.nil_append] at heq
  obtain ⟨rest, hrest⟩ := grows_walk children (queue.flatMap fun n => children.getD n [])
    (queue.foldl Walk.visit w)
  rw [heq]
  exact ⟨rest, (grows_foldl_visit hnd hu).trans hrest⟩

end

end PermScript
