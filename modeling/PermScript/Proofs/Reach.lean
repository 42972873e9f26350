/-
What a walk reaches, over whatever children and from whatever it begins with.

Children may lead in circles, names may be in the queue more than once, and
some may have been seen before. A name is reached if a line of children leads
to it from a name of the queue without passing one that was seen before
(`Reached`). A walk puts out the names it reaches, each once
(`walk_reaches`), and it comes to an end: each turn takes one name off the
queue, and the children of a name are put into it only once.
-/
import Mathlib.Logic.Function.Iterate
import Mathlib.Logic.Relation
import PermScript.Proofs.Walk

namespace PermScript

/-! ## Reached names -/

/-- A child of the parent that was not seen. -/
def UnseenChild (children : Children) (seen : Std.HashSet String) (parent name : String) : Prop :=
  name ∈ children.getD parent [] ∧ seen.contains name = false

/-- A line of children, none of them seen, leads to the name from a name of the
queue that was not seen either. -/
def Reached (children : Children) (queue : List String) (seen : Std.HashSet String)
    (name : String) : Prop :=
  ∃ start ∈ queue, seen.contains start = false ∧
    Relation.ReflTransGen (UnseenChild children seen) start name

section

variable {children : Children} {queue : List String} {w : Walk} {name n : String}

theorem Reached.unseen {seen : Std.HashSet String} (h : Reached children queue seen n) :
    seen.contains n = false := by
  obtain ⟨start, -, hu, hline⟩ := h
  cases hline with
  | refl => exact hu
  | tail _ hlast => exact hlast.2

theorem Reached.cons {seen : Std.HashSet String} (h : Reached children queue seen n) :
    Reached children (name :: queue) seen n := by
  obtain ⟨start, hstart, hline⟩ := h
  exact ⟨start, List.mem_cons_of_mem _ hstart, hline⟩

/-- What is reached after a visit was reached before it. -/
theorem Reached.of_visit (hname : w.seen.contains name = false)
    (h : Reached children (queue ++ children.getD name []) (w.visit name).seen n) :
    Reached children (name :: queue) w.seen n := by
  obtain ⟨start, hstart, hu, hline⟩ := h
  have hu' : w.seen.contains start = false := (contains_visit_eq_false.1 hu).2
  have hchild : ∀ a b, UnseenChild children (w.visit name).seen a b →
      UnseenChild children w.seen a b :=
    fun _ _ h => ⟨h.1, (contains_visit_eq_false.1 h.2).2⟩
  have hline' : Relation.ReflTransGen (UnseenChild children w.seen) start n :=
    Relation.ReflTransGen.mono hchild _ _ hline
  rcases List.mem_append.1 hstart with hq | hk
  · exact ⟨start, List.mem_cons_of_mem _ hq, hu', hline'⟩
  · exact ⟨name, List.mem_cons_self, hname, .head ⟨hk, hu'⟩ hline'⟩

theorem contains_walk_of_reached (h : Reached children queue w.seen n) :
    (walk children queue w).seen.contains n = true := by
  obtain ⟨start, hstart, hu, hline⟩ := h
  induction hline with
  | refl => exact contains_walk_of_mem children hstart
  | tail hline hlast ih =>
    have hunseen := Reached.unseen ⟨start, hstart, hu, hline⟩
    exact contains_walk_of_child children ih hunseen hlast.1

theorem reached_of_contains_walk (h : (walk children queue w).seen.contains n = true) :
    w.seen.contains n = true ∨ Reached children queue w.seen n := by
  fun_induction walk children queue w with
  | case1 w => exact .inl h
  | case2 name queue w _ ih => exact (ih h).imp_right Reached.cons
  | case3 name queue w hs ih =>
    have hname : w.seen.contains name = false := by simpa using hs
    rcases ih h with hseen | hreached
    · rw [contains_visit, Bool.or_eq_true, beq_iff_eq] at hseen
      rcases hseen with rfl | hseen
      · exact .inr ⟨name, List.mem_cons_self, hname, .refl⟩
      · exact .inl hseen
    · exact .inr (hreached.of_visit hname)

end

/-! ## Turns -/

/-- One turn of a walk: the first name is taken off the queue, and is visited
unless it was seen. -/
def turn (children : Children) : List String × Walk → List String × Walk
  | ([], w) => ([], w)
  | (name :: queue, w) =>
    if w.seen.contains name then (queue, w)
    else (queue ++ children.getD name [], w.visit name)

/-- How many names come off the queue: those in it at first, and the children
of those that are visited. -/
def turnCount (children : Children) (queue visited : List String) : Nat :=
  queue.length + (visited.flatMap fun name => children.getD name []).length

/-- After so many turns, and no sooner, the queue is empty. -/
structure Ends (children : Children) (start : List String × Walk) (count : Nat) (w : Walk) :
    Prop where
  last : (turn children)^[count] start = ([], w)
  before : ∀ k < count, ((turn children)^[k] start).1 ≠ []

theorem Ends.of_turn {children : Children} {name : String} {queue : List String} {w w' : Walk}
    {count : Nat} (h : Ends children (turn children (name :: queue, w)) count w') :
    Ends children (name :: queue, w) (count + 1) w' where
  last := h.last
  before k hk := by
    cases k with
    | zero => exact List.cons_ne_nil _ _
    | succ k => exact h.before k (Nat.lt_of_succ_lt_succ hk)

theorem ends_walk (children : Children) (queue : List String) (w : Walk) :
    ∃ new, w.Grows (walk children queue w) new ∧
      Ends children (queue, w) (turnCount children queue new) (walk children queue w) := by
  fun_induction walk children queue w with
  | case1 w => exact ⟨[], .refl w, rfl, fun k hk => absurd hk (Nat.not_lt_zero k)⟩
  | case2 name queue w hs ih =>
    obtain ⟨new, hnew, hends⟩ := ih
    have hturn : turn children (name :: queue, w) = (queue, w) := if_pos hs
    have hcount : turnCount children (name :: queue) new = turnCount children queue new + 1 := by
      simp only [turnCount, List.length_cons]
      omega
    refine ⟨new, hnew, ?_⟩
    rw [hcount]
    exact .of_turn (hturn ▸ hends)
  | case3 name queue w hs ih =>
    obtain ⟨new, hnew, hends⟩ := ih
    have hturn : turn children (name :: queue, w) =
        (queue ++ children.getD name [], w.visit name) := if_neg hs
    have hcount : turnCount children (name :: queue) (name :: new) =
        turnCount children (queue ++ children.getD name []) new + 1 := by
      simp only [turnCount, List.length_cons, List.length_append, List.flatMap_cons]
      omega
    refine ⟨name :: new, (Walk.Grows.visit (by simpa using hs)).trans hnew, ?_⟩
    rw [hcount]
    exact .of_turn (hturn ▸ hends)

/-- A walk puts the names it reaches at the end of the order, each once, and no
others; these are seen afterwards besides what was seen before. Its queue is
empty after as many turns as there were names in it. -/
theorem walk_reaches (children : Children) (queue : List String) (w : Walk) :
    ∃ new, (walk children queue w).order = w.order ++ new ∧ new.Nodup ∧
      (∀ name, name ∈ new ↔ Reached children queue w.seen name) ∧
      (∀ name, (walk children queue w).seen.contains name = true ↔
        w.seen.contains name = true ∨ name ∈ new) ∧
      Ends children (queue, w) (turnCount children queue new) (walk children queue w) := by
  obtain ⟨new, hnew, hends⟩ := ends_walk children queue w
  refine ⟨new, hnew.order_eq, hnew.nodup, fun name => ?_, hnew.contains_iff, hends⟩
  rw [hnew.mem_new_iff]
  constructor
  · rintro ⟨hseen, hunseen⟩
    refine (reached_of_contains_walk hseen).resolve_left fun hbefore => ?_
    rw [hunseen] at hbefore
    cases hbefore
  · intro h
    exact ⟨contains_walk_of_reached h, h.unseen⟩

end PermScript
