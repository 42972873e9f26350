/-
The group of a pattern, by positions and by matching.

A group may open wherever a parenthesis does and there is something before
the next closing one (`OpensGroup`); that is also where the expression
`^(.*)\(([^)]+)\)(.*)$` matches (`Grouped.Matches`). The pattern is expanded
at the last of these places, which is the match of the greedy expression:
`expand_eq_map_alternatives`.
-/
import Mathlib.Order.Bounds.Basic
import PermScript.Permission.Pattern

namespace PermScript

/-! ## Cutting and splitting -/

theorem cutAt?_eq_some_iff {sep : Char} {cs before after : List Char} :
    cutAt? sep cs = some (before, after) ↔ cs = before ++ sep :: after ∧ sep ∉ before := by
  induction cs generalizing before with
  | nil => simp [cutAt?]
  | cons c cs ih =>
    rw [cutAt?]
    by_cases hc : c = sep
    · subst hc
      rw [if_pos rfl, Option.some.injEq, Prod.mk.injEq]
      constructor
      · rintro ⟨rfl, rfl⟩
        exact ⟨rfl, List.not_mem_nil⟩
      · rintro ⟨heq, hnot⟩
        cases before with
        | nil => exact ⟨rfl, (List.cons.inj heq).2⟩
        | cons b before =>
          obtain ⟨rfl, -⟩ := List.cons.inj heq
          exact absurd List.mem_cons_self hnot
    · rw [if_neg hc, Option.map_eq_some_iff]
      constructor
      · rintro ⟨⟨b, a⟩, hcut, heq⟩
        cases heq
        obtain ⟨rfl, hnot⟩ := ih.1 hcut
        exact ⟨rfl, by simp [hnot, Ne.symm hc]⟩
      · rintro ⟨heq, hnot⟩
        cases before with
        | nil => exact absurd (List.cons.inj heq).1 hc
        | cons b before =>
          obtain ⟨rfl, rfl⟩ := List.cons.inj heq
          exact ⟨(before, after), ih.2 ⟨rfl, fun h => hnot (List.mem_cons_of_mem _ h)⟩, rfl⟩

/-- The alternatives are what the bars separate. -/
theorem alternatives_eq_splitOn (cs : List Char) : alternatives cs = cs.splitOn '|' := by
  induction cs with
  | nil => rfl
  | cons c cs ih =>
    rw [alternatives, List.splitOn_cons_eq_if_modifyHead, ih]
    by_cases hc : c = '|'
    · simp [hc]
    · rw [if_neg hc, if_neg (by simpa using hc)]
      cases h : cs.splitOn '|' with
      | nil => exact absurd h (List.splitOn_ne_nil _ _)
      | cons a as => rfl

theorem length_alternatives (cs : List Char) : (alternatives cs).length = cs.count '|' + 1 := by
  rw [alternatives_eq_splitOn]
  induction cs with
  | nil => rfl
  | cons c cs ih =>
    rw [List.splitOn_cons_eq_if_modifyHead, List.count_cons]
    by_cases hc : c = '|'
    · simp [hc, ih]
    · simp [hc, ih]

/-! ## Matches -/

namespace Grouped

/-- The text that is cut into the three parts. -/
def text (g : Grouped) : List Char := g.head ++ '(' :: (g.inner ++ ')' :: g.tail)

/-- The three parts are how `(.*)\(([^)]+)\)(.*)` can match the whole text. -/
structure Matches (g : Grouped) (p : List Char) : Prop where
  text_eq : g.text = p
  inner_ne_nil : g.inner ≠ []
  closing_not_mem : ')' ∉ g.inner

/-- A match is greedy if every other one has a shorter head. -/
structure GreedyMatch (g : Grouped) (p : List Char) : Prop extends g.Matches p where
  shorter : ∀ g' : Grouped, g'.Matches p → g' ≠ g → g'.head.length < g.head.length

/-- The same parts with one more character in front. -/
def cons (c : Char) (g : Grouped) : Grouped := { g with head := c :: g.head }

variable {c : Char} {g : Grouped} {p : List Char}

theorem Matches.cons (h : g.Matches p) : (g.cons c).Matches (c :: p) :=
  ⟨congrArg (c :: ·) h.text_eq, h.inner_ne_nil, h.closing_not_mem⟩

/-- A match begins after the first character or with it. -/
theorem matches_cons_iff :
    g.Matches (c :: p) ↔ (∃ g' : Grouped, g'.Matches p ∧ g = g'.cons c) ∨
      c = '(' ∧ g.head = [] ∧ g.inner ≠ [] ∧ cutAt? ')' p = some (g.inner, g.tail) := by
  constructor
  · intro h
    obtain ⟨head, inner, tail⟩ := g
    cases head with
    | nil =>
      obtain ⟨hc, hp⟩ := List.cons.inj h.text_eq
      exact .inr ⟨hc.symm, rfl, h.inner_ne_nil, cutAt?_eq_some_iff.2 ⟨hp.symm, h.closing_not_mem⟩⟩
    | cons d head =>
      obtain ⟨hd, hp⟩ := List.cons.inj h.text_eq
      obtain rfl : d = c := hd
      exact .inl ⟨⟨head, inner, tail⟩, ⟨hp, h.inner_ne_nil, h.closing_not_mem⟩, rfl⟩
  · rintro (⟨g', h, rfl⟩ | ⟨rfl, hhead, hinner, hcut⟩)
    · exact h.cons
    · obtain ⟨hp, hnot⟩ := cutAt?_eq_some_iff.1 hcut
      exact ⟨by rw [text, hhead, hp]; rfl, hinner, hnot⟩

end Grouped

/-! ## The last group -/

variable {c : Char} {p : List Char}

theorem lastGroup?_cons_of_some {g : Grouped} (h : lastGroup? p = some g) :
    lastGroup? (c :: p) = some (g.cons c) := by
  rw [lastGroup?, h]
  rfl

theorem lastGroup?_cons_of_none (h : lastGroup? p = none) {g : Grouped} :
    lastGroup? (c :: p) = some g ↔
      c = '(' ∧ g.head = [] ∧ g.inner ≠ [] ∧ cutAt? ')' p = some (g.inner, g.tail) := by
  obtain ⟨head, inner, tail⟩ := g
  rw [lastGroup?, h]
  by_cases hc : c = '('
  · simp only [if_pos hc]
    rcases hcut : cutAt? ')' p with _ | ⟨_ | ⟨d, before⟩, after⟩
    · simp
    · simp only [reduceCtorEq, Option.some.injEq, Prod.mk.injEq, false_iff]
      rintro ⟨-, -, hinner, rfl, -⟩
      exact hinner rfl
    · simp only [Option.some.injEq, Grouped.mk.injEq, Prod.mk.injEq]
      constructor
      · rintro ⟨rfl, rfl, rfl⟩
        exact ⟨hc, rfl, List.cons_ne_nil _ _, rfl, rfl⟩
      · rintro ⟨-, rfl, -, rfl, rfl⟩
        exact ⟨rfl, rfl, rfl⟩
  · simp [hc]

theorem exists_lastGroup? {g : Grouped} (h : g.Matches p) : ∃ g', lastGroup? p = some g' := by
  induction p generalizing g with
  | nil =>
    have hlength := congrArg List.length h.text_eq
    simp [Grouped.text] at hlength
  | cons c p ih =>
    cases hlast : lastGroup? p with
    | some g' => exact ⟨_, lastGroup?_cons_of_some hlast⟩
    | none =>
      rcases Grouped.matches_cons_iff.1 h with ⟨g', hg', -⟩ | hfirst
      · obtain ⟨g'', hg''⟩ := ih hg'
        cases hlast.symm.trans hg''
      · exact ⟨g, (lastGroup?_cons_of_none hlast).2 hfirst⟩

/-- The last group is the greedy match. -/
theorem greedyMatch_of_lastGroup? {g : Grouped} (h : lastGroup? p = some g) : g.GreedyMatch p := by
  induction p generalizing g with
  | nil => cases h
  | cons c p ih =>
    cases hlast : lastGroup? p with
    | some last =>
      have hgreedy := ih hlast
      cases (lastGroup?_cons_of_some hlast).symm.trans h
      refine ⟨hgreedy.toMatches.cons, fun g' hg' hne => ?_⟩
      rcases Grouped.matches_cons_iff.1 hg' with ⟨g'', hg'', rfl⟩ | ⟨-, hhead, -⟩
      · have hne' : g'' ≠ last := fun heq => hne (congrArg (Grouped.cons c) heq)
        exact Nat.succ_lt_succ (hgreedy.shorter g'' hg'' hne')
      · rw [hhead]
        exact Nat.succ_pos _
    | none =>
      have hfirst := (lastGroup?_cons_of_none hlast).1 h
      refine ⟨Grouped.matches_cons_iff.2 (.inr hfirst), fun g' hg' hne => ?_⟩
      rcases Grouped.matches_cons_iff.1 hg' with ⟨g'', hg'', -⟩ | hfirst'
      · obtain ⟨g₁, hg₁⟩ := exists_lastGroup? hg''
        cases hlast.symm.trans hg₁
      · -- Both begin at the same parenthesis and so have the same parts.
        have hsame := ((lastGroup?_cons_of_none hlast).2 hfirst').symm.trans h
        exact absurd (Option.some.inj hsame) hne

theorem lastGroup?_eq_none : lastGroup? p = none ↔ ∀ g : Grouped, ¬ g.Matches p := by
  constructor
  · intro hnone g hg
    obtain ⟨g', hg'⟩ := exists_lastGroup? hg
    cases hnone.symm.trans hg'
  · intro h
    cases hlast : lastGroup? p with
    | none => rfl
    | some g => exact absurd (greedyMatch_of_lastGroup? hlast).toMatches (h g)

/-! ## Positions -/

/-- A group opens at a position if a parenthesis does, a closing one follows
and there is something before the first of these. -/
def OpensGroup (p : List Char) (i : Nat) : Prop :=
  p[i]? = some '(' ∧ ')' ∈ p.drop (i + 1) ∧ (p.drop (i + 1)).takeWhile (· ≠ ')') ≠ []

/-- The parts of a pattern around a group that opens at a position: what
stands before it, up to the first closing parenthesis, and after that. -/
def groupAt (p : List Char) (i : Nat) : Grouped where
  head := p.take i
  inner := (p.drop (i + 1)).takeWhile (· ≠ ')')
  tail := ((p.drop (i + 1)).dropWhile (· ≠ ')')).tail

theorem cutAt?_takeWhile {sep : Char} {cs : List Char} (h : sep ∈ cs) :
    cutAt? sep cs = some (cs.takeWhile (· ≠ sep), (cs.dropWhile (· ≠ sep)).tail) := by
  induction cs with
  | nil => cases h
  | cons c cs ih =>
    rw [cutAt?]
    by_cases hc : c = sep
    · simp [hc]
    · have hmem : sep ∈ cs := by simpa [Ne.symm hc] using h
      simp [hc, ih hmem]

theorem matches_groupAt {i : Nat} (h : OpensGroup p i) : (groupAt p i).Matches p := by
  obtain ⟨hopen, hclosed, hinner⟩ := h
  obtain ⟨hi, hopen⟩ := List.getElem?_eq_some_iff.1 hopen
  obtain ⟨hrest, hnot⟩ := cutAt?_eq_some_iff.1 (cutAt?_takeWhile hclosed)
  refine ⟨?_, hinner, hnot⟩
  have hsplit : p.take i ++ '(' :: p.drop (i + 1) = p := by
    rw [← hopen, List.getElem_cons_drop, List.take_append_drop]
  exact (congrArg (fun rest => p.take i ++ '(' :: rest) hrest.symm).trans hsplit

theorem Grouped.Matches.opensGroup {g : Grouped} (h : g.Matches p) :
    OpensGroup p g.head.length ∧ g = groupAt p g.head.length := by
  obtain ⟨rfl, hinner, hnot⟩ := h
  obtain ⟨head, inner, tail⟩ := g
  have hdrop : (Grouped.text ⟨head, inner, tail⟩).drop (head.length + 1) =
      inner ++ ')' :: tail := by
    simp [Grouped.text]
  have hcut : cutAt? ')' (inner ++ ')' :: tail) = some (inner, tail) :=
    cutAt?_eq_some_iff.2 ⟨rfl, hnot⟩
  have hmem : ')' ∈ inner ++ ')' :: tail := by simp
  obtain ⟨hi, ht⟩ := Prod.mk.inj (Option.some.inj ((cutAt?_takeWhile hmem).symm.trans hcut))
  refine ⟨⟨by simp [Grouped.text], by rw [hdrop]; exact hmem, by rw [hdrop, hi]; exact hinner⟩, ?_⟩
  rw [groupAt, hdrop, hi, ht]
  simp [Grouped.text]

/-- The greedy match is at the last position where a group opens. -/
theorem Grouped.GreedyMatch.isGreatest {g : Grouped} (h : g.GreedyMatch p) :
    IsGreatest {i | OpensGroup p i} g.head.length := by
  refine ⟨h.toMatches.opensGroup.1, fun i hi => ?_⟩
  have hmatch := matches_groupAt hi
  have hlength : (groupAt p i).head.length = i := by
    obtain ⟨hlt, -⟩ := List.getElem?_eq_some_iff.1 hi.1
    simp [groupAt, Nat.le_of_lt hlt]
  by_cases heq : groupAt p i = g
  · rw [← heq, hlength]
  · have := h.shorter _ hmatch heq
    omega

/-- After the greedy match no group opens any more. -/
theorem Grouped.GreedyMatch.not_opensGroup_tail {g : Grouped} (h : g.GreedyMatch p) (i : Nat) :
    ¬ OpensGroup g.tail i := by
  intro hi
  have hin := matches_groupAt hi
  -- A group in the tail is a match of the whole pattern with a longer head.
  let wide : Grouped := { groupAt g.tail i with
    head := g.head ++ '(' :: (g.inner ++ ')' :: (groupAt g.tail i).head) }
  have hwide : wide.Matches p := by
    refine ⟨?_, hin.inner_ne_nil, hin.closing_not_mem⟩
    rw [← h.text_eq]
    have htail : (groupAt g.tail i).head ++ '(' :: ((groupAt g.tail i).inner ++
        ')' :: (groupAt g.tail i).tail) = g.tail := hin.text_eq
    simp only [wide, Grouped.text, List.append_assoc, List.cons_append, htail]
  have hlonger : g.head.length < wide.head.length := by
    simp [wide]
  have := h.isGreatest.2 hwide.opensGroup.1
  omega

/-! ## Expansion -/

/-- A pattern is expanded at its last group: for each alternative in order
the text with the alternative in place of the group. That group is the match
of the greedy expression; it opens at the last position where one does, and
the tail has no group. The alternatives joined by bars give the pattern back.
A pattern without a group is left as it is. -/
theorem expand_eq_map_alternatives (pattern : String) :
    expand pattern ≠ [] ∧
      ((∀ i, ¬ OpensGroup pattern.toList i) ∧ (∀ g : Grouped, ¬ g.Matches pattern.toList) ∧
          expand pattern = [pattern] ∨
        ∃ i g, IsGreatest {i | OpensGroup pattern.toList i} i ∧ g = groupAt pattern.toList i ∧
          g.GreedyMatch pattern.toList ∧
          expand pattern =
            (g.inner.splitOn '|').map (fun a => String.ofList (g.head ++ a ++ g.tail)) ∧
          (expand pattern).length = g.inner.count '|' + 1 ∧
          (∀ j, ¬ OpensGroup g.tail j) ∧
          g.head ++ '(' :: (['|'].intercalate (g.inner.splitOn '|') ++ ')' :: g.tail) =
            pattern.toList) := by
  cases hlast : lastGroup? pattern.toList with
  | none =>
    have hexpand : expand pattern = [pattern] := by rw [expand, hlast]
    have hnone : ∀ g : Grouped, ¬ g.Matches pattern.toList := by
      intro g hg
      obtain ⟨g', hg'⟩ := exists_lastGroup? hg
      cases hlast.symm.trans hg'
    rw [hexpand]
    exact ⟨List.cons_ne_nil _ _, .inl ⟨fun i hi => hnone _ (matches_groupAt hi), hnone, rfl⟩⟩
  | some g =>
    have hgreedy := greedyMatch_of_lastGroup? hlast
    have hexpand : expand pattern =
        (alternatives g.inner).map fun a => String.ofList (g.head ++ a ++ g.tail) := by
      rw [expand, hlast]
    have hlength : (expand pattern).length = g.inner.count '|' + 1 := by
      rw [hexpand, List.length_map, length_alternatives]
    refine ⟨List.ne_nil_of_length_pos (by omega), .inr ⟨g.head.length, g, hgreedy.isGreatest,
      hgreedy.toMatches.opensGroup.2, hgreedy, ?_, hlength, hgreedy.not_opensGroup_tail, ?_⟩⟩
    · rw [hexpand, alternatives_eq_splitOn]
    · rw [List.intercalate_splitOn]
      exact hgreedy.text_eq

/-- Parentheses that are empty or never closed open no group, and a group may
have an opening parenthesis in front of it. -/
example : expand "a.(b.(x|y).()(z" = ["a.(b.x.()(z", "a.(b.y.()(z"] := by decide

end PermScript
