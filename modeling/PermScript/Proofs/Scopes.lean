/-
Whether the permissions of different scopes keep apart.

A key of a world is the name of the world, a colon and a literal, written
one after the other. Names and literals can have colons of their own, so one
key can belong to two scopes. `scopesApart_iff`: the scopes of an entity have
no key in common, their sizes add up and each key has the value of its own
scope, exactly if no literal of one scope enters another (`Scope.Enters`).
`crossing_flips` is about two worlds one of which is named like a part of the
other, where grants become denials.
-/
import Mathlib.Algebra.Ring.Nat
import Mathlib.Data.Finset.Card
import Mathlib.Data.List.Pairwise
import PermScript.Config.Pex
import PermScript.Proofs.Statements

namespace PermScript

/-! ## The keys of a set -/

namespace PermissionSet

/-- The keys that have a value. -/
def keys (s : PermissionSet) : Finset String := (s.entries.map Prod.fst).toFinset

theorem mem_keys {s : PermissionSet} {key : String} :
    key ∈ s.keys ↔ ∃ value, s.get? key = some value := by
  simp [keys, get?_eq_some]

theorem not_mem_keys {s : PermissionSet} {key : String} : key ∉ s.keys ↔ s.get? key = none := by
  rw [mem_keys, ← Option.ne_none_iff_exists', ne_eq, Decidable.not_not]

theorem card_keys (s : PermissionSet) : s.keys.card = s.size := by
  rw [keys, List.toFinset_card_of_nodup s.ascending.nodup_keys, List.length_map, size]

theorem keys_extend (s t : PermissionSet) : (s.extend t).keys = s.keys ∪ t.keys := by
  ext key
  rw [Finset.mem_union, mem_keys, mem_keys, mem_keys, get?_extend]
  cases t.get? key <;> simp

/-- Joining sets adds up their sizes exactly if they have no key in common. -/
theorem size_extend_le_and_eq_iff (s t : PermissionSet) :
    (s.extend t).size ≤ s.size + t.size ∧
      ((s.extend t).size = s.size + t.size ↔ Disjoint s.keys t.keys) := by
  rw [← card_keys, ← card_keys, ← card_keys, keys_extend]
  exact ⟨Finset.card_union_le _ _, Finset.card_union_eq_card_add_card⟩

end PermissionSet

/-! ## Scopes -/

/-- The statements of an entity in one scope: those of a world, or the global
ones. -/
structure Scope where
  world : Option String
  statements : List String

/-- The scopes of an entity: the global one, then the worlds in order. -/
def scopes (global : List String) (worlds : List (String × List String)) : List Scope :=
  ⟨none, global⟩ :: worlds.map fun w => ⟨some w.1, w.2⟩

theorem scopes_concat (global : List String) (worlds : List (String × List String))
    (w : String × List String) :
    scopes global (worlds ++ [w]) = scopes global worlds ++ [⟨some w.1, w.2⟩] := by
  simp [scopes]

/-- Worlds with different names make scopes that are all different. -/
theorem pairwise_world_scopes {worlds : List (String × List String)}
    (h : (worlds.map Prod.fst).Nodup) (global : List String) :
    (scopes global worlds).Pairwise fun a b => a.world ≠ b.world := by
  rw [scopes, List.pairwise_cons, List.pairwise_map]
  refine ⟨?_, (List.pairwise_map.1 h).imp fun hne he => hne (Option.some.inj he)⟩
  intro b hb
  obtain ⟨w, -, rfl⟩ := List.mem_map.1 hb
  exact (Option.some_ne_none _).symm

namespace Scope

variable (rules : PatternRules) (a b : Scope)

/-- The permissions that the scope makes by itself. -/
def permissions : PermissionSet := .ofStatements rules a.world a.statements

/-- The literals of its statements. -/
def literals : List String :=
  a.statements.flatMap fun text => (ScopedStatement.mk a.world text).literals rules

/-- A literal of one scope enters another: up to one of its colons it
completes the name of the other's world, and what follows the colon is a
literal there. -/
def Enters : Prop :=
  ∃ name literal, b.world = some (scopeMark a.world ++ name) ∧
    name ++ ":" ++ literal ∈ a.literals rules ∧ literal ∈ b.literals rules

end Scope

/-! ## Keys of two scopes -/

theorem eq_or_extends_of_append_cons {sep : Char} {v w l m : List Char}
    (h : v ++ sep :: l = w ++ sep :: m) :
    v = w ∨ (∃ n, w = v ++ sep :: n ∧ l = n ++ sep :: m) ∨
      ∃ n, v = w ++ sep :: n ∧ m = n ++ sep :: l := by
  rcases List.append_eq_append_iff.1 h with ⟨n, hw, hl⟩ | ⟨n, hv, hm⟩
  · cases n with
    | nil => exact .inl (by simpa using hw.symm)
    | cons c n =>
      obtain ⟨rfl, htail⟩ := List.cons.inj hl
      exact .inr (.inl ⟨n, hw, htail⟩)
  · cases n with
    | nil => exact .inl (by simpa using hv)
    | cons c n =>
      obtain ⟨rfl, htail⟩ := List.cons.inj hm
      exact .inr (.inr ⟨n, hv, htail⟩)

/-- Where two names, each with a colon and a text after it, come to the same,
the names are equal or one goes on where the colon of the other stands. -/
theorem eq_or_extends_of_append_colon {v w l m : String} (h : v ++ ":" ++ l = w ++ ":" ++ m) :
    v = w ∨ (∃ n, w = v ++ ":" ++ n ∧ l = n ++ ":" ++ m) ∨
      ∃ n, v = w ++ ":" ++ n ∧ m = n ++ ":" ++ l := by
  have hlist : v.toList ++ ':' :: l.toList = w.toList ++ ':' :: m.toList := by
    simpa using congrArg String.toList h
  rcases eq_or_extends_of_append_cons hlist with hvw | ⟨n, hw, hl⟩ | ⟨n, hv, hm⟩
  · exact .inl (String.toList_inj.1 hvw)
  · exact .inr (.inl ⟨String.ofList n, by simp [← String.toList_inj, hw],
      by simp [← String.toList_inj, hl]⟩)
  · exact .inr (.inr ⟨String.ofList n, by simp [← String.toList_inj, hv],
      by simp [← String.toList_inj, hm]⟩)

namespace Scope

variable {rules : PatternRules} {a b : Scope}

/-- The keys of a scope are its literals after the mark of the scope. -/
theorem mem_keys_permissions {key : String} :
    key ∈ (a.permissions rules).keys ↔
      ∃ literal ∈ a.literals rules, scopeMark a.world ++ literal = key := by
  rw [← Decidable.not_iff_not, PermissionSet.not_mem_keys, permissions,
    PermissionSet.get?_ofStatements, lastGrant_eq_none]
  simp only [List.forall_mem_map, ScopedStatement.mem_keys, literals, List.mem_flatMap]
  grind

/-- A literal that enters another scope makes a key of both. -/
theorem Enters.exists_mem_keys (h : a.Enters rules b) :
    ∃ key, key ∈ (a.permissions rules).keys ∧ key ∈ (b.permissions rules).keys := by
  obtain ⟨name, literal, hworld, ha, hb⟩ := h
  refine ⟨scopeMark a.world ++ (name ++ ":" ++ literal), mem_keys_permissions.2 ⟨_, ha, rfl⟩,
    mem_keys_permissions.2 ⟨literal, hb, ?_⟩⟩
  simp only [hworld, scopeMark, String.append_assoc]

/-- A key of two scopes is a literal of one that enters the other. -/
theorem enters_or_enters_of_mem_keys (hne : a.world ≠ b.world) {key : String}
    (ha : key ∈ (a.permissions rules).keys) (hb : key ∈ (b.permissions rules).keys) :
    a.Enters rules b ∨ b.Enters rules a := by
  obtain ⟨l, hl, rfl⟩ := mem_keys_permissions.1 ha
  obtain ⟨m, hm, heq⟩ := mem_keys_permissions.1 hb
  cases hv : a.world with
  | none =>
    cases hw : b.world with
    | none => exact absurd (hv.trans hw.symm) hne
    | some w =>
      rw [hv, hw, scopeMark, scopeMark, String.empty_append] at heq
      exact .inl ⟨w, m, by rw [hv, scopeMark, String.empty_append, hw], heq ▸ hl, hm⟩
  | some v =>
    cases hw : b.world with
    | none =>
      rw [hv, hw, scopeMark, scopeMark, String.empty_append] at heq
      exact .inr ⟨v, l, by rw [hw, scopeMark, String.empty_append, hv], heq ▸ hm, hl⟩
    | some w =>
      rw [hv, hw, scopeMark, scopeMark] at heq
      rcases eq_or_extends_of_append_colon heq with rfl | ⟨n, rfl, rfl⟩ | ⟨n, rfl, rfl⟩
      · exact absurd (hv.trans hw.symm) hne
      · exact .inr ⟨n, l, by rw [hw, hv, scopeMark], hm, hl⟩
      · exact .inl ⟨n, m, by rw [hw, hv, scopeMark], hl, hm⟩

theorem disjoint_keys_iff (hne : a.world ≠ b.world) :
    Disjoint (a.permissions rules).keys (b.permissions rules).keys ↔
      ¬ a.Enters rules b ∧ ¬ b.Enters rules a := by
  rw [Finset.disjoint_left, ← not_or]
  constructor
  · rintro hdisj (h | h)
    · obtain ⟨key, ha, hb⟩ := h.exists_mem_keys
      exact hdisj ha hb
    · obtain ⟨key, hb, ha⟩ := h.exists_mem_keys
      exact hdisj ha hb
  · exact fun hnot key ha hb => hnot (enters_or_enters_of_mem_keys hne ha hb)

/-- No scope enters itself. -/
theorem not_enters_self : ¬ a.Enters rules a := by
  rintro ⟨name, literal, hworld, -, -⟩
  cases hv : a.world with
  | none => simp [hv] at hworld
  | some v =>
    rw [hv, scopeMark, Option.some.injEq, ← String.toList_inj] at hworld
    have := congrArg List.length hworld
    simp at this

/-- Literals without colons enter no scope, whatever the worlds are called. -/
theorem not_enters_of_colonless (h : ∀ literal ∈ a.literals rules, ':' ∉ literal.toList) :
    ¬ a.Enters rules b := by
  rintro ⟨name, literal, -, ha, -⟩
  exact h _ ha (by simp)

end Scope

/-! ## Sets of all scopes -/

section

variable (rules : PatternRules) (global : List String) (worlds : List (String × List String))

/-- The sizes of the sets that the scopes make by themselves. -/
def scopeSizes : List Nat := (scopes global worlds).map fun a => (a.permissions rules).size

/-- No key is in the sets of two scopes. -/
def KeysApart : Prop :=
  (scopes global worlds).Pairwise fun a b =>
    Disjoint (a.permissions rules).keys (b.permissions rules).keys

theorem disjoint_keys_ofScopes {s : PermissionSet} :
    Disjoint (PermissionSet.ofScopes rules global worlds).keys s.keys ↔
      ∀ a ∈ scopes global worlds, Disjoint (a.permissions rules).keys s.keys := by
  induction worlds using List.reverseRecOn with
  | nil => simp [scopes, Scope.permissions, PermissionSet.ofScopes]
  | append_singleton worlds w ih =>
    rw [PermissionSet.ofScopes_concat, PermissionSet.keys_extend, Finset.disjoint_union_left, ih,
      scopes_concat, List.forall_mem_append, List.forall_mem_singleton]
    rfl

theorem keysApart_concat (w : String × List String) :
    KeysApart rules global (worlds ++ [w]) ↔ KeysApart rules global worlds ∧
      Disjoint (PermissionSet.ofScopes rules global worlds).keys
        (PermissionSet.ofStatements rules (some w.1) w.2).keys := by
  rw [KeysApart, scopes_concat, List.pairwise_append, ← KeysApart, disjoint_keys_ofScopes]
  simp only [List.pairwise_singleton, List.forall_mem_singleton, true_and]
  rfl

theorem sum_scopeSizes_concat (w : String × List String) :
    (scopeSizes rules global (worlds ++ [w])).sum =
      (scopeSizes rules global worlds).sum +
        (PermissionSet.ofStatements rules (some w.1) w.2).size := by
  rw [scopeSizes, scopes_concat, List.map_append, List.sum_append, List.map_singleton,
    List.sum_singleton, ← scopeSizes]
  rfl

/-- The whole has at most as many keys as its scopes together, and as many
exactly if these have no key in common. -/
theorem size_ofScopes_le_and_eq_iff :
    (PermissionSet.ofScopes rules global worlds).size ≤ (scopeSizes rules global worlds).sum ∧
      ((PermissionSet.ofScopes rules global worlds).size = (scopeSizes rules global worlds).sum ↔
        KeysApart rules global worlds) := by
  induction worlds using List.reverseRecOn with
  | nil => simp [scopeSizes, KeysApart, scopes, Scope.permissions, PermissionSet.ofScopes]
  | append_singleton worlds w ih =>
    obtain ⟨hle, heq⟩ := ih
    obtain ⟨hle', heq'⟩ := (PermissionSet.ofScopes rules global worlds).size_extend_le_and_eq_iff
      (.ofStatements rules (some w.1) w.2)
    rw [PermissionSet.ofScopes_concat, sum_scopeSizes_concat, keysApart_concat, ← heq, ← heq']
    omega

/-- Where no key is in two sets, each key has the value of its own scope. -/
theorem KeysApart.get?_eq {rules : PatternRules} {global : List String}
    {worlds : List (String × List String)} (h : KeysApart rules global worlds) :
    ∀ a ∈ scopes global worlds, ∀ key ∈ (a.permissions rules).keys,
      (PermissionSet.ofScopes rules global worlds).get? key = (a.permissions rules).get? key := by
  induction worlds using List.reverseRecOn with
  | nil =>
    intro a ha key _
    obtain rfl := List.mem_singleton.1 ha
    rfl
  | append_singleton worlds w ih =>
    obtain ⟨hworlds, hdisj⟩ := (keysApart_concat rules global worlds w).1 h
    intro a ha key hkey
    rw [PermissionSet.ofScopes_concat, PermissionSet.get?_extend]
    rw [scopes_concat] at ha
    rcases List.mem_append.1 ha with ha | ha
    · have hnone : (PermissionSet.ofStatements rules (some w.1) w.2).get? key = none :=
        PermissionSet.not_mem_keys.1
          (Finset.disjoint_left.1 ((disjoint_keys_ofScopes rules global worlds).1 hdisj a ha) hkey)
      rw [hnone, Option.none_or, ih hworlds a ha key hkey]
    · obtain rfl := List.mem_singleton.1 ha
      obtain ⟨value, hvalue⟩ := PermissionSet.mem_keys.1 hkey
      have hlast : (PermissionSet.ofStatements rules (some w.1) w.2).get? key = some value := hvalue
      rw [hlast, hvalue, Option.some_or]

/-- Without two worlds of one name, no key is in two sets exactly if no
literal of a scope enters another. -/
theorem keysApart_iff (h : (worlds.map Prod.fst).Nodup) :
    KeysApart rules global worlds ↔
      ∀ a ∈ scopes global worlds, ∀ b ∈ scopes global worlds, ¬ a.Enters rules b := by
  have hne := pairwise_world_scopes h global
  constructor
  · intro hkeys
    have hpair := (hkeys.and hne).imp fun hab => (Scope.disjoint_keys_iff hab.2).1 hab.1
    have hself : ∀ a ∈ scopes global worlds, ¬ a.Enters rules a := fun _ _ => Scope.not_enters_self
    exact (hpair.imp And.left).forall_of_forall_of_flip hself (hpair.imp And.right)
  · intro hnot
    refine hne.imp_of_mem fun ha hb hab => (Scope.disjoint_keys_iff hab).2 ?_
    exact ⟨hnot _ ha _ hb, hnot _ hb _ ha⟩

/-- The scopes of an entity keep apart. -/
structure ScopesApart : Prop where
  keys : KeysApart rules global worlds
  size : (PermissionSet.ofScopes rules global worlds).size = (scopeSizes rules global worlds).sum
  /-- A key has the value that its scope alone gives it. -/
  values : ∀ a ∈ scopes global worlds, ∀ key ∈ (a.permissions rules).keys,
    (PermissionSet.ofScopes rules global worlds).get? key = (a.permissions rules).get? key

/-- Scopes of different worlds keep apart exactly if no literal of one enters
another. -/
theorem scopesApart_iff (h : (worlds.map Prod.fst).Nodup) :
    ScopesApart rules global worlds ↔
      ∀ a ∈ scopes global worlds, ∀ b ∈ scopes global worlds, ¬ a.Enters rules b := by
  rw [← keysApart_iff rules global worlds h]
  constructor
  · exact fun happart => happart.keys
  · intro hkeys
    exact ⟨hkeys, (size_ofScopes_le_and_eq_iff rules global worlds).2.2 hkeys, hkeys.get?_eq⟩

end

/-! ## Worlds named alike -/

/-- Two worlds, one of which is named like a part of the other; no literal
has a colon. -/
def nestedWorlds : List (String × List String) :=
  [("nether", ["-fly", "build.(wood|stone)"]), ("nether:roof", ["fly"])]

theorem nested_apart :
    (nestedWorlds.map Prod.fst).Nodup ∧ ScopesApart Config.Pex.rules ["fly"] nestedWorlds := by
  have hnames : (nestedWorlds.map Prod.fst).Nodup := by decide
  have hcolonless : ∀ a ∈ scopes ["fly"] nestedWorlds,
      ∀ literal ∈ a.literals Config.Pex.rules, ':' ∉ literal.toList := by
    decide
  refine ⟨hnames, (scopesApart_iff Config.Pex.rules ["fly"] nestedWorlds hnames).2 ?_⟩
  exact fun a ha b _ => Scope.not_enters_of_colonless (hcolonless a ha)

/-- The same worlds with literals that have colons: one of the global scope
is a key of `nether`, and one of `nether` a key of `nether:roof`. -/
def crossingWorlds : List (String × List String) :=
  [("nether", ["-fly", "roof:fly"]), ("nether:roof", ["-fly"])]

/-- Of four entries two keys are left, and two grants have become denials. -/
theorem crossing_flips :
    (crossingWorlds.map Prod.fst).Nodup ∧
      scopeSizes Config.Pex.rules ["nether:fly"] crossingWorlds = [1, 2, 1] ∧
      (PermissionSet.ofStatements Config.Pex.rules none ["nether:fly"]).entries =
        [("nether:fly", true)] ∧
      (PermissionSet.ofStatements Config.Pex.rules (some "nether") ["-fly", "roof:fly"]).entries =
        [("nether:fly", false), ("nether:roof:fly", true)] ∧
      (PermissionSet.ofScopes Config.Pex.rules ["nether:fly"] crossingWorlds).entries =
        [("nether:fly", false), ("nether:roof:fly", false)] ∧
      ¬ ScopesApart Config.Pex.rules ["nether:fly"] crossingWorlds := by
  have hsizes : scopeSizes Config.Pex.rules ["nether:fly"] crossingWorlds = [1, 2, 1] := by decide
  have hentries : (PermissionSet.ofScopes Config.Pex.rules ["nether:fly"] crossingWorlds).entries =
      [("nether:fly", false), ("nether:roof:fly", false)] := by decide
  refine ⟨by decide, hsizes, by decide, by decide, hentries, fun happart => ?_⟩
  have hsize := happart.size
  rw [PermissionSet.size, hentries, hsizes] at hsize
  exact absurd hsize (by decide)

end PermScript
