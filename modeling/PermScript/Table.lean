/-
Tables of named records that remember the order in which the names first
came. A hash index finds a name's place; it is always the index of the
names as they stand, so two tables with the same entries are the same table.

The table is seen through `toList`: `get?_eq_some` says what is found,
`toList_insert_of_mem` and `toList_insert_of_not_mem` that a known name has
its record replaced where it stands and a new one goes to the end, and
`toList_modify` that only the record of the name changes.
-/
import Std.Data.HashMap

namespace PermScript

/-! ## The index of a list of names -/

/-- Each name with its place. -/
def indexOf (names : List String) : Std.HashMap String Nat :=
  names.zipIdx.foldl (fun index p => index.insert p.1 p.2) ∅

theorem indexOf_append_singleton (names : List String) (name : String) :
    indexOf (names ++ [name]) = (indexOf names).insert name names.length := by
  simp [indexOf, List.zipIdx_append]

theorem getElem?_indexOf_reverse (r : List String) (h : r.reverse.Nodup) (name : String) (i : Nat) :
    (indexOf r.reverse)[name]? = some i ↔ r.reverse[i]? = some name := by
  induction r generalizing i with
  | nil => simp [indexOf]
  | cons last r ih =>
    rw [List.reverse_cons] at h ⊢
    obtain ⟨hr, -, hlast⟩ := List.nodup_append.1 h
    rw [indexOf_append_singleton, Std.HashMap.getElem?_insert, List.getElem?_append]
    by_cases hn : last = name
    · subst hn
      have hnot : last ∉ r.reverse := fun hm => hlast last hm last (by simp) rfl
      simp only [beq_self_eq_true, ite_true, Option.some.injEq]
      by_cases hi : i < r.reverse.length
      · rw [if_pos hi]
        exact ⟨fun e => by omega, fun e => absurd (List.mem_of_getElem? e) hnot⟩
      · rw [if_neg hi, List.getElem?_singleton]
        split
        · exact ⟨fun _ => rfl, fun _ => by omega⟩
        · exact ⟨fun e => by omega, fun e => nomatch e⟩
    · rw [if_neg (by simpa using hn), ih hr]
      by_cases hi : i < r.reverse.length
      · rw [if_pos hi]
      · rw [if_neg hi, List.getElem?_eq_none (by omega), List.getElem?_singleton]
        split <;> simp [hn]

/-- A name is found at a place exactly if it stands there. -/
theorem getElem?_indexOf {names : List String} (h : names.Nodup) (name : String) (i : Nat) :
    (indexOf names)[name]? = some i ↔ names[i]? = some name := by
  have := getElem?_indexOf_reverse names.reverse (by simpa using h) name i
  simpa using this

theorem getElem?_indexOf_eq_none {names : List String} (h : names.Nodup) (name : String) :
    (indexOf names)[name]? = none ↔ name ∉ names := by
  rw [Option.eq_none_iff_forall_ne_some]
  simp only [ne_eq, getElem?_indexOf h, List.mem_iff_getElem?, not_exists]

/-! ## Tables -/

/-- Named records in the order in which their names first came. -/
structure Table (α : Type) where
  entries : Array (String × α)
  positions : Std.HashMap String Nat
  nodup : (entries.toList.map Prod.fst).Nodup
  positions_eq : positions = indexOf (entries.toList.map Prod.fst)

namespace Table

variable {α : Type}

/-- The names and records in order. -/
def toList (t : Table α) : List (String × α) := t.entries.toList

/-- The names in order. -/
def names (t : Table α) : List String := t.toList.map Prod.fst

/-- The number of records. -/
def size (t : Table α) : Nat := t.entries.size

/-- Whether there is no record. -/
def isEmpty (t : Table α) : Bool := t.entries.isEmpty

theorem nodup_names (t : Table α) : t.names.Nodup := t.nodup

@[ext] theorem ext {t u : Table α} (h : t.toList = u.toList) : t = u := by
  obtain ⟨te, tp, tn, rfl⟩ := t
  obtain ⟨ue, up, un, rfl⟩ := u
  obtain rfl : te = ue := Array.toList_inj.1 h
  rfl

/-- The table without records. -/
def empty : Table α where
  entries := #[]
  positions := indexOf []
  nodup := by simp
  positions_eq := by simp

instance : EmptyCollection (Table α) := ⟨empty⟩

@[simp] theorem toList_empty : (∅ : Table α).toList = [] := rfl

instance : Inhabited (Table α) := ⟨empty⟩

/-- The place of a name. -/
def position? (t : Table α) (name : String) : Option Nat := t.positions[name]?

/-- A name's place is where it stands. -/
theorem position?_eq_some {t : Table α} {name : String} {i : Nat} :
    t.position? name = some i ↔ t.names[i]? = some name := by
  rw [position?, t.positions_eq]
  exact getElem?_indexOf t.nodup name i

theorem position?_eq_none {t : Table α} {name : String} :
    t.position? name = none ↔ name ∉ t.names := by
  rw [position?, t.positions_eq]
  exact getElem?_indexOf_eq_none t.nodup name

theorem lt_of_position? {t : Table α} {name : String} {i : Nat} (h : t.position? name = some i) :
    ∃ hi : i < t.entries.size, (t.entries[i]).1 = name := by
  rw [position?_eq_some, names, List.getElem?_map, Option.map_eq_some_iff] at h
  obtain ⟨e, he, rfl⟩ := h
  obtain ⟨hi, rfl⟩ := List.getElem?_eq_some_iff.1 he
  exact ⟨by simpa [toList] using hi, rfl⟩

/-- Whether there is a record of that name. -/
def contains (t : Table α) (name : String) : Bool := (t.position? name).isSome

theorem contains_iff {t : Table α} {name : String} : t.contains name = true ↔ name ∈ t.names := by
  rw [contains, Option.isSome_iff_ne_none, ne_eq, position?_eq_none, Decidable.not_not]

/-- The record of that name. -/
def get? (t : Table α) (name : String) : Option α := do
  (t.entries[← t.position? name]?).map Prod.snd

theorem getElem?_toList_of_mem {t : Table α} {name : String} {i : Nat}
    (h : t.position? name = some i) {e : String × α} (he : e ∈ t.toList) (hn : e.1 = name) :
    t.toList[i]? = some e := by
  obtain ⟨j, hj⟩ := List.mem_iff_getElem?.1 he
  have hp : t.position? name = some j := by
    rw [position?_eq_some, names, List.getElem?_map, hj, Option.map_some, hn]
  rw [Option.some.inj (h.symm.trans hp)]
  exact hj

/-- A record is found exactly where it stands. -/
theorem get?_eq_some {t : Table α} {name : String} {a : α} :
    t.get? name = some a ↔ (name, a) ∈ t.toList := by
  have hget : ∀ i : Nat, t.entries[i]? = t.toList[i]? := fun i => Array.getElem?_toList.symm
  simp only [get?, Option.bind_eq_bind, Option.bind_eq_some_iff, Option.map_eq_some_iff, hget]
  constructor
  · rintro ⟨i, hi, ⟨n, a'⟩, he, rfl⟩
    rw [position?_eq_some, names, List.getElem?_map, he, Option.map_some, Option.some.injEq] at hi
    obtain rfl : n = name := hi
    exact List.mem_of_getElem? he
  · intro he
    obtain ⟨i, hi⟩ := List.mem_iff_getElem?.1 (List.mem_map_of_mem (f := Prod.fst) he)
    have hp := position?_eq_some.2 hi
    exact ⟨i, hp, _, getElem?_toList_of_mem hp he rfl, rfl⟩

theorem names_set {t : Table α} {name : String} {i : Nat} (hi : i < t.entries.size)
    (hn : (t.entries[i]).1 = name) (a : α) :
    (t.entries.set i (name, a)).toList.map Prod.fst = t.entries.toList.map Prod.fst := by
  rw [Array.toList_set, List.map_set]
  apply List.ext_getElem (by simp)
  intro j h₁ h₂
  rw [List.getElem_set]
  split
  · subst_vars; simp
  · rfl

/-- Replaces the record at a place, whose name stays. -/
def setAt (t : Table α) (name : String) (i : Nat) (a : α) (h : t.position? name = some i) :
    Table α :=
  have hi := lt_of_position? h
  { entries := t.entries.set i (name, a) hi.1
    positions := t.positions
    nodup := by rw [names_set hi.1 hi.2]; exact t.nodup
    positions_eq := by rw [names_set hi.1 hi.2]; exact t.positions_eq }

theorem toList_setAt {t : Table α} {name : String} {i : Nat} {a : α}
    (h : t.position? name = some i) :
    (t.setAt name i a h).toList = t.toList.map fun e => if e.1 = name then (name, a) else e := by
  obtain ⟨hi, hn⟩ := lt_of_position? h
  apply List.ext_getElem (by simp [setAt, toList])
  intro j h₁ h₂
  have hj : j < t.entries.size := by simpa [toList] using h₂
  simp only [setAt, toList, Array.toList_set, List.getElem_set, List.getElem_map,
    Array.getElem_toList]
  by_cases hij : i = j
  · subst hij; simp [hn]
  · rw [if_neg hij, if_neg]
    intro hname
    have : t.position? name = some j := by
      rw [position?_eq_some, names, List.getElem?_map, Option.map_eq_some_iff]
      exact ⟨t.entries[j], by simp [toList, hj], hname⟩
    exact hij (Option.some.inj (h.symm.trans this))

/-- Adds a record under a name that has none. -/
def addLast (t : Table α) (name : String) (a : α) (h : t.position? name = none) : Table α where
  entries := t.entries.push (name, a)
  positions := t.positions.insert name t.entries.size
  nodup := by
    have hn := position?_eq_none.1 h
    rw [Array.toList_push, List.map_append]
    refine List.nodup_append.2 ⟨t.nodup, by simp, ?_⟩
    intro x hx y hy
    simp only [List.map_cons, List.map_nil, List.mem_singleton] at hy
    subst hy
    rintro rfl
    exact hn hx
  positions_eq := by
    rw [Array.toList_push, List.map_append, List.map_cons, List.map_nil, indexOf_append_singleton,
      ← t.positions_eq]
    simp

@[simp] theorem toList_addLast {t : Table α} {name : String} {a : α} (h : t.position? name = none) :
    (t.addLast name a h).toList = t.toList ++ [(name, a)] := by
  simp [addLast, toList]

/-- Puts a record under a name: in the place of the record it had, else at
the end. Returns the replaced record as well. -/
def exchange (t : Table α) (name : String) (a : α) : Option α × Table α :=
  match h : t.position? name with
  | some i => (t.get? name, t.setAt name i a h)
  | none => (none, t.addLast name a h)

/-- Puts a record under a name. -/
def insert (t : Table α) (name : String) (a : α) : Table α := (t.exchange name a).2

/-- A known name has its record replaced where it stands. -/
theorem toList_insert_of_mem {t : Table α} {name : String} (h : name ∈ t.names) (a : α) :
    (t.insert name a).toList = t.toList.map fun e => if e.1 = name then (name, a) else e := by
  rw [insert, exchange]
  split
  · rename_i hs
    exact toList_setAt hs
  · rename_i hn
    exact absurd h (position?_eq_none.1 hn)

/-- The record of a new name goes to the end. -/
theorem toList_insert_of_not_mem {t : Table α} {name : String} (h : name ∉ t.names) (a : α) :
    (t.insert name a).toList = t.toList ++ [(name, a)] := by
  rw [insert, exchange]
  split
  · rename_i hs
    rw [position?_eq_none.2 h] at hs
    cases hs
  · rename_i hn
    exact toList_addLast hn

/-- Changes the record of a name, if it has one. -/
def modify (t : Table α) (name : String) (f : α → α) : Table α :=
  match h : t.position? name with
  | some i =>
    have hi := (lt_of_position? h).1
    t.setAt name i (f t.entries[i].2) h
  | none => t

/-- Only the record of the name changes. -/
theorem toList_modify (t : Table α) (name : String) (f : α → α) :
    (t.modify name f).toList = t.toList.map fun e => if e.1 = name then (e.1, f e.2) else e := by
  rw [modify]
  split
  · rename_i i h
    rw [toList_setAt h]
    refine List.map_congr_left fun e he => ?_
    split
    · rename_i hn
      have hi := (lt_of_position? h).1
      have := getElem?_toList_of_mem h he hn
      rw [toList, Array.getElem?_toList, Array.getElem?_eq_getElem hi, Option.some.injEq] at this
      rw [this, hn]
    · rfl
  · rename_i h
    have hmem := position?_eq_none.1 h
    refine ((List.map_congr_left fun e he => ?_).trans (List.map_id _)).symm
    rw [if_neg (fun hn : e.1 = name => hmem (hn ▸ List.mem_map_of_mem he)), id]

/-- The table of records inserted from left to right. -/
def ofList (records : List (String × α)) : Table α :=
  records.foldl (fun t r => t.insert r.1 r.2) ∅

end Table

end PermScript
