/-
Tables by name: what an insertion, a change and a whole list of insertions
do to the names and to what is found under each of them.

`names_insertAll` and `get?_insertAll` are the law of a table: the names
stand in the order in which they first came, each with the record that came
last. `ext_get?` says that nothing else is in a table.
-/
import Mathlib.Data.List.Basic
import Mathlib.Data.List.Induction
import PermScript.Table

namespace PermScript

/-! ## Lists in the order of first appearance -/

theorem eraseDups_of_nodup {names : List String} (h : names.Nodup) : names.eraseDups = names := by
  induction names with
  | nil => rfl
  | cons name names ih =>
    obtain ⟨hn, hnd⟩ := List.nodup_cons.1 h
    have hf : names.filter (fun b => !b == name) = names := by
      rw [List.filter_eq_self]
      intro b hb
      have hne : b ≠ name := fun he => hn (he ▸ hb)
      simpa using hne
    rw [List.eraseDups_cons, hf, ih hnd]

theorem eraseDups_concat (names : List String) (name : String) :
    (names ++ [name]).eraseDups =
      if name ∈ names then names.eraseDups else names.eraseDups ++ [name] := by
  rw [List.eraseDups_append]
  by_cases h : name ∈ names
  · have hr : [name].removeAll names = [] := by simp [List.removeAll, h]
    rw [if_pos h, hr, List.eraseDups_nil, List.append_nil]
  · have hr : [name].removeAll names = [name] := by simp [List.removeAll, h]
    rw [if_neg h, hr]
    rfl

theorem nodup_eraseDups (names : List String) : names.eraseDups.Nodup := by
  induction names using List.reverseRecOn with
  | nil => exact List.nodup_nil
  | append_singleton names name ih =>
    rw [eraseDups_concat]
    split
    · exact ih
    · rename_i h
      rw [← List.mem_eraseDups] at h
      exact List.nodup_append.2 ⟨ih, by simp, fun a ha b hb hab => h (by simp_all)⟩

/-- Names that are listed already can be left to stand once. -/
theorem eraseDups_eraseDups_append (names more : List String) :
    (names.eraseDups ++ more).eraseDups = (names ++ more).eraseDups := by
  induction more using List.reverseRecOn with
  | nil => rw [List.append_nil, List.append_nil, eraseDups_of_nodup (nodup_eraseDups names)]
  | append_singleton more name ih =>
    rw [← List.append_assoc, ← List.append_assoc, eraseDups_concat, eraseDups_concat, ih]
    simp only [List.mem_append, List.mem_eraseDups]

/-- The record that comes last under a name. -/
def lastRecord {α : Type} (records : List (String × α)) (name : String) : Option α :=
  records.reverse.lookup name

theorem lastRecord_append {α : Type} (records more : List (String × α)) (name : String) :
    lastRecord (records ++ more) name = (lastRecord more name).or (lastRecord records name) := by
  simp [lastRecord, List.lookup_append]

theorem lastRecord_map {α β : Type} (f : α → β) (records : List (String × α)) (name : String) :
    lastRecord (records.map fun r => (r.1, f r.2)) name = (lastRecord records name).map f := by
  rw [lastRecord, lastRecord, ← List.map_reverse]
  induction records.reverse with
  | nil => rfl
  | cons r records ih =>
    obtain ⟨n, a⟩ := r
    simp only [List.map_cons, List.lookup_cons]
    split
    · rfl
    · exact ih

theorem lastRecord_concat {α : Type} (records : List (String × α)) (r : String × α)
    (name : String) :
    lastRecord (records ++ [r]) name =
      if name = r.1 then some r.2 else lastRecord records name := by
  obtain ⟨n, a⟩ := r
  simp only [lastRecord, List.reverse_append, List.reverse_singleton, List.singleton_append]
  by_cases h : name = n
  · simp [h]
  · rw [if_neg h, List.lookup_cons, beq_eq_false_iff_ne.2 h]

theorem lastRecord_eq_none {α : Type} {records : List (String × α)} {name : String} :
    lastRecord records name = none ↔ name ∉ records.map Prod.fst := by
  simp only [lastRecord, List.lookup_eq_none_iff, List.mem_reverse, List.mem_map, not_exists,
    not_and]
  constructor
  · intro h e he hn
    simpa [hn] using h e he
  · intro h e he
    have hne : e.1 ≠ name := h e he
    simpa using fun hn : name = e.1 => hne hn.symm

theorem exists_lastRecord {α : Type} {records : List (String × α)} {name : String}
    (h : name ∈ records.map Prod.fst) : ∃ a, lastRecord records name = some a := by
  have hne : lastRecord records name ≠ none := fun hnone => lastRecord_eq_none.1 hnone h
  exact Option.ne_none_iff_exists'.1 hne

theorem mem_of_lastRecord {α : Type} {records : List (String × α)} {name : String} {a : α}
    (h : lastRecord records name = some a) : name ∈ records.map Prod.fst := by
  by_contra hnot
  rw [lastRecord_eq_none.2 hnot] at h
  cases h

theorem lookup_eq_some_iff {α : Type} {records : List (String × α)}
    (h : (records.map Prod.fst).Nodup) {name : String} {a : α} :
    records.lookup name = some a ↔ (name, a) ∈ records := by
  induction records with
  | nil => simp
  | cons r records ih =>
    obtain ⟨n, b⟩ := r
    rw [List.map_cons, List.nodup_cons] at h
    by_cases hn : name = n
    · subst hn
      have hnot : (name, a) ∉ records := fun hm => h.1 (List.mem_map.2 ⟨_, hm, rfl⟩)
      simp [hnot, eq_comm]
    · rw [List.lookup_cons, beq_eq_false_iff_ne.2 hn]
      simp [ih h.2, hn]

/-- Where no name comes twice, the last record under a name is the only one. -/
theorem lastRecord_eq_some_iff {α : Type} {records : List (String × α)}
    (h : (records.map Prod.fst).Nodup) {name : String} {a : α} :
    lastRecord records name = some a ↔ (name, a) ∈ records := by
  have hr : (records.reverse.map Prod.fst).Nodup := by
    rw [List.map_reverse]
    exact (List.reverse_perm _).nodup_iff.2 h
  rw [lastRecord, lookup_eq_some_iff hr, List.mem_reverse]

namespace Table

variable {α : Type}

/-! ## Looking up -/

theorem get?_eq_none {t : Table α} {name : String} : t.get? name = none ↔ name ∉ t.names := by
  rw [Option.eq_none_iff_forall_ne_some, names, List.mem_map]
  constructor
  · rintro h ⟨⟨n, a⟩, he, rfl⟩
    exact h a (get?_eq_some.2 he)
  · intro h a ha
    exact h ⟨(name, a), get?_eq_some.1 ha, rfl⟩

@[simp] theorem names_empty : (∅ : Table α).names = [] := rfl

@[simp] theorem get?_empty (name : String) : (∅ : Table α).get? name = none :=
  get?_eq_none.2 List.not_mem_nil

@[simp] theorem length_names (t : Table α) : t.names.length = t.size := by
  simp [names, toList, size]

theorem mem_names {t : Table α} {name : String} : name ∈ t.names ↔ ∃ a, t.get? name = some a := by
  rw [← Option.ne_none_iff_exists', ne_eq, get?_eq_none, Decidable.not_not]

theorem mem_names_of_get? {t : Table α} {name : String} {a : α} (h : t.get? name = some a) :
    name ∈ t.names := mem_names.2 ⟨a, h⟩

/-- A table is its names, each with what is found under it. -/
theorem toList_eq_filterMap (t : Table α) :
    t.toList = t.names.filterMap fun name => (t.get? name).map fun a => (name, a) := by
  rw [names, List.filterMap_map]
  refine (List.filterMap_some.symm.trans (List.filterMap_congr ?_))
  intro e he
  rw [Function.comp_apply, get?_eq_some.2 he]
  rfl

theorem ext_get? {t u : Table α} (hn : t.names = u.names)
    (hget : ∀ name, t.get? name = u.get? name) : t = u := by
  ext1
  rw [toList_eq_filterMap t, toList_eq_filterMap u, hn]
  refine List.filterMap_congr fun name _ => ?_
  rw [hget]

/-! ## Inserting and changing -/

theorem names_insert (t : Table α) (name : String) (a : α) :
    (t.insert name a).names = if name ∈ t.names then t.names else t.names ++ [name] := by
  by_cases h : name ∈ t.names
  · rw [if_pos h, names, toList_insert_of_mem h, List.map_map]
    refine List.map_congr_left fun e _ => ?_
    rw [Function.comp_apply]
    split
    · rename_i hn; exact hn.symm
    · rfl
  · rw [if_neg h, names, toList_insert_of_not_mem h, List.map_append]
    rfl

/-- The record inserted is found under its name, and nothing else changes. -/
theorem get?_insert (t : Table α) (name n : String) (a : α) :
    (t.insert name a).get? n = if n = name then some a else t.get? n := by
  apply Option.ext
  intro b
  by_cases h : name ∈ t.names
  · rw [get?_eq_some, toList_insert_of_mem h, List.mem_map]
    constructor
    · rintro ⟨⟨m, c⟩, hm, he⟩
      split at he
      · rename_i hmn
        cases he
        rw [if_pos rfl]
      · rename_i hmn
        cases he
        rw [if_neg hmn]
        exact get?_eq_some.2 hm
    · intro hb
      split at hb
      · rename_i hn
        subst hn
        cases hb
        obtain ⟨c, hc⟩ := mem_names.1 h
        exact ⟨(n, c), get?_eq_some.1 hc, if_pos rfl⟩
      · rename_i hn
        exact ⟨(n, b), get?_eq_some.1 hb, if_neg hn⟩
  · rw [get?_eq_some, toList_insert_of_not_mem h, List.mem_append, List.mem_singleton]
    by_cases hn : n = name
    · subst hn
      have hnot : (n, b) ∉ t.toList := fun hm => h (mem_names_of_get? (get?_eq_some.2 hm))
      simp [hnot, eq_comm]
    · simp [hn, get?_eq_some]

@[simp] theorem names_modify (t : Table α) (name : String) (f : α → α) :
    (t.modify name f).names = t.names := by
  rw [names, toList_modify, List.map_map]
  refine List.map_congr_left fun e _ => ?_
  rw [Function.comp_apply]
  split <;> rfl

theorem get?_modify (t : Table α) (name n : String) (f : α → α) :
    (t.modify name f).get? n = if n = name then (t.get? n).map f else t.get? n := by
  apply Option.ext
  intro b
  rw [get?_eq_some, toList_modify, List.mem_map]
  constructor
  · rintro ⟨⟨m, c⟩, hm, he⟩
    have hc := get?_eq_some.2 hm
    split at he
    · rename_i hmn
      cases he
      rw [if_pos hmn, hc]
      rfl
    · rename_i hmn
      cases he
      rw [if_neg hmn, hc]
  · intro hb
    split at hb
    · rename_i hn
      obtain ⟨c, hc, rfl⟩ := Option.map_eq_some_iff.1 hb
      exact ⟨(n, c), get?_eq_some.1 hc, if_pos hn⟩
    · rename_i hn
      exact ⟨(n, b), get?_eq_some.1 hb, if_neg hn⟩

theorem mem_names_insert (t : Table α) (name : String) (a : α) : name ∈ (t.insert name a).names :=
  mem_names_of_get? ((get?_insert t name name a).trans (if_pos rfl))

/-- The later of two records under a name is kept. -/
theorem insert_insert (t : Table α) (name : String) (a b : α) :
    (t.insert name a).insert name b = t.insert name b := by
  refine ext_get? ?_ fun n => ?_
  · rw [names_insert, if_pos (mem_names_insert t name a), names_insert, names_insert]
  · rw [get?_insert, get?_insert, get?_insert]
    split <;> rfl

/-- To change a record just put in is to put in the changed one. -/
theorem modify_insert (t : Table α) (name : String) (a : α) (f : α → α) :
    (t.insert name a).modify name f = t.insert name (f a) := by
  refine ext_get? ?_ fun n => ?_
  · rw [names_modify, names_insert, names_insert]
  · rw [get?_modify, get?_insert, get?_insert]
    split <;> rfl

/-! ## Many insertions -/

/-- Inserts records from left to right. -/
def insertAll (t : Table α) (records : List (String × α)) : Table α :=
  records.foldl (fun t r => t.insert r.1 r.2) t

@[simp] theorem insertAll_nil (t : Table α) : t.insertAll [] = t := rfl

theorem insertAll_concat (t : Table α) (records : List (String × α)) (r : String × α) :
    t.insertAll (records ++ [r]) = (t.insertAll records).insert r.1 r.2 := by
  simp [insertAll]

/-- The names stand in the order in which they first came. -/
theorem names_insertAll (t : Table α) (records : List (String × α)) :
    (t.insertAll records).names = (t.names ++ records.map Prod.fst).eraseDups := by
  induction records using List.reverseRecOn with
  | nil => simp [eraseDups_of_nodup t.nodup_names]
  | append_singleton records r ih =>
    rw [insertAll_concat, names_insert, ih, List.map_append, ← List.append_assoc,
      List.map_singleton, eraseDups_concat]
    simp only [List.mem_eraseDups]

/-- Each name has the record that came last. -/
theorem get?_insertAll (t : Table α) (records : List (String × α)) (name : String) :
    (t.insertAll records).get? name = (lastRecord records name).or (t.get? name) := by
  induction records using List.reverseRecOn with
  | nil => simp [lastRecord]
  | append_singleton records r ih =>
    rw [insertAll_concat, get?_insert, ih, lastRecord_concat]
    split <;> rfl

/-- Records under new names are all kept. -/
theorem toList_insertAll {t : Table α} {records : List (String × α)}
    (h : (t.names ++ records.map Prod.fst).Nodup) :
    (t.insertAll records).toList = t.toList ++ records := by
  induction records using List.reverseRecOn with
  | nil => simp
  | append_singleton records r ih =>
    rw [List.map_append, ← List.append_assoc, List.nodup_append] at h
    obtain ⟨hnd, -, hdisj⟩ := h
    have hr : r.1 ∉ (t.insertAll records).names := by
      rw [names_insertAll, List.mem_eraseDups]
      exact fun hm => hdisj _ hm _ (by simp) rfl
    rw [insertAll_concat, toList_insert_of_not_mem hr, ih hnd, List.append_assoc]

theorem toList_ofList {records : List (String × α)} (h : (records.map Prod.fst).Nodup) :
    (ofList records).toList = records :=
  toList_insertAll (t := ∅) (by simpa using h)

end Table

end PermScript
