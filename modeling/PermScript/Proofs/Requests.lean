/-
What a table answers to a sequence of requests, and what it is after them.

A table is records with an index that fits them, and its operations rely on
that. Two plainer things take the same requests: a list of records that is
searched from the front (`Request.onRecords`), and the records and the index
of a table with no word on whether they fit (`Request.onParts`). There the
index can point past the end, and the name would get a second record. A
request leads from a table to one that looks like what it leads to in the list
and in the parts (`onRecords_toList`, `onParts_parts`). So the answers to all
requests are those of the list, and the index never points past the end
(`kept_answerAll`).
-/
import PermScript.Proofs.Table

namespace PermScript

/-! ## Requests -/

/-- What can be asked of a table. -/
inductive Request (α : Type)
  /-- Puts a record under a name. The answer is the record it replaces. -/
  | insert (name : String) (a : α)
  /-- Looks a name up. The answer is its record. -/
  | get (name : String)
  /-- Changes the record of a name, if it has one, such as by appending to it.
  The answer is the record as it is then. -/
  | modify (name : String) (f : α → α)

/-- Answers requests one after the other. -/
def answerAll {α σ : Type} (answer : Request α → σ → Option α × σ) :
    List (Request α) → σ → List (Option α) × σ
  | [], s => ([], s)
  | r :: rs, s =>
    let (a, s) := answer r s
    let (as, s) := answerAll answer rs s
    (a :: as, s)

/-- Two things that look alike before and after each request give the same
answers to all. -/
theorem answerAll_view {α σ τ : Type} {answer : Request α → σ → Option α × σ}
    {answer' : Request α → τ → Option α × τ} (view : σ → τ)
    (hstep : ∀ r s, answer' r (view s) = ((answer r s).1, view (answer r s).2))
    (rs : List (Request α)) (s : σ) :
    answerAll answer' rs (view s) =
      ((answerAll answer rs s).1, view (answerAll answer rs s).2) := by
  induction rs generalizing s with
  | nil => rfl
  | cons r rs ih => simp only [answerAll, hstep, ih]

theorem snd_answerAll_concat {α σ : Type} (answer : Request α → σ → Option α × σ)
    (rs : List (Request α)) (r : Request α) (s : σ) :
    (answerAll answer (rs ++ [r]) s).2 = (answer r (answerAll answer rs s).2).2 := by
  induction rs generalizing s with
  | nil => rfl
  | cons _ rs ih => exact ih _

/-- What a request preserves of the history so far, all of them establish. -/
theorem answerAll_induct {α σ : Type} {answer : Request α → σ → Option α × σ}
    {P : List (Request α) → σ → Prop} {s : σ} (hs : P [] s)
    (hstep : ∀ rs r s, P rs s → P (rs ++ [r]) (answer r s).2) (rs : List (Request α)) :
    P rs (answerAll answer rs s).2 := by
  induction rs using List.reverseRecOn with
  | nil => exact hs
  | append_singleton rs r ih =>
    rw [snd_answerAll_concat]
    exact hstep rs r _ ih

variable {α : Type}

namespace Request

/-- The name that is asked about. -/
def name : Request α → String
  | insert name _ => name
  | get name => name
  | modify name _ => name

/-- The name under which a record is put. -/
def inserted? : Request α → Option String
  | insert name _ => some name
  | _ => none

/-- The record of a name after a request, by the one it had before. -/
def effect (n : String) : Request α → Option α → Option α
  | insert name a, old => if n = name then some a else old
  | get _, old => old
  | modify name f, old => if n = name then old.map f else old

/-- A request to a table. -/
def onTable : Request α → Table α → Option α × Table α
  | insert name a, t => t.exchange name a
  | get name, t => (t.get? name, t)
  | modify name f, t => ((t.modify name f).get? name, t.modify name f)

end Request

/-! ## A list of records -/

/-- Puts a record where the name stands first in a list, else at the end. -/
def putRecord (name : String) (a : α) : List (String × α) → List (String × α)
  | [] => [(name, a)]
  | r :: records => if r.1 = name then (name, a) :: records else r :: putRecord name a records

/-- Changes the record where the name stands first in a list. -/
def changeRecord (name : String) (f : α → α) : List (String × α) → List (String × α)
  | [] => []
  | r :: records =>
    if r.1 = name then (name, f r.2) :: records else r :: changeRecord name f records

/-- A request to a list of records. -/
def Request.onRecords : Request α → List (String × α) → Option α × List (String × α)
  | insert name a, records => (records.lookup name, putRecord name a records)
  | get name, records => (records.lookup name, records)
  | modify name f, records => ((records.lookup name).map f, changeRecord name f records)

theorem map_of_not_mem {records : List (String × α)} {name : String}
    (h : name ∉ records.map Prod.fst) (g : String × α → String × α) :
    (records.map fun e => if e.1 = name then g e else e) = records := by
  refine (List.map_congr_left fun e he => ?_).trans (List.map_id _)
  rw [if_neg (fun hn : e.1 = name => h (hn ▸ List.mem_map_of_mem he)), id]

theorem putRecord_of_mem {records : List (String × α)} (hnd : (records.map Prod.fst).Nodup)
    {name : String} (h : name ∈ records.map Prod.fst) (a : α) :
    putRecord name a records = records.map fun e => if e.1 = name then (name, a) else e := by
  induction records with
  | nil => cases h
  | cons r records ih =>
    rw [List.map_cons, List.nodup_cons] at hnd
    rw [putRecord, List.map_cons]
    by_cases hr : r.1 = name
    · rw [if_pos hr, if_pos hr, map_of_not_mem (hr ▸ hnd.1)]
    · rw [if_neg hr, if_neg hr, ih hnd.2 ((List.mem_cons.1 h).resolve_left (Ne.symm hr))]

theorem putRecord_of_not_mem {records : List (String × α)} {name : String}
    (h : name ∉ records.map Prod.fst) (a : α) :
    putRecord name a records = records ++ [(name, a)] := by
  induction records with
  | nil => rfl
  | cons r records ih =>
    rw [List.map_cons, List.mem_cons, not_or] at h
    rw [putRecord, if_neg (Ne.symm h.1), ih h.2, List.cons_append]

theorem changeRecord_eq_map {records : List (String × α)} (hnd : (records.map Prod.fst).Nodup)
    (name : String) (f : α → α) :
    changeRecord name f records = records.map fun e => if e.1 = name then (e.1, f e.2) else e := by
  induction records with
  | nil => rfl
  | cons r records ih =>
    rw [List.map_cons, List.nodup_cons] at hnd
    rw [changeRecord, List.map_cons]
    by_cases hr : r.1 = name
    · rw [if_pos hr, if_pos hr, map_of_not_mem (hr ▸ hnd.1), hr]
    · rw [if_neg hr, if_neg hr, ih hnd.2]

namespace Table

theorem lookup_toList (t : Table α) (name : String) : t.toList.lookup name = t.get? name := by
  ext a
  rw [get?_eq_some]
  exact lookup_eq_some_iff t.nodup_names

theorem fst_exchange (t : Table α) (name : String) (a : α) :
    (t.exchange name a).1 = t.get? name := by
  rw [exchange]
  split
  · rfl
  · rename_i h
    exact (get?_eq_none.2 (position?_eq_none.1 h)).symm

theorem toList_insert (t : Table α) (name : String) (a : α) :
    (t.insert name a).toList = putRecord name a t.toList := by
  by_cases h : name ∈ t.names
  · rw [toList_insert_of_mem h, putRecord_of_mem t.nodup_names h]
  · rw [toList_insert_of_not_mem h, putRecord_of_not_mem h]

end Table

/-- A table does with a request what the list of its records does. -/
theorem onRecords_toList (r : Request α) (t : Table α) :
    r.onRecords t.toList = ((r.onTable t).1, (r.onTable t).2.toList) := by
  cases r with
  | insert name a =>
    have hsnd : (t.exchange name a).2.toList = putRecord name a t.toList := t.toList_insert name a
    rw [Request.onRecords, Request.onTable, t.lookup_toList, t.fst_exchange, hsnd]
  | get name => rw [Request.onRecords, Request.onTable, t.lookup_toList]
  | modify name f =>
    rw [Request.onRecords, Request.onTable, t.lookup_toList, Table.get?_modify, if_pos rfl,
      Table.toList_modify, changeRecord_eq_map t.nodup_names]

/-! ## The parts of a table -/

/-- Records and an index of places, whether or not they fit. -/
structure Parts (α : Type) where
  entries : Array (String × α)
  positions : Std.HashMap String Nat

/-- The parts of a table. -/
def Table.parts (t : Table α) : Parts α := ⟨t.entries, t.positions⟩

namespace Parts

/-- What stands at the place that the index has for a name. -/
def find? (p : Parts α) (name : String) : Option (Nat × α) := do
  let i ← p.positions[name]?
  let e ← p.entries[i]?
  return (i, e.2)

/-- Puts a record at a place under the name that stands there. -/
def write (p : Parts α) (i : Nat) (a : α) : Parts α :=
  { p with entries := p.entries.modify i fun e => (e.1, a) }

/-- Puts a record at the end. -/
def push (p : Parts α) (name : String) (a : α) : Parts α :=
  ⟨p.entries.push (name, a), p.positions.insert name p.entries.size⟩

/-- Puts a record under a name: at its place if something stands there, else
at the end. -/
def exchange (p : Parts α) (name : String) (a : α) : Option α × Parts α :=
  match p.find? name with
  | some (i, old) => (some old, p.write i a)
  | none => (none, p.push name a)

/-- Changes the record at the place of a name, if something stands there. -/
def modify (p : Parts α) (name : String) (f : α → α) : Option α × Parts α :=
  match p.find? name with
  | some (i, old) => (some (f old), p.write i (f old))
  | none => (none, p)

end Parts

/-- A request to the parts of a table. -/
def Request.onParts : Request α → Parts α → Option α × Parts α
  | insert name a, p => p.exchange name a
  | get name, p => ((p.find? name).map Prod.snd, p)
  | modify name f, p => p.modify name f

namespace Table

variable {t : Table α} {name : String}

section

variable {i : Nat} (h : t.position? name = some i)
include h

theorem exchange_eq_setAt (a : α) : t.exchange name a = (t.get? name, t.setAt name i a h) := by
  rw [exchange]
  split
  · rename_i j hj
    obtain rfl : i = j := Option.some.inj (h.symm.trans hj)
    rfl
  · rename_i hnone
    rw [h] at hnone
    cases hnone

/-- What stands at the place of a name is its record, and a change starts
from that. -/
theorem exists_find?_parts :
    ∃ old, t.parts.find? name = some (i, old) ∧ t.get? name = some old ∧
      ∀ f, t.modify name f = t.setAt name i (f old) h := by
  obtain ⟨hi, -⟩ := lt_of_position? h
  have hpositions : t.positions[name]? = some i := h
  refine ⟨t.entries[i].2, ?_, ?_, fun f => ?_⟩
  · simp [Parts.find?, parts, hpositions, hi]
  · simp [get?, h, hi]
  · rw [modify]
    split
    · rename_i j hj
      obtain rfl : i = j := Option.some.inj (h.symm.trans hj)
      rfl
    · rename_i hnone
      rw [h] at hnone
      cases hnone

/-- A record is written where the index says, and the name there stays. -/
theorem parts_setAt (a : α) : (t.setAt name i a h).parts = t.parts.write i a := by
  obtain ⟨hi, hn⟩ := lt_of_position? h
  have hentries : t.entries.set i (name, a) hi = t.entries.modify i fun e => (e.1, a) := by
    refine Array.ext (by simp) fun j hj hj' => ?_
    rw [Array.getElem_set, Array.getElem_modify]
    by_cases hij : i = j
    · subst hij
      rw [if_pos rfl, if_pos rfl, hn]
    · rw [if_neg hij, if_neg hij]
  exact congrArg (Parts.mk · t.positions) hentries

end

section

variable (h : t.position? name = none)
include h

theorem exchange_eq_addLast (a : α) : t.exchange name a = (none, t.addLast name a h) := by
  rw [exchange]
  split
  · rename_i hsome
    rw [h] at hsome
    cases hsome
  · rfl

theorem find?_parts_eq_none : t.parts.find? name = none := by
  have hpositions : t.positions[name]? = none := h
  simp [Parts.find?, parts, hpositions]

theorem modify_of_position?_eq_none (f : α → α) : t.modify name f = t := by
  ext1
  rw [toList_modify]
  exact map_of_not_mem (position?_eq_none.1 h) _

end

end Table

/-- A table does with a request what its parts do. -/
theorem onParts_parts (r : Request α) (t : Table α) :
    r.onParts t.parts = ((r.onTable t).1, (r.onTable t).2.parts) := by
  cases r with
  | insert name a =>
    rw [Request.onParts, Request.onTable, Parts.exchange]
    cases h : t.position? name with
    | some i =>
      obtain ⟨old, hfind, hget, -⟩ := Table.exists_find?_parts h
      rw [hfind, Table.exchange_eq_setAt h, Table.parts_setAt, hget]
    | none =>
      rw [Table.find?_parts_eq_none h, Table.exchange_eq_addLast h]
      rfl
  | get name =>
    rw [Request.onParts, Request.onTable]
    cases h : t.position? name with
    | some i =>
      obtain ⟨old, hfind, hget, -⟩ := Table.exists_find?_parts h
      rw [hfind, hget]
      rfl
    | none =>
      rw [Table.find?_parts_eq_none h, Table.get?_eq_none.2 (Table.position?_eq_none.1 h)]
      rfl
  | modify name f =>
    rw [Request.onParts, Request.onTable, Parts.modify, Table.get?_modify, if_pos rfl]
    cases h : t.position? name with
    | some i =>
      obtain ⟨old, hfind, hget, hmodify⟩ := Table.exists_find?_parts h
      rw [hfind, hmodify, Table.parts_setAt, hget]
      rfl
    | none =>
      rw [Table.find?_parts_eq_none h, Table.modify_of_position?_eq_none h,
        Table.get?_eq_none.2 (Table.position?_eq_none.1 h)]
      rfl

/-! ## After all requests -/

namespace Table

variable (r : Request α) (t : Table α)

theorem get?_onTable (name : String) : (r.onTable t).2.get? name = r.effect name (t.get? name) := by
  cases r with
  | insert n a => exact get?_insert t n name a
  | get n => rfl
  | modify n f => exact get?_modify t n name f

/-- A request changes no record but that of its own name. -/
theorem get?_onTable_of_ne {name : String} (h : name ≠ r.name) :
    (r.onTable t).2.get? name = t.get? name := by
  rw [get?_onTable]
  cases r with
  | insert n a => exact if_neg h
  | get n => rfl
  | modify n f => exact if_neg h

theorem names_onTable :
    (r.onTable t).2.names = (t.names ++ r.inserted?.toList).eraseDups := by
  have hsame : t.names = (t.names ++ []).eraseDups := by
    rw [List.append_nil, eraseDups_of_nodup t.nodup_names]
  cases r with
  | insert n a =>
    refine (names_insert t n a).trans ?_
    rw [Request.inserted?, Option.toList_some, eraseDups_concat, eraseDups_of_nodup t.nodup_names]
  | get n => exact hsame
  | modify n f => exact (names_modify t n f).trans hsame

/-- A request moves no name to another place. -/
theorem position?_onTable {name : String} {i : Nat} (h : t.position? name = some i) :
    (r.onTable t).2.position? name = some i := by
  rw [position?_eq_some] at h ⊢
  obtain ⟨hi, -⟩ := List.getElem?_eq_some_iff.1 h
  rw [names_onTable, List.eraseDups_append, eraseDups_of_nodup t.nodup_names,
    List.getElem?_append_left hi, h]

end Table

theorem names_answerAll (rs : List (Request α)) :
    (answerAll Request.onTable rs ∅).2.names = (rs.filterMap Request.inserted?).eraseDups := by
  refine answerAll_induct
    (P := fun rs (t : Table α) => t.names = (rs.filterMap Request.inserted?).eraseDups)
    rfl (fun rs r t h => ?_) rs
  rw [Table.names_onTable, h, eraseDups_eraseDups_append, List.filterMap_append]
  cases r <;> rfl

theorem get?_answerAll (rs : List (Request α)) (name : String) :
    (answerAll Request.onTable rs ∅).2.get? name =
      rs.foldl (fun a r => r.effect name a) none := by
  refine answerAll_induct
    (P := fun rs (t : Table α) => t.get? name = rs.foldl (fun a r => r.effect name a) none)
    (Table.get?_empty name) (fun rs r t h => ?_) rs
  rw [Table.get?_onTable, h, List.foldl_append]
  rfl

/-- What a table is after requests to the empty one, and what it answered. -/
structure Kept (rs : List (Request α)) (answers : List (Option α)) (t : Table α) : Prop where
  /-- Answers and records are those of a list of records. -/
  records : answerAll Request.onRecords rs [] = (answers, t.toList)
  /-- They are those of records and an index that are not known to fit. -/
  parts : answerAll Request.onParts rs ⟨#[], ∅⟩ = (answers, t.parts)
  /-- No name comes twice. -/
  distinct : t.names.Nodup
  /-- The index has the names and no others, each with its place. -/
  index : ∀ (name : String) (i : Nat),
    t.positions[name]? = some i ↔ t.entries[i]?.map Prod.fst = some name
  /-- Names stand in the order in which they were first inserted. -/
  order : t.names = (rs.filterMap Request.inserted?).eraseDups
  /-- Each has what the requests under its name come to. -/
  stored : ∀ name, t.get? name = rs.foldl (fun a r => r.effect name a) none
  /-- A name is there exactly if it is listed and if a record is found. -/
  listed : ∀ name, (t.contains name = true ↔ name ∈ t.names) ∧
    (name ∈ t.names ↔ ∃ a, t.get? name = some a)
  /-- One more request changes no record of another name. -/
  others : ∀ (r : Request α) name, name ≠ r.name → (r.onTable t).2.get? name = t.get? name
  /-- It changes no place. -/
  places : ∀ (r : Request α) name i, t.position? name = some i →
    (r.onTable t).2.position? name = some i

/-- A table answers requests as a list of records does that is searched from
the front, and is such a list, with an index that fits. -/
theorem kept_answerAll (rs : List (Request α)) :
    Kept rs (answerAll Request.onTable rs ∅).1 (answerAll Request.onTable rs ∅).2 where
  records := answerAll_view Table.toList onRecords_toList rs ∅
  parts := answerAll_view Table.parts onParts_parts rs ∅
  distinct := Table.nodup_names _
  index name i := by
    rw [← Array.getElem?_toList, ← List.getElem?_map]
    exact Table.position?_eq_some
  order := names_answerAll rs
  stored := get?_answerAll rs
  listed _ := ⟨Table.contains_iff, Table.mem_names⟩
  others r _ := Table.get?_onTable_of_ne r _
  places r _ _ := Table.position?_onTable r _

end PermScript
