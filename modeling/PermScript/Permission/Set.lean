/-
Sets of permissions: each literal key with its value. A set is kept in the
order of its keys, so sets with the same values are equal; `get?_insert`
says what an insertion changes.
-/
import PermScript.Text.Lowercase

namespace PermScript

/-- An entry of a permission set: a key and whether it is granted. -/
abbrev Permission := String × Bool

/-- Puts an entry into its place among entries in key order. -/
def insertEntry (key : String) (value : Bool) : List Permission → List Permission
  | [] => [(key, value)]
  | (k, v) :: rest =>
    if key < k then (key, value) :: (k, v) :: rest
    else if k < key then (k, v) :: insertEntry key value rest
    else (key, value) :: rest

theorem lookup_cons_eq_ite (k n : String) (v : Bool) (entries : List Permission) :
    List.lookup k ((n, v) :: entries) = if k = n then some v else entries.lookup k := by
  by_cases h : k = n
  · simp [h]
  · rw [List.lookup_cons, beq_eq_false_iff_ne.2 h, if_neg h]

theorem lookup_insertEntry (key k : String) (value : Bool) (entries : List Permission) :
    (insertEntry key value entries).lookup k =
      if k = key then some value else entries.lookup k := by
  induction entries with
  | nil => rw [insertEntry, lookup_cons_eq_ite]
  | cons p rest ih =>
    obtain ⟨n, v⟩ := p
    simp only [insertEntry]
    split
    · rw [lookup_cons_eq_ite]
    · split
      · rename_i hlt
        rw [lookup_cons_eq_ite, ih, lookup_cons_eq_ite]
        by_cases h : k = n
        · have hk : k ≠ key := by
            rintro rfl
            exact absurd (h ▸ hlt) (String.lt_irrefl _)
          rw [if_pos h, if_neg hk, if_pos h]
        · simp [h]
      · rename_i h₁ h₂
        obtain rfl : key = n := String.le_antisymm (String.not_lt.1 h₂) (String.not_lt.1 h₁)
        by_cases h : k = key <;> simp [lookup_cons_eq_ite, h]

/-- Entries in strictly increasing order of their keys. -/
def Ascending (entries : List Permission) : Prop := entries.Pairwise fun a b => a.1 < b.1

theorem mem_insertEntry {key : String} {value : Bool} {entries : List Permission} {e : Permission}
    (h : e ∈ insertEntry key value entries) : e = (key, value) ∨ e ∈ entries := by
  induction entries with
  | nil => simpa [insertEntry] using h
  | cons p rest ih =>
    obtain ⟨k, v⟩ := p
    simp only [insertEntry] at h
    split at h
    · simpa using h
    · split at h
      · rcases List.mem_cons.1 h with rfl | h
        · simp
        · rcases ih h with rfl | h <;> simp_all
      · rcases List.mem_cons.1 h with rfl | h <;> simp_all

theorem Ascending.insertEntry {entries : List Permission} (h : Ascending entries) (key : String)
    (value : Bool) : Ascending (insertEntry key value entries) := by
  induction entries with
  | nil => simp [Ascending, PermScript.insertEntry]
  | cons p rest ih =>
    obtain ⟨k, v⟩ := p
    obtain ⟨hk, hrest⟩ := List.pairwise_cons.1 h
    simp only [PermScript.insertEntry]
    split
    · rename_i hlt
      refine List.pairwise_cons.2 ⟨?_, h⟩
      intro e he
      rcases List.mem_cons.1 he with rfl | he
      · exact hlt
      · exact String.lt_trans hlt (hk e he)
    · split
      · rename_i hlt
        refine List.pairwise_cons.2 ⟨?_, ih hrest⟩
        intro e he
        rcases mem_insertEntry he with rfl | he
        · exact hlt
        · exact hk e he
      · rename_i h₁ h₂
        obtain rfl : key = k := String.le_antisymm (String.not_lt.1 h₂) (String.not_lt.1 h₁)
        exact List.pairwise_cons.2 ⟨hk, hrest⟩

/-- Literal permissions with their values, no key twice. -/
structure PermissionSet where
  entries : List Permission
  ascending : Ascending entries

namespace PermissionSet

@[ext] theorem ext {s t : PermissionSet} (h : s.entries = t.entries) : s = t := by
  cases s; cases t; cases h; rfl

instance : DecidableEq PermissionSet := fun s t =>
  decidable_of_iff (s.entries = t.entries) ⟨ext, fun h => h ▸ rfl⟩

/-- The set without permissions. -/
def empty : PermissionSet := ⟨[], List.Pairwise.nil⟩

instance : EmptyCollection PermissionSet := ⟨empty⟩

instance : Inhabited PermissionSet := ⟨empty⟩

/-- Gives a key its value, in place of any it had. -/
def insert (s : PermissionSet) (key : String) (value : Bool) : PermissionSet :=
  ⟨insertEntry key value s.entries, s.ascending.insertEntry key value⟩

/-- Gives several keys their values, from left to right. -/
def insertMany (s : PermissionSet) (entries : List Permission) : PermissionSet :=
  entries.foldl (fun s e => s.insert e.1 e.2) s

/-- The values of both sets; where both have a key, that of the second. -/
def extend (s t : PermissionSet) : PermissionSet := s.insertMany t.entries

/-- The value of a key. -/
def get? (s : PermissionSet) (key : String) : Option Bool := s.entries.lookup key

@[simp] theorem get?_empty (key : String) : (∅ : PermissionSet).get? key = none := rfl

/-- The key has the value given last, the others keep theirs. -/
theorem get?_insert (s : PermissionSet) (key k : String) (value : Bool) :
    (s.insert key value).get? k = if k = key then some value else s.get? k :=
  lookup_insertEntry key k value s.entries

/-- The number of keys. -/
def size (s : PermissionSet) : Nat := s.entries.length

/-- Whether there is no key. -/
def isEmpty (s : PermissionSet) : Bool := s.entries.isEmpty

/-- The entries in the order in which they are written: by the key in lower
case, and keys that differ in case only by the key itself. -/
def listed (s : PermissionSet) : List Permission :=
  ((s.entries.map fun e => (Text.lowercase e.1, e)).mergeSort
    fun a b => decide (a.1 ≤ b.1)).map (·.2)

end PermissionSet

end PermScript
