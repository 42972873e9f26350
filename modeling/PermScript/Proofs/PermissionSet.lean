/-
Permission sets by key: what many insertions give each key, and that a set
is what its listing inserts.
-/
import Mathlib.Data.List.Nodup
import PermScript.Permission.Set
import PermScript.Proofs.Table

namespace PermScript

theorem Ascending.nodup_keys {entries : List Permission} (h : Ascending entries) :
    (entries.map Prod.fst).Nodup := by
  rw [List.Nodup, List.pairwise_map]
  refine h.imp fun {a b} hlt heq => ?_
  rw [heq] at hlt
  exact String.lt_irrefl _ hlt

theorem Ascending.nodup {entries : List Permission} (h : Ascending entries) : entries.Nodup :=
  h.nodup_keys.of_map

namespace PermissionSet

theorem get?_eq_some {s : PermissionSet} {key : String} {value : Bool} :
    s.get? key = some value ↔ (key, value) ∈ s.entries :=
  lookup_eq_some_iff s.ascending.nodup_keys

/-- Sets with the same values are equal. -/
theorem ext_get? {s t : PermissionSet} (h : ∀ key, s.get? key = t.get? key) : s = t := by
  ext1
  have hmem : ∀ e : Permission, e ∈ s.entries ↔ e ∈ t.entries := by
    rintro ⟨key, value⟩
    rw [← get?_eq_some, ← get?_eq_some, h]
  have hperm : s.entries.Perm t.entries :=
    (List.perm_ext_iff_of_nodup s.ascending.nodup t.ascending.nodup).2 hmem
  refine List.Perm.eq_of_pairwise (fun a b _ _ hab hba => ?_) s.ascending t.ascending hperm
  exact absurd (String.lt_trans hab hba) (String.lt_irrefl _)

/-- Each key has the value given last. -/
theorem get?_insertMany (s : PermissionSet) (entries : List Permission) (key : String) :
    (s.insertMany entries).get? key = (lastRecord entries key).or (s.get? key) := by
  induction entries using List.reverseRecOn with
  | nil => simp [insertMany, lastRecord]
  | append_singleton entries e ih =>
    have hlast : s.insertMany (entries ++ [e]) = (s.insertMany entries).insert e.1 e.2 := by
      simp [insertMany]
    rw [hlast, get?_insert, ih, lastRecord_concat]
    split <;> rfl

/-- A listing has the entries of the set, in an order of its own. -/
theorem listed_perm (s : PermissionSet) : s.listed.Perm s.entries := by
  have hsort := List.mergeSort_perm (s.entries.map fun e => (Text.lowercase e.1, e))
    fun a b => decide (a.1 ≤ b.1)
  have hback : (s.entries.map fun e => (Text.lowercase e.1, e)).map (·.2) = s.entries := by
    rw [List.map_map]
    exact List.map_id _
  exact (hsort.map (·.2)).trans (List.Perm.of_eq hback)

theorem nodup_keys_listed (s : PermissionSet) : (s.listed.map Prod.fst).Nodup :=
  ((s.listed_perm.map Prod.fst).nodup_iff).2 s.ascending.nodup_keys

/-- What a set lists inserts the set. -/
theorem insertMany_listed (s : PermissionSet) : (∅ : PermissionSet).insertMany s.listed = s := by
  refine ext_get? fun key => Option.ext fun value => ?_
  rw [get?_insertMany, get?_empty, Option.or_none, lastRecord_eq_some_iff s.nodup_keys_listed,
    s.listed_perm.mem_iff, get?_eq_some]

end PermissionSet

end PermScript
