/-
The order in which a permission set is listed.

The entries of a set stand in the order of their keys and are sorted by the
keys in lower case. That sort leaves keys with the same lower case as they
stood (`pairwise_mergeSort_stable`), so a listing goes by the key in lower
case and then by the key itself: it is the sorted list of the keys
(`map_fst_listed`), and so are its reserved keys among themselves.
-/
import Mathlib.Data.Finset.Sort
import Mathlib.Data.Prod.Lex
import Mathlib.Data.String.Basic
import PermScript.Proofs.Scopes
import PermScript.Script

namespace PermScript

/-! ## Stable sorting -/

/-- A sorted list is in order, and what is level stands as it did before. -/
theorem pairwise_mergeSort_stable {α : Type} {le : α → α → Bool} {R : α → α → Prop}
    (trans : ∀ a b c, le a b = true → le b c = true → le a c = true)
    (total : ∀ a b, (le a b || le b a) = true) {l : List α} (h : l.Pairwise R) :
    (l.mergeSort le).Pairwise fun a b => le a b = true ∧ (le b a = true → R a b) := by
  induction l with
  | nil => simp
  | cons a l ih =>
    obtain ⟨ha, hl⟩ := List.pairwise_cons.1 h
    obtain ⟨before, after, hsort, hrest, hbefore⟩ := List.mergeSort_cons trans total a l
    have hordered := List.pairwise_mergeSort trans total (a :: l)
    have hmem : ∀ b ∈ after, b ∈ l := by
      intro b hb
      have hsorted : b ∈ l.mergeSort le := hrest ▸ List.mem_append_right before hb
      exact List.mem_mergeSort.1 hsorted
    have hparts := ih hl
    rw [hsort] at hordered ⊢
    rw [hrest] at hparts
    obtain ⟨hfront, hback, hcross⟩ := List.pairwise_append.1 hparts
    obtain ⟨-, hordered, hover⟩ := List.pairwise_append.1 hordered
    refine List.pairwise_append.2 ⟨hfront, List.pairwise_cons.2 ⟨fun b hb => ?_, hback⟩, ?_⟩
    · exact ⟨(List.pairwise_cons.1 hordered).1 b hb, fun _ => ha b (hmem b hb)⟩
    · intro b hb c hc
      rcases List.mem_cons.1 hc with rfl | hc
      · -- What comes before `a` now is strictly smaller.
        have hlt : le c b = false := by simpa using hbefore b hb
        exact ⟨hover b hb c List.mem_cons_self, fun hle => absurd hle (by simp [hlt])⟩
      · exact hcross b hb c hc

/-! ## The order of a listing -/

/-- What decides about the place of a key: its lower case, and then the key. -/
def listingRank (key : String) : String ×ₗ String := toLex (Text.lowercase key, key)

/-- The order of keys in a listing. -/
def ListedBefore (a b : String) : Prop := listingRank a ≤ listingRank b

instance : DecidableRel ListedBefore := fun a b =>
  inferInstanceAs (Decidable (listingRank a ≤ listingRank b))

instance : IsTrans String ListedBefore := ⟨fun _ _ _ => le_trans⟩

instance : Std.Antisymm ListedBefore :=
  ⟨fun _ _ hab hba => congrArg (fun rank => (ofLex rank).2) (le_antisymm hab hba)⟩

instance : Std.Total ListedBefore := ⟨fun a b => le_total (listingRank a) (listingRank b)⟩

namespace PermissionSet

variable (s : PermissionSet)

theorem pairwise_listed : (s.listed.map Prod.fst).Pairwise ListedBefore := by
  have hentries : (s.entries.map fun e => (Text.lowercase e.1, e)).Pairwise
      fun a b => a.2.1 < b.2.1 := List.pairwise_map.2 s.ascending
  have hsorted := @pairwise_mergeSort_stable _ (fun a b => decide (a.1 ≤ b.1)) _
    (by simpa using fun a b c => le_trans) (by simp [le_total]) _ hentries
  rw [listed, List.map_map, List.pairwise_map]
  refine hsorted.imp_of_mem fun ha hb hab => ?_
  rw [List.mem_mergeSort, List.mem_map] at ha hb
  obtain ⟨e, -, rfl⟩ := ha
  obtain ⟨f, -, rfl⟩ := hb
  simp only [decide_eq_true_eq] at hab
  obtain ⟨hle, htie⟩ := hab
  rw [ListedBefore, listingRank, listingRank, Prod.Lex.toLex_le_toLex]
  rcases hle.lt_or_eq with hlt | heq
  · exact .inl hlt
  · exact .inr ⟨heq, (htie heq.ge).le⟩

/-- A listing has the keys of the set, sorted. -/
theorem map_fst_listed : s.listed.map Prod.fst = s.keys.sort ListedBefore := by
  have hperm : (s.listed.map Prod.fst).Perm (s.entries.map Prod.fst) := s.listed_perm.map Prod.fst
  rw [keys, ← List.toFinset_eq_of_perm _ _ hperm]
  exact ((List.toFinset_sort ListedBefore s.nodup_keys_listed).2 s.pairwise_listed).symm

end PermissionSet

end PermScript
