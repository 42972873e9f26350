/-
Tables of groups that grow.

A new group, or one more declared parent, can move groups of the table to
another placement, which may lie on a circle, so that the first walk no
longer comes to them. `order_subset_of_enlargement`: the order loses no
group all the same. The proof does not follow the walks; it only asks which
sets of groups are closed under declared parents.
-/
import PermScript.Proofs.Steps

namespace PermScript

/-- One step by which a table of groups grows. -/
inductive Enlargement : Table Group → Table Group → Prop
  /-- A group comes in under a new name. -/
  | define {t : Table Group} (name : String) (g : Group) (fresh : name ∉ t.names) :
      Enlargement t (t.insert name g)
  /-- A group that declares a parent declares further ones, before, between
  and after those it had. -/
  | inherit {t : Table Group} (name : String) (g : Group) (parents : List String)
      (defined : t.get? name = some g) (declares : g.parents ≠ [])
      (further : g.parents.Sublist parents) : Enlargement t (t.insert name { g with parents })

/-- All groups of a table are in another one. There they have the parents
they had and possibly more, but none if they had none. -/
def Retains (t t' : Table Group) : Prop :=
  ∀ name g, t.get? name = some g → ∃ g', t'.get? name = some g' ∧
    g.parents ⊆ g'.parents ∧ (g.parents = [] → g'.parents = [])

theorem Enlargement.retains {t t' : Table Group} (h : Enlargement t t') : Retains t t' := by
  intro n f hf
  cases h with
  | define name g fresh =>
    have hne : n ≠ name := fun he => fresh (he ▸ Table.mem_names_of_get? hf)
    exact ⟨f, by rw [Table.get?_insert, if_neg hne, hf], List.Subset.refl _, id⟩
  | inherit name g parents defined declares further =>
    by_cases hn : n = name
    · subst hn
      obtain rfl : g = f := Option.some.inj (defined.symm.trans hf)
      refine ⟨{ g with parents }, by rw [Table.get?_insert, if_pos rfl], further.subset, ?_⟩
      exact fun hnil => absurd hnil declares
    · exact ⟨f, by rw [Table.get?_insert, if_neg hn, hf], List.Subset.refl _, id⟩

/-- What is closed for a table is closed, within the groups that it has, for
every table it retains. -/
theorem Retains.parentClosed {t t' : Table Group} (h : Retains t t') {s : Set String}
    (hs : ParentClosed t' s) : ParentClosed t {name | name ∈ s ∧ name ∈ t.names} where
  defined _ hn := hn.2
  root name g hg hroot := by
    obtain ⟨g', hg', -, hnil⟩ := h name g hg
    exact ⟨hs.root name g' hg' (hnil hroot), Table.mem_names_of_get? hg⟩
  child name g hg parent hparent hmem := by
    obtain ⟨g', hg', hsub, -⟩ := h name g hg
    exact ⟨hs.child name g' hg' parent (hsub hparent) hmem.1, Table.mem_names_of_get? hg⟩

/-- A table that grows loses no group of its order. -/
theorem order_subset_of_enlargement {t t' : Table Group} (h : Enlargement t t') :
    (resolve t).order ⊆ (resolve t').order := by
  intro name hname
  have hclosed := h.retains.parentClosed (parentClosed_seen t')
  exact mem_order.2 (hclosed.mem_of_contains (mem_order.1 hname)).1

/-! ## A group that is moved onto a circle -/

/-- `Trial` is placed under `Member`, since `Ghost` is not defined. -/
def haunted : Table Group :=
  .ofList [("Member", {}), ("Trial", { parents := ["Ghost", "Member"] })]

/-- Once `Ghost` is defined, `Trial` is placed under it, and it under `Trial`. -/
def ghost : Group := { parents := ["Trial"] }

theorem toList_haunted :
    haunted.toList = [("Member", {}), ("Trial", { parents := ["Ghost", "Member"] })] :=
  Table.toList_ofList (by decide)

theorem placements_haunted : placements haunted = [("Member", "Trial")] := by
  simp [placements, placement_eq_find?, Table.names, toList_haunted, List.filterMap_cons]

theorem order_haunted : (resolve haunted).order = ["Member", "Trial"] := by
  have hroots : roots haunted = ["Member"] := by simp [roots, toList_haunted]
  exact order_eq_of_steps toList_haunted hroots placements_haunted 2 (by decide +kernel)
    (by decide +kernel)

/-- The new group and `Trial` are placed under each other, and `Trial` stays
in the order. -/
theorem haunted_keeps_trial :
    Enlargement haunted (haunted.insert "Ghost" ghost) ∧
      placements (haunted.insert "Ghost" ghost) = [("Ghost", "Trial"), ("Trial", "Ghost")] ∧
      "Trial" ∈ (resolve haunted).order ∧
      "Trial" ∈ (resolve (haunted.insert "Ghost" ghost)).order := by
  have hfresh : "Ghost" ∉ haunted.names := by
    rw [Table.names, toList_haunted]
    decide
  have htrial : "Trial" ∈ (resolve haunted).order := by
    rw [order_haunted]
    decide
  have hgrows : Enlargement haunted (haunted.insert "Ghost" ghost) := .define "Ghost" ghost hfresh
  refine ⟨hgrows, ?_, htrial, order_subset_of_enlargement hgrows htrial⟩
  simp [placements, placement_eq_find?, Table.names, Table.toList_insert_of_not_mem hfresh,
    toList_haunted, ghost, List.filterMap_cons]

end PermScript
