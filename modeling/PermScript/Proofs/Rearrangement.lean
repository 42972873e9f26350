/-
What the order of a table decides, and what it does not.

Two tables that hold the same groups under the same names have the same
groups in their orders and give the same warnings (`Rearranged.perm_order`,
`Rearranged.perm_warnings`): closed sets and placements are read off the
groups by name. The rooted groups come out in the same order as well, as
long as the groups without parents do (`Rearranged.level_eq`): from one
level to the next only the names decide. What adoption adds follows the
order of the table.
-/
import PermScript.Proofs.Levels

namespace PermScript

/-- The tables hold the same groups under the same names, in whatever order
these came. -/
def Rearranged (t t' : Table Group) : Prop := ∀ name, t.get? name = t'.get? name

/-- Groups under one parent stand in the order of their names. -/
theorem pairwise_placedUnder (t : Table Group) (parent : String) :
    (placedUnder t parent).Pairwise (· ≤ ·) := by
  have hle : (placedUnder t parent).Pairwise
      fun a b => decide (bytesOf a ≤ bytesOf b) = true := by
    refine List.pairwise_mergeSort (fun a b c => ?_) (fun a b => ?_) _
    · simpa only [decide_eq_true_iff, bytesOf_le_iff] using le_trans
    · simpa only [Bool.or_eq_true, decide_eq_true_iff, bytesOf_le_iff] using le_total a b
  exact hle.imp fun {a b} hab => bytesOf_le_iff.1 (of_decide_eq_true hab)

namespace Rearranged

variable {t t' : Table Group}

theorem symm (h : Rearranged t t') : Rearranged t' t := fun name => (h name).symm

theorem mem_names (h : Rearranged t t') (name : String) : name ∈ t.names ↔ name ∈ t'.names := by
  rw [Table.mem_names, Table.mem_names, h name]

theorem perm_toList (h : Rearranged t t') : t.toList.Perm t'.toList := by
  have hnodup : ∀ u : Table Group, u.toList.Nodup := fun u => u.nodup_names.of_map
  refine (List.perm_ext_iff_of_nodup (hnodup t) (hnodup t')).2 fun e => ?_
  rw [← Table.get?_eq_some, ← Table.get?_eq_some, h e.1]

theorem size_eq (h : Rearranged t t') : t.size = t'.size := by
  rw [← Table.length_names, ← Table.length_names]
  exact (h.perm_toList.map Prod.fst).length_eq

theorem of_perm (h : t.toList.Perm t'.toList) : Rearranged t t' := by
  intro name
  refine Option.ext fun g => ?_
  rw [Table.get?_eq_some, Table.get?_eq_some, h.mem_iff]

/-! ## The groups of the order -/

theorem parentClosed (h : Rearranged t t') {s : Set String} (hs : ParentClosed t' s) :
    ParentClosed t s where
  defined name hname := (h.mem_names name).2 (hs.defined name hname)
  root name g hg hr := hs.root name g (h name ▸ hg) hr
  child name g hg parent hp hparent := hs.child name g (h name ▸ hg) parent hp hparent

theorem mem_order_of_mem (h : Rearranged t t') {name : String} (hn : name ∈ (resolve t).order) :
    name ∈ (resolve t').order := by
  have hclosed : ParentClosed t {n | (fullWalk t').seen.contains n = true} :=
    h.parentClosed (parentClosed_seen t')
  exact mem_order.2 (hclosed.mem_of_contains (mem_order.1 hn))

theorem mem_order (h : Rearranged t t') (name : String) :
    name ∈ (resolve t).order ↔ name ∈ (resolve t').order :=
  ⟨h.mem_order_of_mem, h.symm.mem_order_of_mem⟩

theorem perm_order (h : Rearranged t t') : (resolve t).order.Perm (resolve t').order :=
  (List.perm_ext_iff_of_nodup (nodup_order t) (nodup_order t')).2 h.mem_order

/-! ## The warnings -/

theorem perm_multipleParents (h : Rearranged t t') :
    (multipleParents t).Perm (multipleParents t') := (h.perm_toList.filter _).map _

theorem perm_leftOut (h : Rearranged t t') : (leftOut t).Perm (leftOut t') := by
  have hsame : leftOut t = t.toList.filter fun e => e.1 ∉ (resolve t').order := by
    rw [leftOut]
    refine List.filter_congr fun e _ => ?_
    simp only [h.mem_order]
  rw [hsame]
  exact h.perm_toList.filter _

theorem perm_warnings (h : Rearranged t t') : (resolve t).warnings.Perm (resolve t').warnings := by
  rw [warnings_resolve, warnings_resolve]
  exact h.perm_multipleParents.append (h.perm_leftOut.map _)

/-! ## The rooted groups -/

theorem placement_eq (h : Rearranged t t') (g : Group) : placement t g = placement t' g := by
  rw [placement_eq_find?, placement_eq_find?]
  simp only [h.mem_names]

theorem rooted (h : Rearranged t t') {name : String} (hr : Rooted t name) : Rooted t' name := by
  induction hr with
  | root hg hr => exact .root (h _ ▸ hg) hr
  | placed hg hp _ ih => exact .placed (h _ ▸ hg) (h.placement_eq _ ▸ hp) ih

/-- Sorting leaves no trace of the order of the table. -/
theorem placedUnder_eq (h : Rearranged t t') (parent : String) :
    placedUnder t parent = placedUnder t' parent := by
  have hperm : (placedUnder t parent).Perm (placedUnder t' parent) := by
    refine (List.perm_ext_iff_of_nodup (nodup_placedUnder t parent) (nodup_placedUnder t' parent)).2
      fun name => ?_
    rw [mem_placedUnder, mem_placedUnder]
    simp only [h name, h.placement_eq]
  exact hperm.eq_of_pairwise (fun a b _ _ => le_antisymm) (pairwise_placedUnder t parent)
    (pairwise_placedUnder t' parent)

theorem level_eq (h : Rearranged t t') (hroots : roots t = roots t') (k : Nat) :
    level t k = level t' k := by
  induction k with
  | zero => rw [level_zero, level_zero, hroots]
  | succ k ih =>
    have hplaced : placedUnder t = placedUnder t' := funext h.placedUnder_eq
    rw [level, level, ih, hplaced]

theorem levels_eq (h : Rearranged t t') (hroots : roots t = roots t') (k : Nat) :
    levels t k = levels t' k := by
  have hlevel : level t = level t' := funext (h.level_eq hroots)
  rw [levels, levels, hlevel]

end Rearranged

/-! ## The order and the warnings of a rearranged table -/

/-- Tables with the same groups have the same groups in their orders, and
warn of the same. If the groups without parents stand in the same order in
both, so do all rooted groups, which are what the two orders begin with. -/
theorem resolve_of_rearranged {t t' : Table Group} (h : Rearranged t t') :
    (resolve t).order.Perm (resolve t').order ∧
      (resolve t).warnings.Perm (resolve t').warnings ∧
      (∀ name, Rooted t name ↔ Rooted t' name) ∧
      (roots t = roots t' → ∃ rooted adopted adopted',
        (resolve t).order = rooted ++ adopted ∧ (resolve t').order = rooted ++ adopted' ∧
          (∀ name, name ∈ rooted ↔ Rooted t name) ∧
          ∀ name ∈ adopted ++ adopted', ¬ Rooted t name) := by
  have hrooted : ∀ name, Rooted t name ↔ Rooted t' name := fun name => ⟨h.rooted, h.symm.rooted⟩
  refine ⟨h.perm_order, h.perm_warnings, hrooted, fun hroots => ?_⟩
  obtain ⟨adopted, horder, hadopted⟩ := order_eq_levels_append t
  obtain ⟨adopted', horder', hadopted'⟩ := order_eq_levels_append t'
  rw [← h.levels_eq hroots, ← h.size_eq] at horder'
  refine ⟨_, adopted, adopted', horder, horder', fun name => mem_levels_size, fun name hname => ?_⟩
  rcases List.mem_append.1 hname with hn | hn
  · exact hadopted name hn
  · intro hr
    exact hadopted' name hn ((hrooted name).1 hr)

/-! ## Twins -/

/-- A group that is placed under itself and also declares `Base`. -/
def twin (name : String) : Group := { parents := [name, "Base"] }

/-- Two such groups beside `Base`. -/
def twins (first second : String) : Table Group :=
  .ofList [("Base", {}), (first, twin first), (second, twin second)]

section

variable {first second : String} (h : first ≠ second) (hf : first ≠ "Base") (hs : second ≠ "Base")
include h hf hs

theorem toList_twins : (twins first second).toList =
    [("Base", {}), (first, twin first), (second, twin second)] :=
  Table.toList_ofList (by simp [h, hf.symm, hs.symm])

theorem roots_twins : roots (twins first second) = ["Base"] := by
  simp [roots, toList_twins h hf hs, twin]

/-- The twins are adopted in table order. -/
theorem order_twins : (resolve (twins first second)).order = ["Base", first, second] := by
  have hlist := toList_twins h hf hs
  have hplaced : placements (twins first second) = [(first, first), (second, second)] := by
    simp [placements, placement_eq_find?, Table.names, hlist, twin, List.filterMap_cons]
  refine order_eq_of_steps hlist (roots_twins h hf hs) hplaced 6 ?_ ?_
  · simp [orderStep, childrenOf, waiting, twin, h, h.symm, hf, hs]
  · simp [waiting]

theorem rearranged_twins : Rearranged (twins first second) (twins second first) := by
  apply Rearranged.of_perm
  rw [toList_twins h hf hs, toList_twins h.symm hs hf]
  exact (List.Perm.swap _ _ _).cons _

end

/-- Exchanging the twins exchanges what is adopted, and leaves what the
orders begin with. -/
theorem twins_exchanged :
    Rearranged (twins "North" "South") (twins "South" "North") ∧
      roots (twins "North" "South") = roots (twins "South" "North") ∧
      (resolve (twins "North" "South")).order = ["Base"] ++ ["North", "South"] ∧
      (resolve (twins "South" "North")).order = ["Base"] ++ ["South", "North"] ∧
      (resolve (twins "North" "South")).warnings.Perm (resolve (twins "South" "North")).warnings ∧
      ∃ rooted adopted adopted',
        (resolve (twins "North" "South")).order = rooted ++ adopted ∧
          (resolve (twins "South" "North")).order = rooted ++ adopted' ∧
          (∀ name, name ∈ rooted ↔ Rooted (twins "North" "South") name) ∧
          ∀ name ∈ adopted ++ adopted', ¬ Rooted (twins "North" "South") name := by
  have hne : "North" ≠ "South" := by decide
  have hnorth : "North" ≠ "Base" := by decide
  have hsouth : "South" ≠ "Base" := by decide
  have hsame := rearranged_twins hne hnorth hsouth
  have hroots : roots (twins "North" "South") = roots (twins "South" "North") := by
    rw [roots_twins hne hnorth hsouth, roots_twins hne.symm hsouth hnorth]
  obtain ⟨-, hwarnings, -, hinitial⟩ := resolve_of_rearranged hsame
  exact ⟨hsame, hroots, order_twins hne hnorth hsouth, order_twins hne.symm hsouth hnorth,
    hwarnings, hinitial hroots⟩

end PermScript
