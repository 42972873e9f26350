/-
Results that agree, and what agrees when bodies are read.

Two results agree if both are errors or both are values that are related
(`Agree`). Reading goes through with it: fields that are the same up to
their order agree (`readFields_perm`), and so do the same fields on top of
bodies that are alike (`readFields_congr`), of which entries and sections
are made. The errors need not be the same: of two wrong fields the one that
stands first is reported.
-/
import Mathlib.Data.List.Forall2
import PermScript.Proofs.Aftermath

namespace PermScript

/-- Both results are errors, or both are values, and these are related. -/
inductive Agree {ε α β : Type} (R : α → β → Prop) : Except ε α → Except ε β → Prop
  | ok {a : α} {b : β} (h : R a b) : Agree R (.ok a) (.ok b)
  | error (e e' : ε) : Agree R (.error e) (.error e')

namespace Agree

variable {ε α β γ δ : Type} {R : α → β → Prop}

theorem refl {R : α → α → Prop} (hR : ∀ a, R a a) (x : Except ε α) : Agree R x x := by
  cases x with
  | error e => exact error e e
  | ok a => exact ok (hR a)

theorem symm {S : β → α → Prop} (hS : ∀ a b, R a b → S b a) {x : Except ε α} {y : Except ε β}
    (h : Agree R x y) : Agree S y x := by
  cases h with
  | error e e' => exact error e' e
  | ok h => exact ok (hS _ _ h)

theorem mono {S : α → β → Prop} (hRS : ∀ a b, R a b → S a b) {x : Except ε α} {y : Except ε β}
    (h : Agree R x y) : Agree S x y := by
  cases h with
  | error e e' => exact error e e'
  | ok h => exact ok (hRS _ _ h)

theorem bind {S : γ → δ → Prop} {x : Except ε α} {y : Except ε β} (h : Agree R x y)
    {f : α → Except ε γ} {g : β → Except ε δ} (hfg : ∀ a b, R a b → Agree S (f a) (g b)) :
    Agree S (x >>= f) (y >>= g) := by
  cases h with
  | error e e' => exact error e e'
  | ok h => exact hfg _ _ h

theorem map {S : γ → δ → Prop} {x : Except ε α} {y : Except ε β} (h : Agree R x y)
    {f : α → γ} {g : β → δ} (hfg : ∀ a b, R a b → S (f a) (g b)) :
    Agree S (x.map f) (y.map g) := by
  cases h with
  | error e e' => exact error e e'
  | ok h => exact ok (hfg _ _ h)

theorem mapM {S : γ → δ → Prop} {as : List α} {bs : List β} (h : List.Forall₂ R as bs)
    {f : α → Except ε γ} {g : β → Except ε δ} (hfg : ∀ a b, R a b → Agree S (f a) (g b)) :
    Agree (List.Forall₂ S) (as.mapM f) (bs.mapM g) := by
  induction h with
  | nil => exact ok .nil
  | cons hab _ ih =>
    rw [List.mapM_cons, List.mapM_cons]
    exact (hfg _ _ hab).bind fun c d hcd => ih.bind fun cs ds hcds => ok (.cons hcd hcds)

theorem mapM_eq {as : List α} {bs : List β} (h : List.Forall₂ R as bs) {f : α → Except ε γ}
    {g : β → Except ε γ} (hfg : ∀ a b, R a b → Agree Eq (f a) (g b)) :
    Agree Eq (as.mapM f) (bs.mapM g) :=
  (mapM h hfg).mono fun _ _ hcs => List.forall₂_eq_eq_eq ▸ hcs

/-- Agreement on equal values is in the values alone. -/
theorem eq_iff {x y : Except ε α} : Agree Eq x y ↔ ∀ a, x = .ok a ↔ y = .ok a := by
  constructor
  · intro h a
    cases h with
    | error e e' => simp
    | ok h => rw [h]
  · intro h
    cases x with
    | ok a =>
      rw [(h a).1 rfl]
      exact ok rfl
    | error e =>
      cases y with
      | ok b => exact nomatch (h b).2 rfl
      | error e' => exact error e e'

end Agree

theorem map_eq_map_of_forall₂ {α β γ : Type} {R : α → β → Prop} {f : α → γ} {g : β → γ}
    (hfg : ∀ a b, R a b → f a = g b) {as : List α} {bs : List β} (h : List.Forall₂ R as bs) :
    as.map f = bs.map g := by
  induction h with
  | nil => rfl
  | cons hab _ ih => rw [List.map_cons, List.map_cons, hfg _ _ hab, ih]

namespace Config

open Yaml (Value)

/-! ## Fields -/

section

variable {β : Type} {field : FieldReader β}

/-- Fields of different names can be taken in in either order. -/
def Commutes (field : FieldReader β) : Prop :=
  ∀ n m rn rm, n ≠ m → field n = some rn → field m = some rm →
    ∀ v w b, Agree Eq (rn v b >>= rm w) (rm w b >>= rn v)

/-- A field makes bodies that are alike into bodies that are alike. -/
def Respects (field : FieldReader β) (alike : β → β → Prop) : Prop :=
  ∀ name read, field name = some read → ∀ v b b', alike b b' → Agree alike (read v b) (read v b')

theorem respects_eq (field : FieldReader β) : Respects field Eq := by
  rintro name read - v b _ rfl
  exact .refl (fun _ => rfl) _

variable {entry : Value × Value} {rest : List (Value × Value)} {done : List String} {b c : β}

theorem readFields_cons_of_name {name : String} (h : entry.1.untag = .string name) :
    readFields field done b (entry :: rest) =
      match field name with
      | none => readFields field done b rest
      | some read =>
        if name ∈ done then .error (.duplicateField name)
        else read entry.2 b >>= fun b => readFields field (name :: done) b rest := by
  obtain ⟨key, value⟩ := entry
  have hkey : key.untag = .string name := h
  rw [readFields, hkey]
  cases hf : field name with
  | none => simp only [hf]
  | some read => simp only [hf, List.contains_eq_mem, decide_eq_true_eq]

/-- The first field of all cannot be there already. -/
theorem readFields_cons_of_field {key value : Value} {name : String}
    {read : Value → β → Except ShapeError β} (hkey : key.untag = .string name)
    (hf : field name = some read) :
    readFields field [] b ((key, value) :: rest) =
      read value b >>= fun b => readFields field [name] b rest := by
  rw [readFields_cons_of_name hkey, hf]
  rfl

theorem readFields_cons_of_not_name (field : FieldReader β) (done : List String) (b : β)
    (rest : List (Value × Value)) (h : ∀ name, entry.1.untag ≠ .string name) :
    ∃ e, readFields field done b (entry :: rest) = .error e := by
  obtain ⟨key, value⟩ := entry
  rw [readFields]
  split
  · rename_i name hname
    exact absurd hname (h name)
  · exact ⟨_, rfl⟩

theorem readFields_cons_eq_ok : readFields field done b (entry :: rest) = .ok c ↔
    ∃ name, entry.1.untag = .string name ∧
      (field name = none ∧ readFields field done b rest = .ok c ∨
        ∃ read b', field name = some read ∧ name ∉ done ∧ read entry.2 b = .ok b' ∧
          readFields field (name :: done) b' rest = .ok c) := by
  by_cases hname : ∃ name, entry.1.untag = .string name
  · obtain ⟨name, hname⟩ := hname
    rw [readFields_cons_of_name hname]
    cases hf : field name with
    | none => simp [hname, hf]
    | some read =>
      by_cases hd : name ∈ done
      · simp [hname, hf, hd]
      · simp [hname, hf, hd, bind_eq_ok]
  · obtain ⟨e, he⟩ := readFields_cons_of_not_name field done b rest (not_exists.1 hname)
    rw [he]
    simp [not_exists.1 hname]

/-- What was taken in before matters only by the names that still come. -/
theorem readFields_congr {alike : β → β → Prop} (hr : Respects field alike)
    {fields : List (Value × Value)} {done done' : List String} {b b' : β}
    (hdone : ∀ entry ∈ fields, ∀ name, entry.1.untag = .string name → (name ∈ done ↔ name ∈ done'))
    (hb : alike b b') :
    Agree alike (readFields field done b fields) (readFields field done' b' fields) := by
  induction fields generalizing done done' b b' with
  | nil => exact .ok hb
  | cons entry rest ih =>
    have hrest : ∀ e ∈ rest, ∀ name, e.1.untag = .string name → (name ∈ done ↔ name ∈ done') :=
      fun e he => hdone e (List.mem_cons_of_mem _ he)
    by_cases hname : ∃ name, entry.1.untag = .string name
    · obtain ⟨name, hname⟩ := hname
      rw [readFields_cons_of_name hname, readFields_cons_of_name hname]
      cases hf : field name with
      | none => exact ih hrest hb
      | some read =>
        have hiff := hdone entry List.mem_cons_self name hname
        by_cases hd : name ∈ done
        · simp only [if_pos hd, if_pos (hiff.1 hd)]
          exact .error _ _
        · simp only [if_neg hd, if_neg (mt hiff.2 hd)]
          refine (hr name read hf entry.2 b b' hb).bind fun c c' hc => ih (fun e he n hn => ?_) hc
          rw [List.mem_cons, List.mem_cons, hrest e he n hn]
    · obtain ⟨e, he⟩ := readFields_cons_of_not_name field done b rest (not_exists.1 hname)
      obtain ⟨e', he'⟩ := readFields_cons_of_not_name field done' b' rest (not_exists.1 hname)
      rw [he, he']
      exact .error e e'

/-- The order in which names were taken in does not matter. -/
theorem readFields_swap_done {n m : String} {fields : List (Value × Value)}
    (h : readFields field (m :: n :: done) b fields = .ok c) :
    readFields field (n :: m :: done) b fields = .ok c := by
  have hagree : Agree Eq (readFields field (m :: n :: done) b fields)
      (readFields field (n :: m :: done) b fields) :=
    readFields_congr (respects_eq field) (fun _ _ name _ => by simp [or_left_comm]) rfl
  exact (Agree.eq_iff.1 hagree c).1 h

theorem readFields_swap (hc : Commutes field) {x y : Value × Value}
    (h : readFields field done b (x :: y :: rest) = .ok c) :
    readFields field done b (y :: x :: rest) = .ok c := by
  obtain ⟨n, hn, ⟨hfn, h⟩ | ⟨rn, c₁, hfn, hdn, hrn, h⟩⟩ := readFields_cons_eq_ok.1 h
  · obtain ⟨m, hm, ⟨hfm, h⟩ | ⟨rm, c₂, hfm, hdm, hrm, h⟩⟩ := readFields_cons_eq_ok.1 h
    · have hx := readFields_cons_eq_ok.2 ⟨n, hn, .inl ⟨hfn, h⟩⟩
      exact readFields_cons_eq_ok.2 ⟨m, hm, .inl ⟨hfm, hx⟩⟩
    · have hx := readFields_cons_eq_ok.2 ⟨n, hn, .inl ⟨hfn, h⟩⟩
      exact readFields_cons_eq_ok.2 ⟨m, hm, .inr ⟨rm, c₂, hfm, hdm, hrm, hx⟩⟩
  · obtain ⟨m, hm, ⟨hfm, h⟩ | ⟨rm, c₂, hfm, hdm, hrm, h⟩⟩ := readFields_cons_eq_ok.1 h
    · have hx := readFields_cons_eq_ok.2 ⟨n, hn, .inr ⟨rn, c₁, hfn, hdn, hrn, h⟩⟩
      exact readFields_cons_eq_ok.2 ⟨m, hm, .inl ⟨hfm, hx⟩⟩
    · -- Two known fields: the second is not the first again, so they commute.
      rw [List.mem_cons, not_or] at hdm
      obtain ⟨hne, hdm⟩ := hdm
      have hswap : (rm y.2 b >>= rn x.2) = .ok c₂ :=
        (Agree.eq_iff.1 (hc n m rn rm (Ne.symm hne) hfn hfm x.2 y.2 b) c₂).1
          (bind_eq_ok.2 ⟨c₁, hrn, hrm⟩)
      obtain ⟨c', hrm', hrn'⟩ := bind_eq_ok.1 hswap
      have hdn' : n ∉ m :: done := by
        rw [List.mem_cons, not_or]
        exact ⟨Ne.symm hne, hdn⟩
      have hx := readFields_cons_eq_ok.2
        ⟨n, hn, .inr ⟨rn, c₂, hfn, hdn', hrn', readFields_swap_done h⟩⟩
      exact readFields_cons_eq_ok.2 ⟨m, hm, .inr ⟨rm, c', hfm, hdm, hrm', hx⟩⟩

theorem readFields_eq_ok_of_perm (hc : Commutes field) {fields fields' : List (Value × Value)}
    (hp : fields.Perm fields') (h : readFields field done b fields = .ok c) :
    readFields field done b fields' = .ok c := by
  induction hp generalizing done b with
  | nil => exact h
  | cons x _ ih =>
    obtain ⟨n, hn, ⟨hf, h⟩ | ⟨read, b', hf, hd, hr, h⟩⟩ := readFields_cons_eq_ok.1 h
    · exact readFields_cons_eq_ok.2 ⟨n, hn, .inl ⟨hf, ih h⟩⟩
    · exact readFields_cons_eq_ok.2 ⟨n, hn, .inr ⟨read, b', hf, hd, hr, ih h⟩⟩
  | swap x y rest => exact readFields_swap hc h
  | trans _ _ ih₁ ih₂ => exact ih₂ (ih₁ h)

/-- The fields of a body can come in any order. -/
theorem readFields_perm (hc : Commutes field) {fields fields' : List (Value × Value)}
    (hp : fields.Perm fields') (done : List String) (b : β) :
    Agree Eq (readFields field done b fields) (readFields field done b fields') :=
  Agree.eq_iff.2 fun _ => ⟨readFields_eq_ok_of_perm hc hp, readFields_eq_ok_of_perm hc hp.symm⟩

end

end Config

end PermScript
