/-
Reading the entries of a section: all of them or the first fault.

An entry has a name and a body, and each of the two can be wrong; the key is
looked at before the body (`Fault`). Entries are read in the order of the
document up to the first that is wrong, and nothing is kept of those before
it. `readEntries_all_or_first_fault`: the entries are read exactly if none is
wrong, and then each becomes its name and its body, in its place and whatever
names the others have; else the error is the fault of the first wrong one.
-/
import Mathlib.Data.List.Forall2
import PermScript.Proofs.Aftermath

namespace PermScript

/-! ## Results of a list -/

/-- A list of results succeeds with what its items give. -/
theorem mapM_eq_ok_iff_forall₂ {ε α β : Type} {f : α → Except ε β} {as : List α} {bs : List β} :
    as.mapM f = .ok bs ↔ List.Forall₂ (fun a b => f a = .ok b) as bs := by
  induction as generalizing bs with
  | nil => simp [pure, Except.pure, eq_comm]
  | cons a as ih =>
    rw [mapM_cons_eq_ok]
    constructor
    · rintro ⟨b, bs', hb, hbs', rfl⟩
      exact .cons hb (ih.1 hbs')
    · rintro (_ | ⟨hb, hbs'⟩)
      exact ⟨_, _, hb, ih.2 hbs', rfl⟩

theorem exists_mapM_ok_iff {ε α β : Type} {f : α → Except ε β} {as : List α} :
    (∃ bs, as.mapM f = .ok bs) ↔ ∀ a ∈ as, ∃ b, f a = .ok b := by
  induction as with
  | nil => simp [pure, Except.pure]
  | cons a as ih =>
    simp only [mapM_cons_eq_ok, List.forall_mem_cons, ← ih]
    constructor
    · rintro ⟨_, b, bs, hb, hbs, -⟩
      exact ⟨⟨b, hb⟩, bs, hbs⟩
    · rintro ⟨⟨b, hb⟩, bs, hbs⟩
      exact ⟨b :: bs, b, bs, hb, hbs, rfl⟩

theorem mapM_cons_eq_error {ε α β : Type} {f : α → Except ε β} {a : α} {as : List α} {e : ε} :
    (a :: as).mapM f = .error e ↔
      f a = .error e ∨ (∃ b, f a = .ok b) ∧ as.mapM f = .error e := by
  rw [List.mapM_cons]
  cases f a with
  | error e' => simp [bind, Except.bind]
  | ok b => cases as.mapM f <;> simp [bind, Except.bind, pure, Except.pure]

/-- It fails as the first of its items does that fails. -/
theorem mapM_eq_error_iff {ε α β : Type} {f : α → Except ε β} {as : List α} {e : ε} :
    as.mapM f = .error e ↔ ∃ before a after, as = before ++ a :: after ∧
      (∀ b ∈ before, ∃ c, f b = .ok c) ∧ f a = .error e := by
  induction as with
  | nil => simp [pure, Except.pure]
  | cons a as ih =>
    rw [mapM_cons_eq_error, ih]
    constructor
    · rintro (ha | ⟨ha, before, b, after, rfl, hbefore, hb⟩)
      · exact ⟨[], a, as, rfl, List.forall_mem_nil _, ha⟩
      · exact ⟨a :: before, b, after, rfl, List.forall_mem_cons.2 ⟨ha, hbefore⟩, hb⟩
    · rintro ⟨before, b, after, has, hbefore, hb⟩
      cases before with
      | nil =>
        cases has
        exact .inl hb
      | cons c before =>
        cases has
        obtain ⟨ha, hbefore⟩ := List.forall_mem_cons.1 hbefore
        exact .inr ⟨ha, before, b, after, rfl, hbefore, hb⟩

namespace Config

open Yaml (Value)

/-! ## One entry -/

/-- The key is a string, a number or a truth value, and the name its text. -/
inductive NameOf : Value → String → Prop
  | string (s : String) : NameOf (.string s) s
  | number (n : Yaml.Numeral) : NameOf (.number n) n.text
  | yes : NameOf (.bool true) "true"
  | no : NameOf (.bool false) "false"

theorem keyName?_eq_some_iff {key : Value} {name : String} :
    keyName? key = some name ↔ NameOf key name := by
  constructor
  · intro h
    cases key with
    | string s =>
      cases h
      exact .string _
    | number n =>
      cases h
      exact .number _
    | bool b =>
      cases h
      cases b with
      | true => exact .yes
      | false => exact .no
    | null | sequence | mapping | tagged => cases h
  · intro h
    cases h <;> rfl

section

variable {β : Type} (read : Value → Except ShapeError β) (default : β)

/-- The value has a body: the default for null, else the one that is read. -/
inductive BodyOf : Value → β → Prop
  | null {v : Value} (hnull : v.isNull = true) : BodyOf v default
  | read {v : Value} {b : β} (hnull : v.isNull = false) (hread : read v = .ok b) : BodyOf v b

/-- The entry can be read: its key gives a name, and its value is null or the
body can be read from it. -/
structure Legible (entry : Value × Value) : Prop where
  named : ∃ name, NameOf entry.1 name
  body : entry.2.isNull = true ∨ ∃ b, read entry.2 = .ok b

/-- What is wrong with an entry of a section: a key that gives no name,
whatever the body, or else the body under a name. -/
inductive Fault (label heading : String) : Value × Value → LoadError → Prop
  | key {key value : Value} (hkey : ∀ name, ¬ NameOf key name) :
      Fault label heading (key, value) (.invalidKey label heading key)
  | body {key value : Value} {name : String} {cause : ShapeError} (hkey : NameOf key name)
      (hnull : value.isNull = false) (hread : read value = .error cause) :
      Fault label heading (key, value) (.invalidEntry label heading name cause)

end

section

variable {β : Type} {read : Value → Except ShapeError β} {default : β} {label heading : String}
  {entry : Value × Value}

theorem readEntry_eq_ok_iff {e : String × β} :
    readEntry label heading read default entry = .ok e ↔
      NameOf entry.1 e.1 ∧ BodyOf read default entry.2 e.2 := by
  obtain ⟨name, b⟩ := e
  rw [← keyName?_eq_some_iff, readEntry]
  constructor
  · intro h
    split at h
    · cases h
    · rename_i hkey
      split at h
      · rename_i hnull
        cases h
        exact ⟨hkey, .null hnull⟩
      · rename_i hnull
        split at h
        · rename_i hread
          cases h
          exact ⟨hkey, .read (by simpa using hnull) hread⟩
        · cases h
  · rintro ⟨hkey, hbody⟩
    simp only [hkey]
    cases hbody with
    | null hnull => rw [if_pos hnull]
    | read hnull hread => rw [hnull, if_neg Bool.false_ne_true, hread]

theorem readEntry_eq_error_iff {e : LoadError} :
    readEntry label heading read default entry = .error e ↔ Fault read label heading entry e := by
  obtain ⟨key, value⟩ := entry
  rw [readEntry]
  constructor
  · intro h
    split at h
    · rename_i hkey
      cases h
      refine .key fun name hname => ?_
      rw [keyName?_eq_some_iff.2 hname] at hkey
      cases hkey
    · rename_i name hkey
      split at h
      · cases h
      · rename_i hnull
        split at h
        · cases h
        · rename_i hread
          cases h
          exact .body (keyName?_eq_some_iff.1 hkey) (by simpa using hnull) hread
  · intro h
    cases h with
    | key hkey =>
      have hnone : keyName? key = none :=
        Option.eq_none_iff_forall_ne_some.2 fun name hname =>
          hkey name (keyName?_eq_some_iff.1 hname)
      simp only [hnone]
    | body hkey hnull hread =>
      simp only [keyName?_eq_some_iff.2 hkey, hnull, hread, Bool.false_eq_true, if_false]

theorem exists_readEntry_ok_iff :
    (∃ e, readEntry label heading read default entry = .ok e) ↔ Legible read entry := by
  simp only [readEntry_eq_ok_iff, Prod.exists]
  constructor
  · rintro ⟨name, b, hname, hbody⟩
    cases hbody with
    | null hnull => exact ⟨⟨name, hname⟩, .inl hnull⟩
    | read _ hread => exact ⟨⟨name, hname⟩, .inr ⟨b, hread⟩⟩
  · rintro ⟨⟨name, hname⟩, hbody⟩
    cases hnull : entry.2.isNull with
    | true => exact ⟨name, default, hname, .null hnull⟩
    | false =>
      rw [hnull] at hbody
      obtain ⟨b, hread⟩ := hbody.resolve_left Bool.false_ne_true
      exact ⟨name, b, hname, .read hnull hread⟩

end

/-! ## All entries -/

/-- The entries of a section are read exactly if all are legible. What is read
are their names and bodies, one for each entry in its order. Else the error
is the fault of the first entry that is not legible, and names the section
and the source. -/
theorem readEntries_all_or_first_fault {β : Type} (label heading : String)
    (read : Value → Except ShapeError β) (default : β) (entries : List (Value × Value)) :
    ((∃ es, readEntries label heading read default entries = .ok es) ↔
        ∀ entry ∈ entries, Legible read entry) ∧
      (∀ es, readEntries label heading read default entries = .ok es ↔
        List.Forall₂ (fun entry e => NameOf entry.1 e.1 ∧ BodyOf read default entry.2 e.2)
          entries es) ∧
      ∀ e, readEntries label heading read default entries = .error e ↔
        ∃ before entry after, entries = before ++ entry :: after ∧
          (∀ earlier ∈ before, Legible read earlier) ∧ Fault read label heading entry e := by
  rw [readEntries_eq_mapM]
  refine ⟨?_, fun es => ?_, fun e => ?_⟩
  · simp only [exists_mapM_ok_iff, exists_readEntry_ok_iff]
  · simp only [mapM_eq_ok_iff_forall₂, readEntry_eq_ok_iff]
  · simp only [mapM_eq_error_iff, exists_readEntry_ok_iff, readEntry_eq_error_iff]

/-- Two keys may come to the same name; each entry keeps its place. -/
example : readEntries "doc.yml" "worlds" Pex.readWorld {}
    [(.number (.integer 7), .null),
      (.string "7", .mapping [(.string "permissions", .string "fly")])] =
      .ok [("7", {}), ("7", { permissions := some ["fly"] })] := by rfl

/-- Of an entry with a wrong key and a wrong body the key is reported, and of
two wrong entries the first. -/
example : readEntries "doc.yml" "worlds" Pex.readWorld {}
    [(.bool true, .null), (.null, .bool false), (.string "nether", .bool false)] =
      .error (.invalidKey "doc.yml" "worlds" .null) := by rfl

end Config

end PermScript
