/-
Loading a document that has groups alone: all of it or nothing.

All entries are read before the first is taken in, and taking in cannot
fail. So an error, wherever the wrong entry stands, leaves the roster as it
was, and a success changes the groups of the document and nothing else;
`Replaced` says what they become, and only one roster is as it says. In
either layout a text that is no document changes nothing, and no other text
is refused as one (`loadText_eq_malformed_iff`).
-/
import PermScript.Proofs.Aftermath
import PermScript.Proofs.History

namespace PermScript

open Config (Document LoadError)

/-! ## Groups that are replaced -/

/-- `r'` is `r` with the groups that the entries name replaced. -/
structure Replaced (entries : List (String × Settings)) (r r' : Roster) : Prop where
  players : r'.players = r.players
  warnings : r'.warnings = r.warnings
  /-- The names stand in the order in which they first came. -/
  names : r'.groups.names = (r.groups.names ++ entries.map Prod.fst).eraseDups
  /-- A group that no entry names is as it was. -/
  others : ∀ name ∉ entries.map Prod.fst, r'.groups.get? name = r.groups.get? name
  /-- A group that an entry names has the settings of its last entry. -/
  settings : ∀ name ∈ entries.map Prod.fst,
    (r'.groups.get? name).map Group.settings = lastRecord entries name
  /-- It has no members, whatever the group it replaces had. -/
  members : ∀ name ∈ entries.map Prod.fst, (r'.groups.get? name).map Group.members = some []

namespace Replaced

variable {entries : List (String × Settings)} {r r' r'' : Roster}

theorem define (entries : List (String × Settings)) (r : Roster) :
    Replaced entries r (r.define entries) where
  players := rfl
  warnings := rfl
  names := names_define r entries
  others name hname := by
    rw [get?_define, lastRecord_eq_none.2 hname]
    rfl
  settings name hname := by
    obtain ⟨s, hs⟩ := exists_lastRecord hname
    rw [get?_define, hs]
    rfl
  members name hname := by
    obtain ⟨s, hs⟩ := exists_lastRecord hname
    rw [get?_define, hs]
    rfl

/-- The entries and the roster determine what comes of them. -/
theorem unique (h : Replaced entries r r') (h' : Replaced entries r r'') : r' = r'' := by
  have hgroups : r'.groups = r''.groups := by
    refine Table.ext_get? (h.names.trans h'.names.symm) fun name => ?_
    by_cases hname : name ∈ entries.map Prod.fst
    · exact eq_of_settings_of_members ((h.settings name hname).trans (h'.settings name hname).symm)
        ((h.members name hname).trans (h'.members name hname).symm)
    · exact (h.others name hname).trans (h'.others name hname).symm
  have hplayers : r'.players = r''.players := h.players.trans h'.players.symm
  have hwarnings : r'.warnings = r''.warnings := h.warnings.trans h'.warnings.symm
  obtain ⟨groups, players, warnings⟩ := r'
  cases hgroups
  cases hplayers
  cases hwarnings
  rfl

theorem iff_eq_define : Replaced entries r r' ↔ r' = r.define entries := by
  constructor
  · intro h
    exact h.unique (define entries r)
  · rintro rfl
    exact define entries r

end Replaced

/-! ## Results of documents -/

/-- The result is not the error of a text that is no document. -/
def NotMalformed {α : Type} (x : Except LoadError α) : Prop :=
  ∀ label, x ≠ .error (.malformed label)

namespace NotMalformed

variable {α β : Type}

theorem ok (a : α) : NotMalformed (.ok a) := by
  intro label h
  cases h

theorem bind {x : Except LoadError α} {f : α → Except LoadError β} (hx : NotMalformed x)
    (hf : ∀ a, NotMalformed (f a)) : NotMalformed (x >>= f) := by
  cases x with
  | error e => exact fun label h => hx label (by cases h; rfl)
  | ok a => exact hf a

theorem map {x : Except LoadError α} (hx : NotMalformed x) (f : α → β) :
    NotMalformed (x.map f) := by
  intro label h
  exact hx label (map_eq_error.1 h)

theorem mapM {f : α → Except LoadError β} (hf : ∀ a, NotMalformed (f a)) (as : List α) :
    NotMalformed (as.mapM f) := by
  induction as with
  | nil => exact ok []
  | cons a as ih =>
    rw [List.mapM_cons]
    exact (hf a).bind fun b => ih.bind fun bs => ok (b :: bs)

end NotMalformed

namespace Config

theorem notMalformed_readEntries {β : Type} (label heading : String)
    (read : Yaml.Value → Except ShapeError β) (default : β)
    (entries : List (Yaml.Value × Yaml.Value)) :
    NotMalformed (readEntries label heading read default entries) := by
  rw [readEntries_eq_mapM]
  refine .mapM (fun entry l h => ?_) entries
  rw [readEntry] at h
  split at h
  · cases h
  · split at h
    · cases h
    · split at h <;> cases h

theorem Pex.notMalformed_permissionSet (label : String) (b : EntityBody) :
    NotMalformed (b.permissionSet label) := by
  have hworlds := notMalformed_readEntries label "worlds" readWorld {} (b.worlds.getD [])
  exact NotMalformed.map (NotMalformed.map hworlds _) _

theorem Pex.notMalformed_declaration (label : String) (doc : Yaml.Value) :
    NotMalformed (declaration label doc) := by
  have hgroups : NotMalformed (declaredGroups label doc) := by
    refine NotMalformed.bind (notMalformed_readEntries label "groups" readGroup {} _) fun es => ?_
    exact NotMalformed.mapM (fun e => NotMalformed.map (notMalformed_permissionSet label e.2) _) es
  have husers : NotMalformed (declaredUsers label doc) := by
    refine NotMalformed.bind (notMalformed_readEntries label "users" readUser {} _) fun es => ?_
    exact NotMalformed.mapM (fun e => NotMalformed.map (notMalformed_permissionSet label e.2) _) es
  rw [declaration_eq_bind]
  exact hgroups.bind fun groups => husers.bind fun users => .ok _

theorem Document.notMalformed_declaration (d : Document) : NotMalformed d.declaration := by
  obtain ⟨dialect, label, value⟩ := d
  cases dialect with
  | pex => exact Pex.notMalformed_declaration label value
  | bperms =>
    exact NotMalformed.map (notMalformed_readEntries label "groups" BPerms.readGroup {} _) _

/-- A text is refused as no document exactly if it is none, and then the
roster stays as it was. -/
theorem loadText_eq_malformed_iff {dialect : Dialect} {label text : String} {r r' : Roster} :
    loadText dialect label text r = (.error (.malformed label), r') ↔
      Yaml.parse text = none ∧ r' = r := by
  rw [loadText]
  cases Yaml.parse text with
  | none => simp [eq_comm]
  | some value =>
    have hread : NotMalformed (loadValue dialect label value r).1 := by
      have hfst := Document.load_fst ⟨dialect, label, value⟩ r
      rw [Document.load] at hfst
      rw [hfst]
      exact (Document.notMalformed_declaration _).map _
    constructor
    · intro h
      exact absurd (congrArg Prod.fst h) (hread label)
    · rintro ⟨h, -⟩
      cases h

/-! ## Loads -/

namespace BPerms

variable {label : String} {doc : Yaml.Value} {r r' : Roster}

/-- A load fails exactly on a wrong entry, and then changes nothing. -/
theorem exists_load_error_iff :
    (∃ e, load label doc r = (.error e, r')) ↔
      (∃ entry ∈ (section? doc "groups").getD [], WrongEntry readGroup entry) ∧ r' = r := by
  have hwrong : (∃ e, readEntries label "groups" readGroup {} ((section? doc "groups").getD []) =
      .error e) ↔ ∃ entry ∈ (section? doc "groups").getD [], WrongEntry readGroup entry :=
    exists_readEntries_error
  rw [← hwrong, load]
  cases section? doc "groups" with
  | none => simp [readEntries]
  | some mapping =>
    simp only [Option.getD_some]
    cases readEntries label "groups" readGroup {} mapping <;> simp [eq_comm]

theorem take_of_declaration {d : Declaration} (h : declaration label doc = .ok d) :
    r.take d = r.define d.groups := by
  have husers : d.users = [] := List.map_eq_nil_iff.1 (userNames_of_declaration h)
  rw [Roster.take, husers]
  rfl

/-- A load that succeeds replaces the groups that the document names. -/
theorem load_eq_ok_iff_replaced :
    load label doc r = (.ok (), r') ↔ ∃ d, declaration label doc = .ok d ∧
      d.groupNames = sectionNames doc "groups" ∧ Replaced d.groups r r' := by
  rw [load_eq_ok_iff]
  constructor
  · rintro ⟨d, hd, rfl⟩
    exact ⟨d, hd, groupNames_of_declaration hd, Replaced.iff_eq_define.2 (take_of_declaration hd)⟩
  · rintro ⟨d, hd, -, h⟩
    exact ⟨d, hd, (Replaced.iff_eq_define.1 h).trans (take_of_declaration hd).symm⟩

/-- A load fails exactly on a wrong entry of the groups, wherever it stands,
and leaves the roster as it was. Else it replaces the groups that the
document names, by their last entries and without members, and changes
nothing else. A text that is no document changes nothing in either layout. -/
theorem load_atomic :
    ((∃ e, load label doc r = (.error e, r')) ↔
        (∃ entry ∈ (section? doc "groups").getD [], WrongEntry readGroup entry) ∧ r' = r) ∧
      (load label doc r = (.ok (), r') ↔ ∃ d, declaration label doc = .ok d ∧
        d.groupNames = sectionNames doc "groups" ∧ Replaced d.groups r r') ∧
      ∀ dialect text, loadText dialect label text r = (.error (.malformed label), r') ↔
        Yaml.parse text = none ∧ r' = r :=
  ⟨exists_load_error_iff, load_eq_ok_iff_replaced, fun _ _ => loadText_eq_malformed_iff⟩

end BPerms

end Config

end PermScript
