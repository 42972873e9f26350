/-
What a document declares, whatever the roster it is loaded into.

Reading and taking in are interleaved when a document is loaded; where the
load succeeds they come apart. `Document.load_eq_ok_iff` says that a load
succeeds exactly if the document has a declaration, and that it then takes
the declaration in; `Document.load_fst` that whether it succeeds, and with
which error it fails, does not depend on the roster.
-/
import PermScript.Config.Dialect
import PermScript.Proofs.Table

namespace PermScript

open Config (LoadError)

/-! ## Results -/

theorem bind_eq_ok {ε α β : Type} {x : Except ε α} {f : α → Except ε β} {b : β} :
    (x >>= f) = .ok b ↔ ∃ a, x = .ok a ∧ f a = .ok b := by
  cases x <;> simp [bind, Except.bind]

theorem map_eq_ok {ε α β : Type} {x : Except ε α} {f : α → β} {b : β} :
    x.map f = .ok b ↔ ∃ a, x = .ok a ∧ f a = b := by
  cases x <;> simp [Except.map]

theorem mapM_cons_eq_ok {ε α β : Type} {f : α → Except ε β} {a : α} {as : List α} {bs : List β} :
    (a :: as).mapM f = .ok bs ↔ ∃ b bs', f a = .ok b ∧ as.mapM f = .ok bs' ∧ bs = b :: bs' := by
  rw [List.mapM_cons, bind_eq_ok]
  simp only [bind_eq_ok, pure, Except.pure, Except.ok.injEq]
  constructor
  · rintro ⟨b, hb, bs', hbs', rfl⟩
    exact ⟨b, bs', hb, hbs', rfl⟩
  · rintro ⟨b, bs', hb, hbs', rfl⟩
    exact ⟨b, hb, bs', hbs', rfl⟩

/-- What each result has of its argument, the results have of the arguments. -/
theorem map_eq_map_of_mapM {ε α β γ : Type} {f : α → Except ε β} {g : β → γ} {k : α → γ}
    (hf : ∀ a b, f a = .ok b → g b = k a) {as : List α} {bs : List β}
    (h : as.mapM f = .ok bs) : bs.map g = as.map k := by
  induction as generalizing bs with
  | nil =>
    cases h
    rfl
  | cons a as ih =>
    obtain ⟨b, bs', hb, hbs', rfl⟩ := mapM_cons_eq_ok.1 h
    rw [List.map_cons, List.map_cons, hf a b hb, ih hbs']

/-- What holds of each result holds of all. -/
theorem forall_mem_of_mapM {ε α β : Type} {f : α → Except ε β} {P : β → Prop}
    (hf : ∀ a b, f a = .ok b → P b) {as : List α} {bs : List β} (h : as.mapM f = .ok bs) :
    ∀ b ∈ bs, P b := by
  induction as generalizing bs with
  | nil =>
    cases h
    exact List.forall_mem_nil P
  | cons a as ih =>
    obtain ⟨b, bs', hb, hbs', rfl⟩ := mapM_cons_eq_ok.1 h
    exact List.forall_mem_cons.2 ⟨hf a b hb, ih hbs'⟩

/-- A function that takes items one after the other, each by what is read
from it, takes in what is read from all of them. -/
theorem run_eq_ok_iff {α β ε σ : Type} {run : List α → σ → Except ε Unit × σ}
    {read : α → Except ε β} {put : σ → β → σ} (hnil : ∀ s, run [] s = (.ok (), s))
    (hcons : ∀ a as s s', run (a :: as) s = (.ok (), s') ↔
      ∃ b, read a = .ok b ∧ run as (put s b) = (.ok (), s'))
    {as : List α} {s s' : σ} :
    run as s = (.ok (), s') ↔ ∃ bs, as.mapM read = .ok bs ∧ s' = bs.foldl put s := by
  induction as generalizing s with
  | nil => simp [hnil, pure, Except.pure, eq_comm]
  | cons a as ih =>
    simp only [hcons, mapM_cons_eq_ok, ih]
    constructor
    · rintro ⟨b, hb, bs, hbs, rfl⟩
      exact ⟨b :: bs, ⟨b, bs, hb, hbs, rfl⟩, rfl⟩
    · rintro ⟨_, ⟨b, bs, hb, hbs, rfl⟩, rfl⟩
      exact ⟨b, hb, bs, hbs, rfl⟩

/-- Such a function answers what reading the items answers, whatever it has
taken in. -/
theorem run_fst {α β ε σ : Type} {run : List α → σ → Except ε Unit × σ} {read : α → Except ε β}
    (put : σ → β → σ) (spoil : σ → α → σ) (hnil : ∀ s, run [] s = (.ok (), s))
    (hcons : ∀ a as s, run (a :: as) s =
      match read a with
      | .ok b => run as (put s b)
      | .error e => (.error e, spoil s a))
    (as : List α) (s : σ) : (run as s).1 = (as.mapM read).map fun _ => () := by
  induction as generalizing s with
  | nil =>
    rw [hnil]
    rfl
  | cons a as ih =>
    rw [hcons, List.mapM_cons]
    cases read a with
    | error e => rfl
    | ok b =>
      have hmap : (as.mapM read).map (fun _ => ()) =
          (as.mapM read >>= fun bs => pure (b :: bs)).map fun _ => () := by
        cases as.mapM read <;> rfl
      exact (ih (put s b)).trans hmap

/-! ## Declarations -/

/-- What an entry says of a group: all but the members. -/
structure Settings where
  permissions : PermissionSet
  parents : List String
  chatPrefix : Option String
  chatSuffix : Option String

/-- The settings of a group. -/
def Group.settings (g : Group) : Settings := ⟨g.permissions, g.parents, g.chatPrefix, g.chatSuffix⟩

/-- The group with these settings and no members. -/
def Settings.group (s : Settings) : Group where
  permissions := s.permissions
  parents := s.parents
  chatPrefix := s.chatPrefix
  chatSuffix := s.chatSuffix

/-- An entry for a user: the groups it names and the player. -/
structure UserEntry where
  name : String
  memberships : List String
  player : Player

/-- The entries of a document, in its order. -/
structure Declaration where
  groups : List (String × Settings) := []
  users : List UserEntry := []

/-- The names of the group entries. -/
def Declaration.groupNames (d : Declaration) : List String := d.groups.map Prod.fst

/-- The names of the user entries. -/
def Declaration.userNames (d : Declaration) : List String := d.users.map UserEntry.name

/-- Takes in a user: first the memberships, then the player. -/
def Roster.enrol (r : Roster) (u : UserEntry) : Roster where
  groups := (link u.name u.memberships r.groups).1
  players := r.players.insert u.name u.player
  warnings := r.warnings ++ (link u.name u.memberships r.groups).2

/-- Takes in one group. -/
def Roster.settle (r : Roster) (e : String × Settings) : Roster :=
  { r with groups := r.groups.insert e.1 e.2.group }

/-- Takes in the groups of a declaration. -/
def Roster.define (r : Roster) (entries : List (String × Settings)) : Roster :=
  { r with groups := r.groups.insertAll (entries.map fun e => (e.1, e.2.group)) }

theorem Roster.define_eq_foldl (r : Roster) (entries : List (String × Settings)) :
    r.define entries = entries.foldl Roster.settle r := by
  rw [Roster.define, Table.insertAll, List.foldl_map]
  induction entries generalizing r with
  | nil => rfl
  | cons e entries ih => exact ih (r.settle e)

/-- Takes in a declaration: its groups, then its users. -/
def Roster.take (r : Roster) (d : Declaration) : Roster :=
  d.users.foldl Roster.enrol (r.define d.groups)

/-! ## What a document declares -/

namespace Config

/-- The entries of a section; none if the document has no such section. -/
def sectionEntries {β : Type} (label heading : String) (read : Yaml.Value → Except ShapeError β)
    (default : β) (doc : Yaml.Value) : Except LoadError (List (String × β)) :=
  readEntries label heading read default ((section? doc heading).getD [])

/-- The names that the keys of a section give. -/
def sectionNames (doc : Yaml.Value) (heading : String) : List String :=
  ((section? doc heading).getD []).filterMap fun e => keyName? e.1

theorem names_readEntry {β : Type} {label heading : String}
    {read : Yaml.Value → Except ShapeError β} {default : β} {entry : Yaml.Value × Yaml.Value}
    {e : String × β} (h : readEntry label heading read default entry = .ok e) :
    keyName? entry.1 = some e.1 := by
  rw [readEntry] at h
  split at h
  · cases h
  · rename_i name hname
    split at h
    · cases h
      exact hname
    · split at h
      · cases h
        exact hname
      · cases h

/-- Entries have the names of their keys, in order. -/
theorem names_readEntries {β : Type} {label heading : String}
    {read : Yaml.Value → Except ShapeError β} {default : β}
    {entries : List (Yaml.Value × Yaml.Value)} {es : List (String × β)}
    (h : readEntries label heading read default entries = .ok es) :
    es.map Prod.fst = entries.filterMap fun e => keyName? e.1 := by
  induction entries generalizing es with
  | nil =>
    cases h
    rfl
  | cons entry entries ih =>
    rw [readEntries, bind_eq_ok] at h
    obtain ⟨first, hfirst, h⟩ := h
    obtain ⟨others, hothers, h⟩ := bind_eq_ok.1 h
    cases h
    rw [List.map_cons, ih hothers, List.filterMap_cons, names_readEntry hfirst]

namespace Pex

/-- The settings that the body of a group gives. -/
def settings (label : String) (e : String × EntityBody) : Except LoadError (String × Settings) :=
  (e.2.permissionSet label).map fun permissions =>
    (e.1, ⟨permissions, e.2.groupNames, nonEmpty e.2.chatPrefix, nonEmpty e.2.chatSuffix⟩)

/-- The user that a body gives. -/
def userEntry (label : String) (e : String × EntityBody) : Except LoadError UserEntry :=
  (e.2.permissionSet label).map fun permissions =>
    ⟨e.1, e.2.groupNames, e.2.player permissions⟩

/-- What a document declares. -/
def declaration (label : String) (doc : Yaml.Value) : Except LoadError Declaration := do
  let groups ← sectionEntries label "groups" readGroup {} doc
  let groups ← groups.mapM (settings label)
  let users ← sectionEntries label "users" readUser {} doc
  let users ← users.mapM (userEntry label)
  return { groups, users }

theorem addGroups_eq_ok_iff {label : String} {entries : List (String × EntityBody)}
    {r r' : Roster} :
    addGroups label entries r = (.ok (), r') ↔
      ∃ gs, entries.mapM (settings label) = .ok gs ∧ r' = r.define gs := by
  simp only [Roster.define_eq_foldl]
  refine run_eq_ok_iff (fun _ => rfl) fun e entries r r' => ?_
  rw [addGroups, settings]
  cases e.2.permissionSet label with
  | error e => simp [Except.map]
  | ok permissions =>
    simp only [Except.map, Except.ok.injEq, exists_eq_left']
    rfl

theorem addUsers_eq_ok_iff {label : String} {entries : List (String × EntityBody)} {r r' : Roster} :
    addUsers label entries r = (.ok (), r') ↔
      ∃ us, entries.mapM (userEntry label) = .ok us ∧ r' = us.foldl Roster.enrol r := by
  refine run_eq_ok_iff (fun _ => rfl) fun e entries r r' => ?_
  rw [addUsers, userEntry]
  cases e.2.permissionSet label with
  | error e => simp [Except.map]
  | ok permissions =>
    simp only [Except.map, Except.ok.injEq, exists_eq_left']
    rfl

theorem loadSection_eq_ok_iff {label heading : String} {doc : Yaml.Value}
    {read : Yaml.Value → Except ShapeError EntityBody}
    {add : List (String × EntityBody) → Roster → Except LoadError Unit × Roster}
    (hadd : ∀ r, add [] r = (.ok (), r)) {r r' : Roster} :
    loadSection label heading doc read add r = (.ok (), r') ↔
      ∃ es, sectionEntries label heading read {} doc = .ok es ∧ add es r = (.ok (), r') := by
  rw [loadSection, sectionEntries]
  cases section? doc heading with
  | none => simp [readEntries, hadd]
  | some mapping =>
    simp only [Option.getD_some]
    cases readEntries label heading read {} mapping <;> simp

theorem declaration_eq_ok_iff {label : String} {doc : Yaml.Value} {d : Declaration} :
    declaration label doc = .ok d ↔
      (∃ es, sectionEntries label "groups" readGroup {} doc = .ok es ∧
        es.mapM (settings label) = .ok d.groups) ∧
      ∃ es, sectionEntries label "users" readUser {} doc = .ok es ∧
        es.mapM (userEntry label) = .ok d.users := by
  simp only [declaration, bind_eq_ok, pure, Except.pure, Except.ok.injEq]
  constructor
  · rintro ⟨ges, hges, gs, hgs, ues, hues, us, hus, rfl⟩
    exact ⟨⟨ges, hges, hgs⟩, ues, hues, hus⟩
  · rintro ⟨⟨ges, hges, hgs⟩, ues, hues, hus⟩
    exact ⟨ges, hges, d.groups, hgs, ues, hues, d.users, hus, rfl⟩

theorem load_eq_ok_iff {label : String} {doc : Yaml.Value} {r r' : Roster} :
    load label doc r = (.ok (), r') ↔ ∃ d, declaration label doc = .ok d ∧ r' = r.take d := by
  simp only [declaration_eq_ok_iff]
  rw [load]
  constructor
  · intro h
    split at h
    · cases h
    · rename_i r₁ hg
      obtain ⟨ges, hges, hg⟩ := (loadSection_eq_ok_iff fun _ => rfl).1 hg
      obtain ⟨gs, hgs, rfl⟩ := addGroups_eq_ok_iff.1 hg
      obtain ⟨ues, hues, hu⟩ := (loadSection_eq_ok_iff fun _ => rfl).1 h
      obtain ⟨us, hus, rfl⟩ := addUsers_eq_ok_iff.1 hu
      exact ⟨⟨gs, us⟩, ⟨⟨ges, hges, hgs⟩, ues, hues, hus⟩, rfl⟩
  · rintro ⟨d, ⟨⟨ges, hges, hgs⟩, ues, hues, hus⟩, rfl⟩
    have hg : loadSection label "groups" doc readGroup (addGroups label) r =
        (.ok (), r.define d.groups) :=
      (loadSection_eq_ok_iff fun _ => rfl).2 ⟨ges, hges, addGroups_eq_ok_iff.2 ⟨_, hgs, rfl⟩⟩
    rw [hg]
    exact (loadSection_eq_ok_iff fun _ => rfl).2 ⟨ues, hues, addUsers_eq_ok_iff.2 ⟨_, hus, rfl⟩⟩

theorem addGroups_fst (label : String) (entries : List (String × EntityBody)) (r : Roster) :
    (addGroups label entries r).1 = (entries.mapM (settings label)).map fun _ => () := by
  refine run_fst Roster.settle (fun r _ => r) (fun _ => rfl) (fun e es r => ?_) _ _
  rw [addGroups, settings]
  cases e.2.permissionSet label <;> rfl

theorem addUsers_fst (label : String) (entries : List (String × EntityBody)) (r : Roster) :
    (addUsers label entries r).1 = (entries.mapM (userEntry label)).map fun _ => () := by
  refine run_fst Roster.enrol (fun r e => joinGroups e.1 e.2 r) (fun _ => rfl)
    (fun e es r => ?_) _ _
  rw [addUsers, userEntry]
  cases e.2.permissionSet label <;> rfl

theorem loadSection_fst {β : Type} {label heading : String} {doc : Yaml.Value}
    {read : Yaml.Value → Except ShapeError EntityBody}
    {add : List (String × EntityBody) → Roster → Except LoadError Unit × Roster}
    {item : String × EntityBody → Except LoadError β}
    (hadd : ∀ es r, (add es r).1 = (es.mapM item).map fun _ => ()) (r : Roster) :
    (loadSection label heading doc read add r).1 =
      (sectionEntries label heading read {} doc >>= (·.mapM item)).map fun _ => () := by
  rw [loadSection, sectionEntries]
  cases section? doc heading with
  | none => rfl
  | some mapping =>
    simp only [Option.getD_some]
    cases readEntries label heading read {} mapping with
    | error e => rfl
    | ok es => exact hadd es r

/-- The groups that a document declares. -/
def declaredGroups (label : String) (doc : Yaml.Value) :
    Except LoadError (List (String × Settings)) :=
  sectionEntries label "groups" readGroup {} doc >>= (·.mapM (settings label))

/-- The users that a document declares. -/
def declaredUsers (label : String) (doc : Yaml.Value) : Except LoadError (List UserEntry) :=
  sectionEntries label "users" readUser {} doc >>= (·.mapM (userEntry label))

/-- A declaration is made of the groups and then of the users. -/
theorem declaration_eq_bind (label : String) (doc : Yaml.Value) :
    declaration label doc = (do
      let groups ← declaredGroups label doc
      let users ← declaredUsers label doc
      return { groups, users }) := by
  simp only [declaration, declaredGroups, declaredUsers, bind_assoc]

/-- A load answers what the declaration answers. -/
theorem load_fst (label : String) (doc : Yaml.Value) (r : Roster) :
    (load label doc r).1 = (declaration label doc).map fun _ => () := by
  have hgroups : (loadSection label "groups" doc readGroup (addGroups label) r).1 =
      (declaredGroups label doc).map fun _ => () := loadSection_fst (addGroups_fst label) r
  have husers (r : Roster) : (loadSection label "users" doc readUser (addUsers label) r).1 =
      (declaredUsers label doc).map fun _ => () := loadSection_fst (addUsers_fst label) r
  rw [declaration_eq_bind, load]
  cases hg : declaredGroups label doc with
  | error e =>
    rw [hg] at hgroups
    rw [← Prod.eta (loadSection _ _ _ _ _ _), hgroups]
    rfl
  | ok groups =>
    -- The users are taken in on top of the groups, which their answer does not show.
    rw [hg] at hgroups
    rw [← Prod.eta (loadSection _ _ _ _ _ _), hgroups]
    refine (husers _).trans ?_
    cases declaredUsers label doc <;> rfl

theorem name_settings {label : String} (e : String × EntityBody) (s : String × Settings)
    (h : settings label e = .ok s) : s.1 = e.1 := by
  obtain ⟨permissions, -, rfl⟩ := map_eq_ok.1 h
  rfl

theorem name_userEntry {label : String} (e : String × EntityBody) (u : UserEntry)
    (h : userEntry label e = .ok u) : u.name = e.1 := by
  obtain ⟨permissions, -, rfl⟩ := map_eq_ok.1 h
  rfl

theorem groupNames_of_declaration {label : String} {doc : Yaml.Value} {d : Declaration}
    (h : declaration label doc = .ok d) : d.groupNames = sectionNames doc "groups" := by
  obtain ⟨⟨es, hes, hgs⟩, -⟩ := declaration_eq_ok_iff.1 h
  exact (map_eq_map_of_mapM name_settings hgs).trans (names_readEntries hes)

theorem userNames_of_declaration {label : String} {doc : Yaml.Value} {d : Declaration}
    (h : declaration label doc = .ok d) : d.userNames = sectionNames doc "users" := by
  obtain ⟨-, es, hes, hus⟩ := declaration_eq_ok_iff.1 h
  exact (map_eq_map_of_mapM name_userEntry hus).trans (names_readEntries hes)

end Pex

namespace BPerms

/-- What a document declares: groups alone. -/
def declaration (label : String) (doc : Yaml.Value) : Except LoadError Declaration :=
  (sectionEntries label "groups" readGroup {} doc).map fun entries =>
    { groups := entries.map fun e => (e.1, e.2.group.settings) }

theorem addGroups_eq_define (entries : List (String × GroupBody)) (r : Roster) :
    addGroups entries r = r.define (entries.map fun e => (e.1, e.2.group.settings)) := by
  rw [addGroups, Roster.define, List.map_map, Table.insertAll, List.foldl_map]
  rfl

theorem load_eq_ok_iff {label : String} {doc : Yaml.Value} {r r' : Roster} :
    load label doc r = (.ok (), r') ↔ ∃ d, declaration label doc = .ok d ∧ r' = r.take d := by
  rw [load, declaration, sectionEntries]
  cases section? doc "groups" with
  | none =>
    have hr : r.take {} = r := rfl
    simp [readEntries, Except.map, hr, eq_comm]
  | some mapping =>
    simp only [Option.getD_some]
    cases readEntries label "groups" readGroup {} mapping with
    | error e => simp [Except.map]
    | ok entries => simp [Except.map, Roster.take, addGroups_eq_define, eq_comm]

theorem load_fst (label : String) (doc : Yaml.Value) (r : Roster) :
    (load label doc r).1 = (declaration label doc).map fun _ => () := by
  rw [load, declaration, sectionEntries]
  cases section? doc "groups" with
  | none => rfl
  | some mapping =>
    simp only [Option.getD_some]
    cases readEntries label "groups" readGroup {} mapping <;> rfl

theorem groupNames_of_declaration {label : String} {doc : Yaml.Value} {d : Declaration}
    (h : declaration label doc = .ok d) : d.groupNames = sectionNames doc "groups" := by
  obtain ⟨entries, hentries, rfl⟩ := map_eq_ok.1 h
  rw [Declaration.groupNames, List.map_map]
  exact names_readEntries hentries

theorem userNames_of_declaration {label : String} {doc : Yaml.Value} {d : Declaration}
    (h : declaration label doc = .ok d) : d.userNames = [] := by
  obtain ⟨entries, -, rfl⟩ := map_eq_ok.1 h
  rfl

end BPerms

/-! ## Documents -/

/-- A document in one of the layouts, with the label it has in messages. -/
structure Document where
  dialect : Dialect
  label : String
  value : Yaml.Value

namespace Document

/-- Takes the document into a roster. -/
def load (d : Document) : Roster → Except LoadError Unit × Roster :=
  loadValue d.dialect d.label d.value

/-- What the document declares. -/
def declaration (d : Document) : Except LoadError Declaration :=
  match d.dialect with
  | .pex => Pex.declaration d.label d.value
  | .bperms => BPerms.declaration d.label d.value

/-- The names that its group entries have. -/
def groupNames (d : Document) : List String := sectionNames d.value "groups"

/-- The names that its user entries have, where the layout has users. -/
def userNames (d : Document) : List String :=
  match d.dialect with
  | .pex => sectionNames d.value "users"
  | .bperms => []

/-- A load succeeds exactly on a document that has a declaration, and takes
the declaration in. -/
theorem load_eq_ok_iff {d : Document} {r r' : Roster} :
    d.load r = (.ok (), r') ↔ ∃ e, d.declaration = .ok e ∧ r' = r.take e := by
  obtain ⟨dialect, label, value⟩ := d
  cases dialect with
  | pex => exact Pex.load_eq_ok_iff
  | bperms => exact BPerms.load_eq_ok_iff

/-- Whether a load succeeds, and with which error it fails, does not depend
on the roster. -/
theorem load_fst (d : Document) (r : Roster) :
    (d.load r).1 = d.declaration.map fun _ => () := by
  obtain ⟨dialect, label, value⟩ := d
  cases dialect with
  | pex => exact Pex.load_fst label value r
  | bperms => exact BPerms.load_fst label value r

theorem groupNames_of_declaration {d : Document} {e : Declaration} (h : d.declaration = .ok e) :
    e.groupNames = d.groupNames := by
  obtain ⟨dialect, label, value⟩ := d
  cases dialect with
  | pex => exact Pex.groupNames_of_declaration h
  | bperms => exact BPerms.groupNames_of_declaration h

theorem userNames_of_declaration {d : Document} {e : Declaration} (h : d.declaration = .ok e) :
    e.userNames = d.userNames := by
  obtain ⟨dialect, label, value⟩ := d
  cases dialect with
  | pex => exact Pex.userNames_of_declaration h
  | bperms => exact BPerms.userNames_of_declaration h

end Document

end Config

end PermScript
