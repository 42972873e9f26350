/-
What a load that fails leaves behind.

The entries of a section are checked before any of them is taken in, but the
worlds of an entity only when its turn comes, and a user joins its groups
before that. So there are four ways to fail, and `Aftermath` says for each
what the roster is then. `exists_load_error_iff_aftermath`: a load fails and
leaves a roster behind exactly if that roster is such an aftermath.
-/
import PermScript.Proofs.Declaration

namespace PermScript

open Config (LoadError)

/-! ## Results that are errors -/

theorem map_eq_error {ε α β : Type} {x : Except ε α} {f : α → β} {e : ε} :
    x.map f = .error e ↔ x = .error e := by
  cases x <;> simp [Except.map]

theorem exists_mapM_error {ε α β : Type} {f : α → Except ε β} {as : List α} :
    (∃ e, as.mapM f = .error e) ↔ ∃ a ∈ as, ∃ e, f a = .error e := by
  induction as with
  | nil => simp [pure, Except.pure]
  | cons a as ih =>
    rw [List.mapM_cons, List.exists_mem_cons_iff, ← ih]
    cases f a with
    | error e => simp [bind, Except.bind]
    | ok b => cases as.mapM f <;> simp [bind, Except.bind, pure, Except.pure]

/-- A function that takes items one after the other, each by what is read
from it, stops at the first that cannot be read: those before it are taken
in, and that one spoils what there is then. -/
theorem exists_run_error {α β ε σ : Type} (run : List α → σ → Except ε Unit × σ)
    {read : α → Except ε β} (put : σ → β → σ) (spoil : σ → α → σ)
    (hnil : ∀ s, run [] s = (.ok (), s))
    (hcons : ∀ a as s, run (a :: as) s =
      match read a with
      | .ok b => run as (put s b)
      | .error e => (.error e, spoil s a))
    {as : List α} {s s' : σ} :
    (∃ e, run as s = (.error e, s')) ↔ ∃ before a after bs, as = before ++ a :: after ∧
      before.mapM read = .ok bs ∧ (∃ e, read a = .error e) ∧ s' = spoil (bs.foldl put s) a := by
  induction as generalizing s with
  | nil => simp [hnil]
  | cons a as ih =>
    rw [hcons]
    constructor
    · rintro ⟨e, h⟩
      split at h
      · rename_i b hb
        obtain ⟨before, c, after, bs, rfl, hbs, hc, rfl⟩ := ih.1 ⟨e, h⟩
        have hread := mapM_cons_eq_ok.2 ⟨b, bs, hb, hbs, rfl⟩
        exact ⟨a :: before, c, after, b :: bs, rfl, hread, hc, rfl⟩
      · rename_i e' he
        cases h
        exact ⟨[], a, as, [], rfl, rfl, ⟨e, he⟩, rfl⟩
    · rintro ⟨before, c, after, bs, has, hbs, ⟨e, he⟩, rfl⟩
      cases before with
      | nil =>
        cases has
        cases hbs
        exact ⟨e, by rw [he]; rfl⟩
      | cons b before =>
        cases has
        obtain ⟨b', bs', hb, hbs', rfl⟩ := mapM_cons_eq_ok.1 hbs
        rw [hb]
        exact ih.2 ⟨before, c, after, bs', rfl, hbs', ⟨e, he⟩, rfl⟩

namespace Config

/-! ## Wrong entries -/

/-- An entry that no section can have: its key names nothing, or it has a
body of the wrong shape. -/
def WrongEntry {β : Type} (read : Yaml.Value → Except ShapeError β)
    (entry : Yaml.Value × Yaml.Value) : Prop :=
  keyName? entry.1 = none ∨ entry.2.isNull = false ∧ ∃ e, read entry.2 = .error e

section

variable {β : Type} {label heading : String} {read : Yaml.Value → Except ShapeError β} {default : β}

theorem exists_readEntry_error {entry : Yaml.Value × Yaml.Value} :
    (∃ e, readEntry label heading read default entry = .error e) ↔ WrongEntry read entry := by
  rw [readEntry, WrongEntry]
  cases keyName? entry.1 with
  | none => simp
  | some name =>
    cases entry.2.isNull with
    | true => simp
    | false => cases read entry.2 <;> simp

theorem readEntries_eq_mapM (entries : List (Yaml.Value × Yaml.Value)) :
    readEntries label heading read default entries =
      entries.mapM (readEntry label heading read default) := by
  induction entries with
  | nil => rfl
  | cons entry entries ih => rw [readEntries, ih, List.mapM_cons]

theorem exists_readEntries_error {entries : List (Yaml.Value × Yaml.Value)} :
    (∃ e, readEntries label heading read default entries = .error e) ↔
      ∃ entry ∈ entries, WrongEntry read entry := by
  rw [readEntries_eq_mapM, exists_mapM_error]
  simp only [exists_readEntry_error]

end

namespace Pex

/-- One of the worlds of the body is wrong. -/
def EntityBody.WrongWorlds (b : EntityBody) : Prop :=
  ∃ entry ∈ b.worlds.getD [], WrongEntry readWorld entry

theorem exists_permissionSet_error {label : String} {b : EntityBody} :
    (∃ e, b.permissionSet label = .error e) ↔ b.WrongWorlds := by
  simp only [EntityBody.permissionSet, EntityBody.worldStatements, map_eq_error,
    exists_readEntries_error]
  rfl

/-! ## Sections that fail -/

section

variable {label : String} {r r' : Roster}

/-- The groups before the first with a wrong world are taken in. -/
theorem exists_addGroups_error {entries : List (String × EntityBody)} :
    (∃ e, addGroups label entries r = (.error e, r')) ↔ ∃ before group after gs,
      entries = before ++ group :: after ∧ before.mapM (settings label) = .ok gs ∧
        group.2.WrongWorlds ∧ r' = r.define gs := by
  have hwrong : ∀ group, (∃ e, settings label group = .error e) ↔ group.2.WrongWorlds := by
    intro group
    simp only [settings, map_eq_error, exists_permissionSet_error]
  simp only [← hwrong, Roster.define_eq_foldl]
  refine exists_run_error (addGroups label) Roster.settle (fun r _ => r) (fun _ => rfl) ?_
  intro group groups r
  rw [addGroups, settings]
  cases group.2.permissionSet label <;> rfl

/-- The users before the first with a wrong world are taken in, and that one
joins its groups. -/
theorem exists_addUsers_error {entries : List (String × EntityBody)} :
    (∃ e, addUsers label entries r = (.error e, r')) ↔ ∃ before user after us,
      entries = before ++ user :: after ∧ before.mapM (userEntry label) = .ok us ∧
        user.2.WrongWorlds ∧ r' = joinGroups user.1 user.2 (us.foldl Roster.enrol r) := by
  have hwrong : ∀ user, (∃ e, userEntry label user = .error e) ↔ user.2.WrongWorlds := by
    intro user
    simp only [userEntry, map_eq_error, exists_permissionSet_error]
  simp only [← hwrong]
  refine exists_run_error (addUsers label) Roster.enrol (fun r user => joinGroups user.1 user.2 r)
    (fun _ => rfl) ?_
  intro user users r
  rw [addUsers, userEntry]
  cases user.2.permissionSet label <;> rfl

/-- A section fails at an entry, before anything is taken in, or while its
entries are taken in. -/
theorem exists_loadSection_error {heading : String} {doc : Yaml.Value}
    {read : Yaml.Value → Except ShapeError EntityBody}
    {add : List (String × EntityBody) → Roster → Except LoadError Unit × Roster}
    (hadd : ∀ r, add [] r = (.ok (), r)) :
    (∃ e, loadSection label heading doc read add r = (.error e, r')) ↔
      ((∃ entry ∈ (section? doc heading).getD [], WrongEntry read entry) ∧ r' = r) ∨
        ∃ es, sectionEntries label heading read {} doc = .ok es ∧
          ∃ e, add es r = (.error e, r') := by
  have hwrong : (∃ e, sectionEntries label heading read {} doc = .error e) ↔
      ∃ entry ∈ (section? doc heading).getD [], WrongEntry read entry := exists_readEntries_error
  rw [← hwrong, loadSection, sectionEntries]
  cases section? doc heading with
  | none => simp [readEntries, hadd]
  | some mapping =>
    simp only [Option.getD_some]
    cases readEntries label heading read {} mapping with
    | error e => simp [eq_comm]
    | ok es => simp

theorem loadGroups_eq_ok_iff {doc : Yaml.Value} :
    loadSection label "groups" doc readGroup (addGroups label) r = (.ok (), r') ↔
      ∃ gs, declaredGroups label doc = .ok gs ∧ r' = r.define gs := by
  rw [loadSection_eq_ok_iff fun _ => rfl, declaredGroups]
  simp only [addGroups_eq_ok_iff, bind_eq_ok]
  constructor
  · rintro ⟨es, hes, gs, hgs, rfl⟩
    exact ⟨gs, ⟨es, hes, hgs⟩, rfl⟩
  · rintro ⟨gs, ⟨es, hes, hgs⟩, rfl⟩
    exact ⟨es, hes, gs, hgs, rfl⟩

/-- A load fails at the groups, or at the users on top of all groups. -/
theorem exists_load_error {doc : Yaml.Value} :
    (∃ e, load label doc r = (.error e, r')) ↔
      (∃ e, loadSection label "groups" doc readGroup (addGroups label) r = (.error e, r')) ∨
        ∃ gs, declaredGroups label doc = .ok gs ∧ ∃ e,
          loadSection label "users" doc readUser (addUsers label) (r.define gs) =
            (.error e, r') := by
  rw [load]
  constructor
  · rintro ⟨e, h⟩
    split at h
    · rename_i e' r₁ hg
      cases h
      exact .inl ⟨e, hg⟩
    · rename_i r₁ hg
      obtain ⟨gs, hgs, rfl⟩ := loadGroups_eq_ok_iff.1 hg
      exact .inr ⟨gs, hgs, e, h⟩
  · rintro (⟨e, hg⟩ | ⟨gs, hgs, e, hu⟩)
    · exact ⟨e, by rw [hg]⟩
    · rw [loadGroups_eq_ok_iff.2 ⟨gs, hgs, rfl⟩]
      exact ⟨e, hu⟩

end

/-! ## The four aftermaths -/

/-- The rosters that a failing load can leave behind, `r` being the one it
began with. -/
inductive Aftermath (label : String) (doc : Yaml.Value) (r : Roster) : Roster → Prop
  /-- An entry for a group is wrong: nothing is taken in. -/
  | groupEntry (wrong : ∃ entry ∈ (section? doc "groups").getD [], WrongEntry readGroup entry) :
      Aftermath label doc r r
  /-- The worlds of a group are wrong: the groups before it are taken in. -/
  | groupWorlds {before after : List (String × EntityBody)} {group : String × EntityBody}
      {gs : List (String × Settings)}
      (entries : sectionEntries label "groups" readGroup {} doc = .ok (before ++ group :: after))
      (earlier : before.mapM (settings label) = .ok gs) (wrong : group.2.WrongWorlds) :
      Aftermath label doc r (r.define gs)
  /-- An entry for a user is wrong: all groups are taken in and no user. -/
  | userEntry {gs : List (String × Settings)} (groups : declaredGroups label doc = .ok gs)
      (wrong : ∃ entry ∈ (section? doc "users").getD [], WrongEntry readUser entry) :
      Aftermath label doc r (r.define gs)
  /-- The worlds of a user are wrong: all groups and the users before it are
  taken in, and it has joined its groups without becoming a player. -/
  | userWorlds {gs : List (String × Settings)} {before after : List (String × EntityBody)}
      {user : String × EntityBody} {us : List UserEntry} {r₁ : Roster}
      (groups : declaredGroups label doc = .ok gs)
      (entries : sectionEntries label "users" readUser {} doc = .ok (before ++ user :: after))
      (earlier : before.mapM (Pex.userEntry label) = .ok us)
      (reached : r₁ = us.foldl Roster.enrol (r.define gs)) (wrong : user.2.WrongWorlds) :
      Aftermath label doc r
        { r₁ with
          groups := (link user.1 user.2.groupNames r₁.groups).1
          warnings := r₁.warnings ++ (link user.1 user.2.groupNames r₁.groups).2 }

/-- A load fails, and leaves a roster behind, exactly if that is one of the
four aftermaths. -/
theorem exists_load_error_iff_aftermath {label : String} {doc : Yaml.Value} {r r' : Roster} :
    (∃ e, load label doc r = (.error e, r')) ↔ Aftermath label doc r r' := by
  rw [exists_load_error]
  constructor
  · rintro (h | ⟨gs, hgs, h⟩)
    · rcases (exists_loadSection_error fun _ => rfl).1 h with ⟨wrong, rfl⟩ | ⟨es, hes, hadd⟩
      · exact .groupEntry wrong
      · obtain ⟨before, group, after, gs, rfl, hgs, wrong, rfl⟩ := exists_addGroups_error.1 hadd
        exact .groupWorlds hes hgs wrong
    · rcases (exists_loadSection_error fun _ => rfl).1 h with ⟨wrong, rfl⟩ | ⟨es, hes, hadd⟩
      · exact .userEntry hgs wrong
      · obtain ⟨before, user, after, us, rfl, hus, wrong, rfl⟩ := exists_addUsers_error.1 hadd
        exact .userWorlds hgs hes hus rfl wrong
  · intro h
    cases h with
    | groupEntry wrong => exact .inl ((exists_loadSection_error fun _ => rfl).2 (.inl ⟨wrong, rfl⟩))
    | groupWorlds hes hgs wrong =>
      exact .inl ((exists_loadSection_error fun _ => rfl).2
        (.inr ⟨_, hes, exists_addGroups_error.2 ⟨_, _, _, _, rfl, hgs, wrong, rfl⟩⟩))
    | userEntry hgs wrong =>
      exact .inr ⟨_, hgs, (exists_loadSection_error fun _ => rfl).2 (.inl ⟨wrong, rfl⟩)⟩
    | userWorlds hgs hes hus hr₁ wrong =>
      subst hr₁
      exact .inr ⟨_, hgs, (exists_loadSection_error fun _ => rfl).2
        (.inr ⟨_, hes, exists_addUsers_error.2 ⟨_, _, _, _, rfl, hus, wrong, rfl⟩⟩)⟩

end Pex

end Config

end PermScript
