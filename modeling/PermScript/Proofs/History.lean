/-
The roster that a sequence of documents leads to, read off their
declarations.

`Chronicle` says what a roster is after given declarations, without saying
how it came to be; at most one roster is as it says. `loadAll_eq_ok_iff`:
loading documents into the empty roster succeeds exactly if all of them have
declarations, and leads to the roster that these determine.
-/
import PermScript.Proofs.Declaration
import PermScript.Proofs.Linking

namespace PermScript

open Config (Document LoadError)

/-! ## One declaration -/

/-- The players that users join to a group, each as often as it names it. -/
def joined (users : List UserEntry) (name : String) : List String :=
  users.flatMap fun u => List.replicate (u.memberships.count name) u.name

theorem joined_cons (u : UserEntry) (users : List UserEntry) (name : String) :
    joined (u :: users) name =
      List.replicate (u.memberships.count name) u.name ++ joined users name := by
  rw [joined, List.flatMap_cons, joined]

/-- The warnings for the memberships of users in groups that are not among
the defined ones. -/
def missing (users : List UserEntry) (defined : List String) : List Warning :=
  users.flatMap fun u =>
    (u.memberships.filter fun name => name ∉ defined).map (.missingGroup u.name)

/-- The players of a declaration. -/
def Declaration.players (d : Declaration) : List (String × Player) :=
  d.users.map fun u => (u.name, u.player)

@[simp] theorem names_enrolAll (users : List UserEntry) (r : Roster) :
    (users.foldl Roster.enrol r).groups.names = r.groups.names := by
  induction users generalizing r with
  | nil => rfl
  | cons u users ih => rw [List.foldl_cons, ih, Roster.enrol, names_link]

theorem get?_enrolAll (users : List UserEntry) (r : Roster) (name : String) :
    (users.foldl Roster.enrol r).groups.get? name =
      (r.groups.get? name).map (Group.joinAll (joined users name)) := by
  induction users generalizing r with
  | nil => cases h : r.groups.get? name <;> simp [joined, h]
  | cons u users ih =>
    rw [List.foldl_cons, ih, Roster.enrol, get?_link, Option.map_map, joined_cons]
    congr 1
    funext g
    exact Group.joinAll_joinAll _ _ g

theorem players_enrolAll (users : List UserEntry) (r : Roster) :
    (users.foldl Roster.enrol r).players =
      r.players.insertAll (users.map fun u => (u.name, u.player)) := by
  rw [Table.insertAll, List.foldl_map]
  induction users generalizing r with
  | nil => rfl
  | cons u users ih => exact ih (r.enrol u)

theorem warnings_enrolAll (users : List UserEntry) (r : Roster) :
    (users.foldl Roster.enrol r).warnings = r.warnings ++ missing users r.groups.names := by
  induction users generalizing r with
  | nil => simp [missing]
  | cons u users ih =>
    rw [List.foldl_cons, ih, missing, missing, List.flatMap_cons, ← List.append_assoc, Roster.enrol,
      names_link, warnings_link]

theorem names_define (r : Roster) (entries : List (String × Settings)) :
    (r.define entries).groups.names =
      (r.groups.names ++ entries.map Prod.fst).eraseDups := by
  rw [Roster.define, Table.names_insertAll, List.map_map]
  rfl

theorem get?_define (r : Roster) (entries : List (String × Settings)) (name : String) :
    (r.define entries).groups.get? name =
      ((lastRecord entries name).map Settings.group).or (r.groups.get? name) := by
  rw [Roster.define, Table.get?_insertAll, lastRecord_map]

theorem names_take (r : Roster) (d : Declaration) :
    (r.take d).groups.names = (r.groups.names ++ d.groupNames).eraseDups := by
  rw [Roster.take, names_enrolAll, names_define]
  rfl

/-- A group has the settings it was given last and the members who joined
since. -/
theorem get?_take (r : Roster) (d : Declaration) (name : String) :
    (r.take d).groups.get? name =
      (((lastRecord d.groups name).map Settings.group).or (r.groups.get? name)).map
        (Group.joinAll (joined d.users name)) := by
  rw [Roster.take, get?_enrolAll, get?_define]

theorem players_take (r : Roster) (d : Declaration) :
    (r.take d).players = r.players.insertAll d.players := players_enrolAll _ _

theorem warnings_take (r : Roster) (d : Declaration) :
    (r.take d).warnings =
      r.warnings ++ missing d.users (r.groups.names ++ d.groupNames) := by
  rw [Roster.take, warnings_enrolAll, names_define]
  simp only [missing, List.mem_eraseDups, Declaration.groupNames]
  rfl

/-! ## What declarations come to -/

/-- The groups that declarations define. -/
def definedBy (ds : List Declaration) : List String := ds.flatMap Declaration.groupNames

/-- The warnings of declarations in order: for each, the memberships in
groups that it does not define and that none before it does. -/
def missingIn (ds : List Declaration) : List Warning :=
  ds.zipIdx.flatMap fun (d, i) => missing d.users (definedBy (ds.take (i + 1)))

/-- The roster that declarations determine. -/
structure Chronicle (ds : List Declaration) (r : Roster) : Prop where
  /-- Groups stand in the order in which they were first defined. -/
  groupNames : r.groups.names = (definedBy ds).eraseDups
  /-- A group has the settings given last. -/
  settings : ∀ name,
    (r.groups.get? name).map Group.settings = lastRecord (ds.flatMap Declaration.groups) name
  /-- Its members are those who join in the declaration that defines it last
  and after that. -/
  members : ∀ before d after name, ds = before ++ d :: after → name ∈ d.groupNames →
    (∀ e ∈ after, name ∉ e.groupNames) →
      (r.groups.get? name).map Group.members =
        some ((d :: after).flatMap fun e => joined e.users name)
  /-- Players stand in the order in which they first came. -/
  playerNames : r.players.names = (ds.flatMap Declaration.userNames).eraseDups
  /-- A player has the record that came last. -/
  players : ∀ name, r.players.get? name = lastRecord (ds.flatMap Declaration.players) name
  /-- One warning for each membership in a group not defined so far. -/
  warnings : r.warnings = missingIn ds

theorem definedBy_concat (ds : List Declaration) (d : Declaration) :
    definedBy (ds ++ [d]) = definedBy ds ++ d.groupNames := by
  simp [definedBy]

theorem missingIn_concat (ds : List Declaration) (d : Declaration) :
    missingIn (ds ++ [d]) = missingIn ds ++ missing d.users (definedBy (ds ++ [d])) := by
  rw [missingIn, List.zipIdx_append, List.flatMap_append]
  congr 1
  · refine List.flatMap_congr fun (e, i) he => ?_
    have hi : i + 1 ≤ ds.length := by
      obtain ⟨-, hi, -⟩ := List.mem_zipIdx he
      omega
    simp only [List.take_append_of_le_length hi]
  · simp [List.take_of_length_le]

theorem lastRecord_groups_eq_none {d : Declaration} {name : String} :
    lastRecord d.groups name = none ↔ name ∉ d.groupNames := lastRecord_eq_none

theorem get?_take_of_not_mem {r : Roster} {d : Declaration} {name : String}
    (h : name ∉ d.groupNames) :
    (r.take d).groups.get? name =
      (r.groups.get? name).map (Group.joinAll (joined d.users name)) := by
  rw [get?_take, lastRecord_groups_eq_none.2 h]
  rfl

theorem members_take_of_mem {r : Roster} {d : Declaration} {name : String}
    (h : name ∈ d.groupNames) :
    ((r.take d).groups.get? name).map Group.members = some (joined d.users name) := by
  obtain ⟨s, hs⟩ := exists_lastRecord h
  rw [get?_take, hs]
  rfl

theorem settings_take (r : Roster) (d : Declaration) (name : String) :
    ((r.take d).groups.get? name).map Group.settings =
      (lastRecord d.groups name).or ((r.groups.get? name).map Group.settings) := by
  rw [get?_take, Option.map_map]
  cases lastRecord d.groups name <;> rfl

namespace Chronicle

theorem empty : Chronicle [] ∅ where
  groupNames := rfl
  settings name := congrArg _ (Table.get?_empty name)
  members before d after _ h := by
    have hlen := congrArg List.length h
    simp at hlen
  playerNames := rfl
  players := Table.get?_empty
  warnings := rfl

/-- One more declaration is taken in at the end. -/
theorem take {ds : List Declaration} {r : Roster} (h : Chronicle ds r) (d : Declaration) :
    Chronicle (ds ++ [d]) (r.take d) where
  groupNames := by rw [names_take, h.groupNames, eraseDups_eraseDups_append, definedBy_concat]
  settings name := by
    rw [settings_take, h.settings, List.flatMap_append, List.flatMap_singleton, lastRecord_append]
  members before e after name heq hname hafter := by
    cases after using List.reverseRecOn with
    | nil =>
      -- the new declaration defines the group, whatever was known of it
      obtain ⟨-, rfl⟩ := List.append_singleton_inj.1 heq
      rw [members_take_of_mem hname, List.flatMap_singleton]
    | append_singleton after f =>
      rw [← List.cons_append, ← List.append_assoc] at heq
      obtain ⟨hds, rfl⟩ := List.append_singleton_inj.1 heq
      have hd : name ∉ d.groupNames := hafter d (by simp)
      have hm := h.members before e after name hds hname fun f hf => hafter f (by simp [hf])
      obtain ⟨g, hg, hgm⟩ := Option.map_eq_some_iff.1 hm
      rw [get?_take_of_not_mem hd, hg, ← List.cons_append, List.flatMap_append, ← hgm,
        List.flatMap_singleton]
      rfl
  playerNames := by
    rw [players_take, Table.names_insertAll, h.playerNames, eraseDups_eraseDups_append,
      List.flatMap_append, List.flatMap_singleton, Declaration.players, List.map_map]
    rfl
  players name := by
    rw [players_take, Table.get?_insertAll, h.players, List.flatMap_append, List.flatMap_singleton,
      lastRecord_append]
  warnings := by
    have hdefined : ∀ name, name ∈ r.groups.names ++ d.groupNames ↔
        name ∈ definedBy (ds ++ [d]) := by
      intro name
      rw [definedBy_concat, List.mem_append, List.mem_append, h.groupNames, List.mem_eraseDups]
    rw [warnings_take, h.warnings, missingIn_concat]
    simp only [missing, hdefined]

theorem foldl_take (ds : List Declaration) : Chronicle ds (ds.foldl Roster.take ∅) := by
  induction ds using List.reverseRecOn with
  | nil => exact empty
  | append_singleton ds d ih =>
    rw [List.foldl_append]
    exact ih.take d

end Chronicle

/-! ## Nothing else is as declared -/

theorem exists_last_definition {ds : List Declaration} {name : String} (h : name ∈ definedBy ds) :
    ∃ before d after, ds = before ++ d :: after ∧ name ∈ d.groupNames ∧
      ∀ e ∈ after, name ∉ e.groupNames := by
  induction ds using List.reverseRecOn with
  | nil => cases h
  | append_singleton ds d ih =>
    by_cases hd : name ∈ d.groupNames
    · exact ⟨ds, d, [], rfl, hd, by simp⟩
    · rw [definedBy_concat, List.mem_append] at h
      obtain ⟨before, e, after, rfl, he, hafter⟩ := ih (h.resolve_right hd)
      refine ⟨before, e, after ++ [d], by simp, he, fun f hf => ?_⟩
      rcases List.mem_append.1 hf with hf | hf
      · exact hafter f hf
      · rwa [List.mem_singleton.1 hf]

theorem eq_of_settings_of_members {g g' : Option Group}
    (hs : g.map Group.settings = g'.map Group.settings)
    (hm : g.map Group.members = g'.map Group.members) : g = g' := by
  cases g with
  | none => simpa [eq_comm] using hs
  | some g =>
    cases g' with
    | none => simp at hs
    | some g' =>
      obtain ⟨permissions, parents, chatPrefix, chatSuffix, members⟩ := g
      cases hs
      cases hm
      rfl

namespace Chronicle

theorem get?_eq {ds : List Declaration} {r r' : Roster} (h : Chronicle ds r) (h' : Chronicle ds r')
    (name : String) : r.groups.get? name = r'.groups.get? name := by
  by_cases hname : name ∈ definedBy ds
  · obtain ⟨before, d, after, hds, hd, hafter⟩ := exists_last_definition hname
    exact eq_of_settings_of_members ((h.settings name).trans (h'.settings name).symm)
      ((h.members _ _ _ _ hds hd hafter).trans (h'.members _ _ _ _ hds hd hafter).symm)
  · rw [← List.mem_eraseDups] at hname
    rw [Table.get?_eq_none.2 (h.groupNames ▸ hname), Table.get?_eq_none.2 (h'.groupNames ▸ hname)]

/-- Declarations determine the roster. -/
theorem unique {ds : List Declaration} {r r' : Roster} (h : Chronicle ds r) (h' : Chronicle ds r') :
    r = r' := by
  have hgroups : r.groups = r'.groups :=
    Table.ext_get? (h.groupNames.trans h'.groupNames.symm) (h.get?_eq h')
  have hplayers : r.players = r'.players :=
    Table.ext_get? (h.playerNames.trans h'.playerNames.symm)
      fun name => (h.players name).trans (h'.players name).symm
  have hwarnings : r.warnings = r'.warnings := h.warnings.trans h'.warnings.symm
  obtain ⟨groups, players, warnings⟩ := r
  cases hgroups
  cases hplayers
  cases hwarnings
  rfl

end Chronicle

/-! ## Many documents -/

/-- Takes documents into a roster in order, up to the first that fails. -/
def loadAll : List Document → Roster → Except LoadError Unit × Roster
  | [], r => (.ok (), r)
  | doc :: docs, r =>
    match doc.load r with
    | (.error e, r) => (.error e, r)
    | (.ok (), r) => loadAll docs r

theorem loadAll_cons_eq_ok_iff {doc : Document} {docs : List Document} {r r' : Roster} :
    loadAll (doc :: docs) r = (.ok (), r') ↔
      ∃ d, doc.declaration = .ok d ∧ loadAll docs (r.take d) = (.ok (), r') := by
  rw [loadAll]
  split
  · rename_i e r₁ hload
    constructor
    · intro h
      cases h
    · rintro ⟨d, hd, -⟩
      rw [Document.load_eq_ok_iff.2 ⟨d, hd, rfl⟩] at hload
      cases hload
  · rename_i r₁ hload
    obtain ⟨d, hd, rfl⟩ := Document.load_eq_ok_iff.1 hload
    constructor
    · exact fun h => ⟨d, hd, h⟩
    · rintro ⟨d', hd', h⟩
      cases hd.symm.trans hd'
      exact h

theorem loadAll_eq_foldl_take {docs : List Document} {r r' : Roster} :
    loadAll docs r = (.ok (), r') ↔
      ∃ ds, docs.mapM Document.declaration = .ok ds ∧ r' = ds.foldl Roster.take r :=
  run_eq_ok_iff (fun _ => rfl) fun _ _ _ _ => loadAll_cons_eq_ok_iff

/-- Documents load into the empty roster exactly if each has a declaration,
under the names that its keys give, and lead to the roster that these
declarations determine. -/
theorem loadAll_eq_ok_iff {docs : List Document} {r : Roster} :
    loadAll docs ∅ = (.ok (), r) ↔
      ∃ ds, docs.mapM Document.declaration = .ok ds ∧
        ds.map Declaration.groupNames = docs.map Document.groupNames ∧
        ds.map Declaration.userNames = docs.map Document.userNames ∧ Chronicle ds r := by
  rw [loadAll_eq_foldl_take]
  constructor
  · rintro ⟨ds, hds, rfl⟩
    exact ⟨ds, hds, map_eq_map_of_mapM (fun _ _ => Document.groupNames_of_declaration) hds,
      map_eq_map_of_mapM (fun _ _ => Document.userNames_of_declaration) hds,
      Chronicle.foldl_take ds⟩
  · rintro ⟨ds, hds, -, -, h⟩
    exact ⟨ds, hds, h.unique (Chronicle.foldl_take ds)⟩

end PermScript
