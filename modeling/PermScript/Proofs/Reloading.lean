/-
Loading a document a second time.

A group that the document defines loses its members before the users of the
document join it again, so the second load finds it as the first did. A
group that was there before and that the document only names keeps its
members, and they join once more. So the second load leaves the groups as
they are exactly if no user of the document joins a group of that kind:
`load_again`. The players are the same in any case, and the warnings are
those of the first load once more.
-/
import PermScript.Proofs.History

namespace PermScript

open Config (LoadError)

/-! ## What a second time adds -/

theorem joined_eq_nil_iff {users : List UserEntry} {name : String} :
    joined users name = [] ↔ ∀ u ∈ users, name ∉ u.memberships := by
  simp only [joined, List.flatMap_eq_nil_iff, List.replicate_eq_nil_iff, List.count_eq_zero]

theorem Group.joinAll_eq_self_iff {players : List String} {g : Group} :
    g.joinAll players = g ↔ players = [] := by
  constructor
  · intro h
    have hmembers : g.members ++ players = g.members := congrArg Group.members h
    exact List.append_right_eq_self.1 hmembers
  · rintro rfl
    exact g.joinAll_nil

theorem eraseDups_append_again (names more : List String) :
    ((names ++ more).eraseDups ++ more).eraseDups = (names ++ more).eraseDups := by
  have hnone : more.removeAll (names ++ more) = [] := by
    rw [List.removeAll, List.filter_eq_nil_iff]
    intro name hname
    simp [hname]
  rw [eraseDups_eraseDups_append, List.eraseDups_append, hnone, List.eraseDups_nil, List.append_nil]

theorem Table.insertAll_insertAll {α : Type} (t : Table α) (records : List (String × α)) :
    (t.insertAll records).insertAll records = t.insertAll records := by
  refine ext_get? ?_ fun name => ?_
  · rw [names_insertAll, names_insertAll, eraseDups_append_again]
  · rw [get?_insertAll, get?_insertAll, ← Option.or_assoc, Option.or_self]

/-! ## Taking in a declaration again -/

variable (r : Roster) (d : Declaration)

theorem names_take_take : ((r.take d).take d).groups.names = (r.take d).groups.names := by
  rw [names_take, names_take, eraseDups_append_again]

/-- A group that the declaration defines is the same whatever was there. -/
theorem get?_take_of_mem {d : Declaration} {name : String} (h : name ∈ d.groupNames)
    (r r' : Roster) : (r.take d).groups.get? name = (r'.take d).groups.get? name := by
  obtain ⟨s, hs⟩ := exists_lastRecord h
  rw [get?_take, get?_take, hs]
  rfl

theorem groups_take_take_iff :
    ((r.take d).take d).groups = (r.take d).groups ↔
      ∀ u ∈ d.users, ∀ name ∈ u.memberships, name ∈ d.groupNames ∨ name ∉ r.groups.names := by
  constructor
  · intro h u hu name hname
    by_cases hd : name ∈ d.groupNames
    · exact .inl hd
    · refine .inr fun hr => ?_
      obtain ⟨g, hg⟩ := Table.mem_names.1 hr
      have hget := congrArg (fun t => t.get? name) h
      -- Without members that join again the group could not be the same.
      rw [get?_take_of_not_mem hd, get?_take_of_not_mem hd, hg] at hget
      have hnone := Group.joinAll_eq_self_iff.1 (Option.some.inj hget)
      exact joined_eq_nil_iff.1 hnone u hu hname
  · intro h
    refine Table.ext_get? (names_take_take r d) fun name => ?_
    by_cases hd : name ∈ d.groupNames
    · exact get?_take_of_mem hd (r.take d) r
    · rw [get?_take_of_not_mem hd, get?_take_of_not_mem hd]
      cases hg : r.groups.get? name with
      | none => rfl
      | some g =>
        have hnone : joined d.users name = [] := by
          refine joined_eq_nil_iff.2 fun u hu hname => ?_
          exact (h u hu name hname).elim hd (· (Table.mem_names_of_get? hg))
        rw [hnone]
        simp

theorem players_take_take : ((r.take d).take d).players = (r.take d).players := by
  rw [players_take, players_take, Table.insertAll_insertAll]

/-- A membership that was missing a group is missing it again. -/
theorem warnings_take_take : ((r.take d).take d).warnings =
    (r.take d).warnings ++ missing d.users (r.groups.names ++ d.groupNames) := by
  have hdefined : ∀ name, name ∈ (r.take d).groups.names ++ d.groupNames ↔
      name ∈ r.groups.names ++ d.groupNames := by
    intro name
    rw [names_take]
    simp only [List.mem_append, List.mem_eraseDups]
    tauto
  rw [warnings_take]
  simp only [missing, hdefined]

/-! ## Loading a document again -/

namespace Config.Pex

/-- A document that loads loads again. The players stay as they are, and the
same memberships are reported as missing a group. The groups, with their
members and their order, stay as they are exactly if each membership names a
group that the document defines, or one that was defined neither there nor
before. -/
theorem load_again {label : String} {doc : Yaml.Value} {r r' : Roster}
    (h : load label doc r = (.ok (), r')) :
    ∃ d r'', declaration label doc = .ok d ∧ load label doc r' = (.ok (), r'') ∧
      r''.players = r'.players ∧
      r'.warnings = r.warnings ++ missing d.users (r.groups.names ++ d.groupNames) ∧
      r''.warnings = r'.warnings ++ missing d.users (r.groups.names ++ d.groupNames) ∧
      (r''.groups = r'.groups ↔
        ∀ u ∈ d.users, ∀ name ∈ u.memberships, name ∈ d.groupNames ∨ name ∉ r.groups.names) := by
  obtain ⟨d, hd, rfl⟩ := load_eq_ok_iff.1 h
  exact ⟨d, (r.take d).take d, hd, load_eq_ok_iff.2 ⟨d, hd, rfl⟩, players_take_take r d,
    warnings_take r d, warnings_take_take r d, groups_take_take_iff r d⟩

/-- A camp that is defined anew, and whose members join it; Ann does so
twice, and names a group that is not defined. -/
def camp : Yaml.Value :=
  .mapping [
    (.string "groups", .mapping [(.string "Camp", .null)]),
    (.string "users", .mapping [
      (.string "ann", .mapping [(.string "group",
        .sequence [.string "Camp", .string "Ghosts", .string "Camp"])]),
      (.string "bob", .mapping [(.string "group", .string "Camp")])])]

/-- What it declares. -/
def campDeclaration : Declaration where
  groups := [("Camp", ⟨∅, [], none, none⟩)]
  users := [⟨"ann", ["Camp", "Ghosts", "Camp"], {}⟩, ⟨"bob", ["Camp"], {}⟩]

/-- A roster with a camp and another group, of which Zoe is a member. -/
def earlierCamp : Roster where
  groups := .ofList [("Elders", { members := ["zoe"] }), ("Camp", { members := ["zoe"] })]

theorem names_earlierCamp : earlierCamp.groups.names = ["Elders", "Camp"] := by
  have hlist : (Table.ofList [("Elders", ({ members := ["zoe"] } : Group)),
      ("Camp", { members := ["zoe"] })]).toList =
      [("Elders", { members := ["zoe"] }), ("Camp", { members := ["zoe"] })] :=
    Table.toList_ofList (by decide)
  rw [Table.names, earlierCamp, hlist]
  rfl

/-- Ann is twice a member after the second load as after the first, and Zoe
none. -/
theorem camp_again :
    ∃ r' r'', load "camp.yml" camp earlierCamp = (.ok (), r') ∧
      load "camp.yml" camp r' = (.ok (), r'') ∧ r''.groups = r'.groups ∧
      (r''.groups.get? "Camp").map Group.members = some ["ann", "ann", "bob"] ∧
      r''.warnings = [.missingGroup "ann" "Ghosts", .missingGroup "ann" "Ghosts"] := by
  have hload : load "camp.yml" camp earlierCamp = (.ok (), earlierCamp.take campDeclaration) :=
    load_eq_ok_iff.2 ⟨campDeclaration, rfl, rfl⟩
  obtain ⟨d, r'', hd, hagain, -, hfirst, hsecond, hgroups⟩ := load_again hload
  obtain rfl : campDeclaration = d := Except.ok.inj hd
  have hsame : r''.groups = (earlierCamp.take campDeclaration).groups := by
    rw [hgroups, names_earlierCamp]
    decide
  refine ⟨_, r'', hload, hagain, hsame, ?_, ?_⟩
  · rw [hsame]
    exact members_take_of_mem (by decide)
  · rw [hsecond, hfirst, names_earlierCamp]
    decide

end Config.Pex

end PermScript
