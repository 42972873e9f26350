/-
What every roster has in common that documents can lead to.

Members and warnings name players of the roster, and no decoration is empty
text (`Roster.Coherent`). Groups are replaced, joined and warned about at
different moments of a load; each of the two steps that a load is made of
keeps the roster coherent (`Coherent.settle`, `Coherent.enrol`), whichever
document it belongs to.
-/
import PermScript.Proofs.History

namespace PermScript

open Config (Document)

/-! ## Decorations -/

/-- Decorations that are there are not empty. -/
structure Decorated (chatPrefix chatSuffix : Option String) : Prop where
  prefix_ne : chatPrefix ≠ some ""
  suffix_ne : chatSuffix ≠ some ""

namespace Config

theorem nonEmpty_ne (text : Option String) : nonEmpty text ≠ some "" := by
  intro h
  obtain ⟨-, hempty⟩ := Option.filter_eq_some_iff.1 h
  exact absurd hempty (by decide)

theorem decorated_nonEmpty (before after : Option String) :
    Decorated (nonEmpty before) (nonEmpty after) := ⟨nonEmpty_ne before, nonEmpty_ne after⟩

end Config

/-- All groups and players of a declaration are decorated. -/
structure Declaration.Decorated (d : Declaration) : Prop where
  groups : ∀ e ∈ d.groups, PermScript.Decorated e.2.chatPrefix e.2.chatSuffix
  users : ∀ u ∈ d.users, PermScript.Decorated u.player.chatPrefix u.player.chatSuffix

namespace Config

theorem Pex.decorated_declaration {label : String} {doc : Yaml.Value} {d : Declaration}
    (h : Pex.declaration label doc = .ok d) : d.Decorated := by
  obtain ⟨⟨ges, -, hgs⟩, ues, -, hus⟩ := Pex.declaration_eq_ok_iff.1 h
  constructor
  · refine forall_mem_of_mapM (fun e s hs => ?_) hgs
    obtain ⟨permissions, -, rfl⟩ := map_eq_ok.1 hs
    exact decorated_nonEmpty _ _
  · refine forall_mem_of_mapM (fun e u hu => ?_) hus
    obtain ⟨permissions, -, rfl⟩ := map_eq_ok.1 hu
    exact decorated_nonEmpty _ _

theorem BPerms.decorated_declaration {label : String} {doc : Yaml.Value} {d : Declaration}
    (h : BPerms.declaration label doc = .ok d) : d.Decorated := by
  obtain ⟨entries, -, rfl⟩ := map_eq_ok.1 h
  refine ⟨fun e he => ?_, fun u hu => absurd hu List.not_mem_nil⟩
  obtain ⟨entry, -, rfl⟩ := List.mem_map.1 he
  exact decorated_nonEmpty _ _

theorem Document.decorated_declaration {d : Document} {e : Declaration}
    (h : d.declaration = .ok e) : e.Decorated := by
  obtain ⟨dialect, label, value⟩ := d
  cases dialect with
  | pex => exact Pex.decorated_declaration h
  | bperms => exact BPerms.decorated_declaration h

end Config

/-! ## Coherent rosters -/

/-- Members and warnings name players, and no decoration is empty. -/
structure Roster.Coherent (r : Roster) : Prop where
  /-- A member of a group is a player of the roster. -/
  members : ∀ name g, r.groups.get? name = some g → ∀ m ∈ g.members, m ∈ r.players.names
  /-- A warning is of a missing group, and of a player of the roster. -/
  warnings : ∀ w ∈ r.warnings, ∃ player ∈ r.players.names, ∃ group, w = .missingGroup player group
  groups : ∀ name g, r.groups.get? name = some g → Decorated g.chatPrefix g.chatSuffix
  players : ∀ name p, r.players.get? name = some p → Decorated p.chatPrefix p.chatSuffix

namespace Roster.Coherent

theorem empty : Coherent ∅ where
  members name _ h := nomatch (Table.get?_empty name).symm.trans h
  warnings _ h := absurd h List.not_mem_nil
  groups name _ h := nomatch (Table.get?_empty name).symm.trans h
  players name _ h := nomatch (Table.get?_empty name).symm.trans h

variable {r : Roster}

/-- A group put in has no members, whatever the one it replaces had. -/
theorem settle (h : r.Coherent) {e : String × Settings}
    (he : Decorated e.2.chatPrefix e.2.chatSuffix) : (r.settle e).Coherent where
  members name g hg := by
    rw [Roster.settle, Table.get?_insert] at hg
    split at hg
    · cases hg
      exact List.forall_mem_nil _
    · exact h.members name g hg
  warnings := h.warnings
  groups name g hg := by
    rw [Roster.settle, Table.get?_insert] at hg
    split at hg
    · cases hg
      exact he
    · exact h.groups name g hg
  players := h.players

/-- A user joins groups and is warned about before becoming a player, but
all of it in one step. -/
theorem enrol (h : r.Coherent) {u : UserEntry}
    (hu : Decorated u.player.chatPrefix u.player.chatSuffix) : (r.enrol u).Coherent := by
  have hself : u.name ∈ (r.enrol u).players.names := Table.mem_names_insert _ _ _
  have hkept : ∀ name ∈ r.players.names, name ∈ (r.enrol u).players.names := by
    intro name hname
    rw [Roster.enrol, Table.names_insert]
    split
    · exact hname
    · exact List.mem_append_left _ hname
  refine ⟨fun name g hg m hm => ?_, fun w hw => ?_, fun name g hg => ?_, fun name p hp => ?_⟩
  · rw [Roster.enrol, get?_link, Option.map_eq_some_iff] at hg
    obtain ⟨g, hold, rfl⟩ := hg
    rcases List.mem_append.1 hm with hm | hm
    · exact hkept m (h.members name g hold m hm)
    · rw [List.eq_of_mem_replicate hm]
      exact hself
  · rw [Roster.enrol, warnings_link] at hw
    rcases List.mem_append.1 hw with hw | hw
    · obtain ⟨player, hplayer, group, rfl⟩ := h.warnings w hw
      exact ⟨player, hkept player hplayer, group, rfl⟩
    · obtain ⟨group, -, rfl⟩ := List.mem_map.1 hw
      exact ⟨u.name, hself, group, rfl⟩
  · rw [Roster.enrol, get?_link, Option.map_eq_some_iff] at hg
    obtain ⟨g, hold, rfl⟩ := hg
    exact h.groups name g hold
  · rw [Roster.enrol, Table.get?_insert] at hp
    split at hp
    · cases hp
      exact hu
    · exact h.players name p hp

theorem take (h : r.Coherent) {d : Declaration} (hd : d.Decorated) : (r.take d).Coherent := by
  have hdefined : (r.define d.groups).Coherent := by
    rw [Roster.define_eq_foldl]
    exact List.foldlRecOn d.groups Roster.settle h fun r hr e he => hr.settle (hd.groups e he)
  exact List.foldlRecOn d.users Roster.enrol hdefined fun r hr u hu => hr.enrol (hd.users u hu)

end Roster.Coherent

/-! ## Rosters that documents lead to -/

/-- A roster that documents lead to from the empty one is coherent, in
whatever layouts they are and however often they define a group anew. -/
theorem coherent_of_loadAll {docs : List Document} {r : Roster}
    (h : loadAll docs ∅ = (.ok (), r)) : r.Coherent := by
  obtain ⟨ds, hds, rfl⟩ := loadAll_eq_foldl_take.1 h
  have hdecorated : ∀ d ∈ ds, d.Decorated :=
    forall_mem_of_mapM (fun doc d hd => Document.decorated_declaration hd) hds
  exact List.foldlRecOn ds Roster.take Roster.Coherent.empty
    fun r hr d hd => hr.take (hdecorated d hd)

/-- Alice joins a group that a second document defines anew, in the other
layout, and that Bob joins in a third. -/
def handover : List Document :=
  [⟨.pex, "first.yml", .mapping [
      (.string "groups", .mapping [(.string "Staff", .mapping [
        (.string "prefix", .string "[S]")])]),
      (.string "users", .mapping [(.string "alice", .mapping [(.string "group",
        .sequence [.string "Staff", .string "Ghosts"])])])]⟩,
    ⟨.bperms, "second.yml", .mapping [(.string "groups", .mapping [(.string "Staff",
      .mapping [(.string "meta", .mapping [(.string "suffix", .string "")])])])]⟩,
    ⟨.pex, "third.yml", .mapping [(.string "users", .mapping [(.string "bob",
      .mapping [(.string "group", .string "Staff")])])]⟩]

/-- What the three documents declare. -/
def handoverDeclarations : List Declaration :=
  [{ groups := [("Staff", ⟨∅, [], some "[S]", none⟩)]
     users := [⟨"alice", ["Staff", "Ghosts"], {}⟩] },
    { groups := [("Staff", ⟨∅, [], none, none⟩)] },
    { users := [⟨"bob", ["Staff"], {}⟩] }]

/-- Alice is no member of the new group but still a player, and so the one
that the warning names. -/
theorem coherent_handover :
    ∃ r, loadAll handover ∅ = (.ok (), r) ∧
      (r.groups.get? "Staff").map Group.members = some ["bob"] ∧
      r.warnings = [.missingGroup "alice" "Ghosts"] ∧ r.players.names = ["alice", "bob"] ∧
      r.Coherent := by
  have hload : loadAll handover ∅ = (.ok (), handoverDeclarations.foldl Roster.take ∅) :=
    loadAll_eq_foldl_take.2 ⟨handoverDeclarations, rfl, rfl⟩
  have hchronicle := Chronicle.foldl_take handoverDeclarations
  refine ⟨_, hload, ?_, hchronicle.warnings.trans (by decide),
    hchronicle.playerNames.trans (by decide), coherent_of_loadAll hload⟩
  exact hchronicle.members (handoverDeclarations.take 1) _ (handoverDeclarations.drop 2) "Staff" rfl
    (by decide) (by decide)

end PermScript
