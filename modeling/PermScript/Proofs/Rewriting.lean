/-
Ways to write a document that make no difference to what it loads.

The bodies of a document can be rewritten, and so can those of the worlds
inside them; its sections can stand in any order, beside entries that are no
sections (`Rewriting`). A body that is rewritten declares the same as before
(`EntityBody.Alike`), so the document does, and `load_rewritten` follows for
any number of rewritings in either direction.
-/
import Mathlib.Logic.Relation
import PermScript.Proofs.Bodies
import PermScript.Proofs.History

namespace PermScript.Config.Pex

open Yaml (Value)

/-! ## Rewritings -/

/-- The fields of a world. -/
def worldLayout : Layout := fun name => if name == "permissions" then some .strings else none

/-- The fields of a group or a user, where `groupsField` names its groups. -/
def entityLayout (groupsField : String) : Layout := fun name =>
  if name == "permissions" then some .strings
  else if name == "worlds" then some .worlds
  else if name == groupsField then some .strings
  else if name == "prefix" then some .text
  else if name == "suffix" then some .text
  else none

/-- One rewriting of the body of a world, which holds no worlds. -/
def WorldRewriting : Value → Value → Prop := BodyRewriting worldLayout fun _ _ => False

/-- One rewriting of the body of a group or a user. -/
def EntityRewriting (groupsField : String) : Value → Value → Prop :=
  BodyRewriting (entityLayout groupsField) (ListingRewriting WorldRewriting)

/-- One rewriting of a document. -/
inductive Rewriting : Value → Value → Prop
  | tagged {tag : String} {v v' : Value} (h : Rewriting v v') :
      Rewriting (.tagged tag v) (.tagged tag v')
  /-- Two neighbours change places, unless they have the same string as key. -/
  | moved {before after : List (Value × Value)} {x y : Value × Value}
      (h : ∀ s, x.1.text? = some s → y.1.text? ≠ some s) :
      Rewriting (.mapping (before ++ x :: y :: after)) (.mapping (before ++ y :: x :: after))
  /-- An entry that is not one of the sections. -/
  | unknown {before after : List (Value × Value)} {x : Value × Value}
      (hgroups : x.1.text? ≠ some "groups") (husers : x.1.text? ≠ some "users") :
      Rewriting (.mapping (before ++ after)) (.mapping (before ++ x :: after))
  | groups {before after : List (Value × Value)} {v v' : Value}
      (h : ListingRewriting (EntityRewriting "inheritance") v v') :
      Rewriting (.mapping (before ++ (.string "groups", v) :: after))
        (.mapping (before ++ (.string "groups", v') :: after))
  | users {before after : List (Value × Value)} {v v' : Value}
      (h : ListingRewriting (EntityRewriting "group") v v') :
      Rewriting (.mapping (before ++ (.string "users", v) :: after))
        (.mapping (before ++ (.string "users", v') :: after))

/-! ## Worlds -/

/-- The bodies have the same statements. -/
def WorldBody.Alike (b b' : WorldBody) : Prop :=
  b.permissions.getD [] = b'.permissions.getD []

theorem WorldBody.Alike.refl (b : WorldBody) : b.Alike b := rfl

/-- The fields of a world. -/
def worldSlots : List (Slot WorldBody) :=
  [.strings "permissions" fun x b => { b with permissions := x }]

theorem tabulated_world : Tabulated worldSlots worldLayout worldField where
  find name := by
    by_cases hname : name = "permissions"
    · subst hname
      exact ⟨rfl, rfl⟩
    · simp [worldLayout, worldField, worldSlots, hname]
  commute := List.pairwise_singleton _ _

theorem fits_world : ∀ s ∈ worldSlots, s.Fits (fun _ _ => False) {} WorldBody.Alike := by
  rw [worldSlots, List.forall_mem_singleton]
  exact Slot.fits_strings (fun _ _ _ _ => rfl) fun _ hx => hx.symm

theorem agree_readWorld {v v' : Value} (h : WorldRewriting v v') :
    Agree WorldBody.Alike (readWorld v) (readWorld v') :=
  tabulated_world.agree_readBody fits_world .refl "WorldDef" h

/-- Rewritten worlds have bodies that are alike. -/
theorem listingsAgree_world {v v' : Value} (h : ListingRewriting WorldRewriting v v') :
    ListingsAgree readWorld {} WorldBody.Alike v v' :=
  listingsAgree (fun _ => readBody_of_isNull "WorldDef" worldField {}) .refl
    (fun _ _ => agree_readWorld) h

/-! ## Groups and users -/

/-- The bodies declare the same. -/
structure EntityBody.Alike (b b' : EntityBody) : Prop where
  permissions : b.permissions.getD [] = b'.permissions.getD []
  worlds : ∀ label, Agree Eq (b.worldStatements label) (b'.worldStatements label)
  groups : b.groupNames = b'.groupNames
  chatPrefix : nonEmpty b.chatPrefix = nonEmpty b'.chatPrefix
  chatSuffix : nonEmpty b.chatSuffix = nonEmpty b'.chatSuffix

theorem EntityBody.Alike.refl (b : EntityBody) : b.Alike b :=
  ⟨rfl, fun _ => .refl (fun _ => rfl) _, rfl, rfl, rfl⟩

/-- The fields of a group or a user. -/
def entitySlots (groupsField : String) : List (Slot EntityBody) :=
  [.strings "permissions" fun x b => { b with permissions := x },
    .worlds fun x b => { b with worlds := x },
    .strings groupsField fun x b => { b with groups := x },
    .text "prefix" fun x b => { b with chatPrefix := x },
    .text "suffix" fun x b => { b with chatSuffix := x }]

theorem tabulated_entity (groupsField : String) :
    Tabulated (entitySlots groupsField) (entityLayout groupsField) (entityField groupsField) where
  find name := by
    simp only [entityLayout, entityField, entitySlots, List.find?_cons, Slot.name_strings,
      Slot.name_text, Slot.name_worlds]
    cases name == "permissions" with
    | true => exact ⟨rfl, rfl⟩
    | false =>
      cases name == "worlds" with
      | true => exact ⟨rfl, rfl⟩
      | false =>
        cases name == groupsField with
        | true => exact ⟨rfl, rfl⟩
        | false =>
          cases name == "prefix" with
          | true => exact ⟨rfl, rfl⟩
          | false => cases name == "suffix" <;> exact ⟨rfl, rfl⟩
  commute := by
    simp only [entitySlots, List.pairwise_cons, List.forall_mem_cons, List.not_mem_nil,
      false_imp_iff, implies_true, List.Pairwise.nil, and_true]
    and_intros <;> exact Slot.commute_ofPut fun _ _ _ => rfl

/-- Worlds that are rewritten have the same statements. -/
theorem fits_worlds : (Slot.worlds fun x (b : EntityBody) => { b with worlds := x }).Fits
    (ListingRewriting WorldRewriting) {} EntityBody.Alike where
  respects := Slot.respects_ofPut "worlds" .worlds _ fun _ _ _ h =>
    { h with worlds := fun _ => .refl (fun _ => rfl) _ }
  ofBlank v hv := by
    cases hv with
    | null => exact .ok (.refl _)
  bare h := nomatch h
  inner _ v v' b hv := by
    obtain ⟨entries, entries', hentries, hentries', hagree⟩ := listingsAgree_world hv
    simp only [Slot.worlds, Slot.ofPut, optional_readMapping hentries,
      optional_readMapping hentries']
    refine .ok ⟨rfl, fun label => ?_, rfl, rfl, rfl⟩
    refine (hagree label "worlds").map fun worlds worlds' h => ?_
    exact map_eq_map_of_forall₂ (fun w w' hw => Prod.ext hw.1 hw.2) h

theorem fits_entity (groupsField : String) : ∀ s ∈ entitySlots groupsField,
    s.Fits (ListingRewriting WorldRewriting) {} EntityBody.Alike := by
  simp only [entitySlots, List.forall_mem_cons, List.not_mem_nil, false_imp_iff, implies_true,
    and_true]
  refine ⟨?_, fits_worlds, ?_, ?_, ?_⟩
  · exact Slot.fits_strings (fun _ _ _ h => { h with permissions := rfl })
      fun _ hx => { EntityBody.Alike.refl {} with permissions := hx.symm }
  · exact Slot.fits_strings (fun _ _ _ h => { h with groups := rfl })
      fun _ hx => { EntityBody.Alike.refl {} with groups := hx.symm }
  · exact Slot.fits_text (fun _ _ _ h => { h with chatPrefix := rfl })
      fun _ hx => { EntityBody.Alike.refl {} with chatPrefix := hx.symm }
  · exact Slot.fits_text (fun _ _ _ h => { h with chatSuffix := rfl })
      fun _ hx => { EntityBody.Alike.refl {} with chatSuffix := hx.symm }

theorem agree_readEntity (name : String) {groupsField : String} {v v' : Value}
    (h : EntityRewriting groupsField v v') :
    Agree EntityBody.Alike (readBody name (entityField groupsField) {} v)
      (readBody name (entityField groupsField) {} v') :=
  (tabulated_entity groupsField).agree_readBody (fits_entity groupsField) .refl name h

/-- Rewritten sections have bodies that are alike. -/
theorem listingsAgree_entity (name : String) {groupsField : String} {v v' : Value}
    (h : ListingRewriting (EntityRewriting groupsField) v v') :
    ListingsAgree (readBody name (entityField groupsField) {}) {} EntityBody.Alike v v' :=
  listingsAgree (fun _ => readBody_of_isNull name (entityField groupsField) {}) .refl
    (fun _ _ => agree_readEntity name) h

/-! ## Documents -/

theorem agree_permissionSet {b b' : EntityBody} (h : b.Alike b') (label : String) :
    Agree Eq (b.permissionSet label) (b'.permissionSet label) := by
  rw [EntityBody.permissionSet, EntityBody.permissionSet, h.permissions]
  refine (h.worlds label).map fun worlds worlds' hworlds => ?_
  rw [hworlds]

theorem agree_settings (label : String) {e e' : String × EntityBody}
    (h : NamedAlike EntityBody.Alike e e') : Agree Eq (settings label e) (settings label e') := by
  refine (agree_permissionSet h.2 label).map fun p p' hp => ?_
  rw [h.1, hp, h.2.groups, h.2.chatPrefix, h.2.chatSuffix]

theorem agree_userEntry (label : String) {e e' : String × EntityBody}
    (h : NamedAlike EntityBody.Alike e e') : Agree Eq (userEntry label e) (userEntry label e') := by
  refine (agree_permissionSet h.2 label).map fun p p' hp => ?_
  rw [h.1, hp, h.2.groups, EntityBody.player, EntityBody.player, h.2.chatPrefix, h.2.chatSuffix]

/-- The sections of a rewritten document have bodies that are alike. -/
theorem Rewriting.agree_sections {doc doc' : Value} (h : Rewriting doc doc') (label : String) :
    Agree (List.Forall₂ (NamedAlike EntityBody.Alike))
        (sectionEntries label "groups" readGroup {} doc)
        (sectionEntries label "groups" readGroup {} doc') ∧
      Agree (List.Forall₂ (NamedAlike EntityBody.Alike))
        (sectionEntries label "users" readUser {} doc)
        (sectionEntries label "users" readUser {} doc') := by
  induction h with
  | tagged _ ih => exact ih
  | moved h =>
    exact ⟨agree_of_get?_eq .refl (get?_moved h) label,
      agree_of_get?_eq .refl (get?_moved h) label⟩
  | unknown hgroups husers =>
    exact ⟨agree_of_get?_eq .refl (get?_unknown hgroups) label,
      agree_of_get?_eq .refl (get?_unknown husers) label⟩
  | groups h =>
    exact ⟨agree_section .refl (fun _ => listingsAgree_entity "GroupDef" h) label,
      agree_section .refl (fun hkey => by simp at hkey) label⟩
  | users h =>
    exact ⟨agree_section .refl (fun hkey => by simp at hkey) label,
      agree_section .refl (fun _ => listingsAgree_entity "UserDef" h) label⟩

/-- A rewritten document declares the same. -/
theorem Rewriting.agree_declaration {doc doc' : Value} (h : Rewriting doc doc') (label : String) :
    Agree Eq (declaration label doc) (declaration label doc') := by
  obtain ⟨hgroups, husers⟩ := h.agree_sections label
  have hgs : Agree Eq (declaredGroups label doc) (declaredGroups label doc') := by
    refine hgroups.bind fun es es' hes => ?_
    exact Agree.mapM_eq hes fun _ _ he => agree_settings label he
  have hus : Agree Eq (declaredUsers label doc) (declaredUsers label doc') := by
    refine husers.bind fun es es' hes => ?_
    exact Agree.mapM_eq hes fun _ _ he => agree_userEntry label he
  rw [declaration_eq_bind, declaration_eq_bind]
  refine hgs.bind fun gs gs' hg => hus.bind fun us us' hu => ?_
  rw [hg, hu]
  exact .ok rfl

/-- Rewritings, however many and in either direction, leave what a document
loads as it is: the one loads if the other does, with the same result. -/
theorem load_rewritten {label : String} {doc doc' : Value} {r r' : Roster}
    (h : Relation.EqvGen Rewriting doc doc') :
    load label doc r = (.ok (), r') ↔ load label doc' r = (.ok (), r') := by
  induction h with
  | rel doc doc' h =>
    rw [load_eq_ok_iff, load_eq_ok_iff]
    simp only [Agree.eq_iff.1 (h.agree_declaration label)]
  | refl doc => rfl
  | symm doc doc' _ ih => exact ih.symm
  | trans doc doc' doc'' _ _ ih ih' => exact ih.trans ih'

/-- A camp with one member, in few words. -/
def shortCamp : Value :=
  .mapping [
    (.string "groups", .mapping [
      (.string "Camp", .mapping [(.string "worlds", .mapping [(.string "nether", .null)])])]),
    (.string "users", .mapping [
      (.string "ann", .mapping [(.string "group", .string "Camp")])])]

/-- The same camp in more words. -/
def longCamp : Value :=
  .mapping [
    (.string "users", .mapping [
      (.string "ann", .mapping [(.string "group", .sequence [.string "Camp"])])]),
    (.string "groups", .mapping [
      (.string "Camp", .mapping [
        (.string "worlds", .mapping [
          (.string "nether", .mapping [(.string "permissions", .null)])])])])]

theorem rewriting_camp : Relation.EqvGen Rewriting shortCamp longCamp := by
  have hnull : WorldRewriting .null (.mapping []) := .null
  have hblank : WorldRewriting (.mapping []) (.mapping [(.string "permissions", .null)]) :=
    .blank rfl rfl .null (by simp)
  have hbare : EntityRewriting "group" (.mapping [(.string "group", .string "Camp")])
      (.mapping [(.string "group", .sequence [.string "Camp"])]) := .bare rfl rfl
  have hworlds {v v' : Value} (h : WorldRewriting v v') : EntityRewriting "inheritance"
      (.mapping [(.string "worlds", .mapping [(.string "nether", v)])])
      (.mapping [(.string "worlds", .mapping [(.string "nether", v')])]) :=
    .worlds rfl rfl (@ListingRewriting.entry _ [] [] _ _ _ h)
  refine .trans _ _ _ (.rel _ _ (@Rewriting.groups [] _ _ _
    (@ListingRewriting.entry _ [] [] _ _ _ (hworlds hnull)))) ?_
  refine .trans _ _ _ (.rel _ _ (@Rewriting.groups [] _ _ _
    (@ListingRewriting.entry _ [] [] _ _ _ (hworlds hblank)))) ?_
  refine .trans _ _ _ (.rel _ _ (@Rewriting.moved [] [] _ _ (by simp [Value.text?]))) ?_
  exact .rel _ _ (@Rewriting.users [] _ _ _ (@ListingRewriting.entry _ [] [] _ _ _ hbare))

/-- Ann is a member of the camp after the one as after the other. -/
theorem camp_rewritten :
    Relation.EqvGen Rewriting shortCamp longCamp ∧
      ∃ r, load "camp.yml" shortCamp ∅ = (.ok (), r) ∧ load "camp.yml" longCamp ∅ = (.ok (), r) ∧
        (r.groups.get? "Camp").map Group.members = some ["ann"] := by
  have hdeclared : ∃ d, declaration "camp.yml" shortCamp = .ok d ∧ d.groupNames = ["Camp"] ∧
      joined d.users "Camp" = ["ann"] := ⟨_, rfl, rfl, rfl⟩
  obtain ⟨d, hd, hgroups, hjoined⟩ := hdeclared
  have hshort : load "camp.yml" shortCamp ∅ = (.ok (), Roster.take ∅ d) :=
    load_eq_ok_iff.2 ⟨d, hd, rfl⟩
  have hlong := (load_rewritten rewriting_camp).1 hshort
  refine ⟨rewriting_camp, _, hshort, hlong, ?_⟩
  rw [members_take_of_mem (by simp [hgroups]), hjoined]

end PermScript.Config.Pex
