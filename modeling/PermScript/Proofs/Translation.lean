/-
A document with groups alone, in the layout with groups and users.

Where no statement means something else there (`Neutral`), a document can be
translated: a dash for the caret of a statement, other names for its fields,
and the fields of the decoration put into the body itself. Reading what takes
the place of a field keeps step with reading the field (`translateField_step`),
so a translated body is read as the `mirror` of the body. The two declare the
same group, and so the two documents load alike.
-/
import Mathlib.Data.List.Nodup
import PermScript.Proofs.Bodies
import PermScript.Proofs.Pattern

namespace PermScript.Config

open Yaml (Value)

/-! ## Records -/

/-- The entries of a mapping with these fields. -/
def record (fields : List (String × Value)) : List (Value × Value) :=
  fields.map fun f => (.string f.1, f.2)

/-- The fields of a mapping whose keys are names. -/
def namedFields (entries : List (Value × Value)) : List (String × Value) :=
  entries.filterMap fun e => e.1.text?.map fun name => (name, e.2)

theorem namedFields_record (fields : List (String × Value)) :
    namedFields (record fields) = fields := by
  rw [namedFields, record, List.filterMap_map]
  exact List.filterMap_some

/-- Takes one field into a body, whatever was taken in before. -/
def takeField {β : Type} (field : FieldReader β) (b : β) (f : String × Value) :
    Except ShapeError β :=
  match field f.1 with
  | none => .ok b
  | some read => read f.2 b

/-- Fields of different names are taken in one after the other. -/
theorem readFields_record {β : Type} {field : FieldReader β} {fields : List (String × Value)}
    {done : List String} (hnodup : (fields.map Prod.fst).Nodup) (hdone : ∀ f ∈ fields, f.1 ∉ done)
    (b : β) : readFields field done b (record fields) = fields.foldlM (takeField field) b := by
  induction fields generalizing done b with
  | nil => rfl
  | cons f fields ih =>
    obtain ⟨hf, hnodup⟩ := List.nodup_cons.1 hnodup
    have hrest : ∀ g ∈ fields, g.1 ∉ done := fun g hg => hdone g (List.mem_cons_of_mem f hg)
    rw [record, List.map_cons, readFields_cons_of_name rfl, List.foldlM_cons, takeField]
    cases hread : field f.1 with
    | none => exact ih hnodup hrest b
    | some read =>
      simp only [if_neg (hdone f List.mem_cons_self)]
      refine bind_congr fun c => ih hnodup (fun g hg => ?_) c
      rw [List.mem_cons, not_or]
      exact ⟨fun hgf => hf (hgf ▸ List.mem_map_of_mem hg), hrest g hg⟩

theorem readBody_record {β : Type} (name : String) (field : FieldReader β) (blank : β)
    {fields : List (String × Value)} (hnodup : (fields.map Prod.fst).Nodup) :
    readBody name field blank (.mapping (record fields)) =
      fields.foldlM (takeField field) blank :=
  readFields_record hnodup (by simp) blank

/-- Two runs keep step: where the one takes an item, the other takes what
stands in its place, and ends in the image of where the one ends. `Inv` may
speak of the items that still come. -/
theorem foldlM_simulation {ε α β γ δ : Type} {take : β → α → Except ε β}
    {take' : γ → δ → Except ε γ} {replace : α → List δ} (image : β → γ)
    (Inv : List α → β → Prop)
    (step : ∀ a as b, Inv (a :: as) b → ∃ c, take b a = .ok c ∧
      (replace a).foldlM take' (image b) = .ok (image c) ∧ Inv as c)
    {as : List α} {b : β} (h : Inv as b) :
    ∃ c, as.foldlM take b = .ok c ∧
      (as.flatMap replace).foldlM take' (image b) = .ok (image c) ∧ Inv [] c := by
  induction as generalizing b with
  | nil => exact ⟨b, rfl, rfl, h⟩
  | cons a as ih =>
    obtain ⟨c, htake, hreplaced, hc⟩ := step a as b h
    obtain ⟨d, hrest, hrestReplaced, hd⟩ := ih hc
    refine ⟨d, ?_, ?_, hd⟩
    · rw [List.foldlM_cons, htake]
      exact hrest
    · rw [List.flatMap_cons, List.foldlM_append, hreplaced]
      exact hrestReplaced

/-- A text, or nothing. -/
inductive TextValue : Value → Prop
  | null : TextValue .null
  | string (text : String) : TextValue (.string text)

/-- A list of texts that have a property, or nothing. -/
inductive ListValue (P : String → Prop) : Value → Prop
  | null : ListValue P .null
  | strings {texts : List String} (h : ∀ text ∈ texts, P text) :
      ListValue P (.sequence (texts.map .string))

theorem exists_readString {v : Value} (h : TextValue v) : ∃ t, optional readString v = .ok t := by
  cases h with
  | null => exact ⟨none, rfl⟩
  | string text => exact ⟨some text, rfl⟩

theorem readStrings_strings (texts : List String) :
    optional readStrings (.sequence (texts.map .string)) = .ok (some texts) := by
  have hitems : (texts.map Value.string).mapM readString = .ok texts := by
    rw [List.mapM_map]
    exact List.mapM_pure.trans (by rw [List.map_id']; rfl)
  simp only [optional, readStrings, Value.untag, hitems]
  rfl

theorem readOneOrMany_strings (texts : List String) :
    optional readOneOrMany (.sequence (texts.map .string)) = .ok (some texts) := by
  have htags : Value.itemsHaveTag (texts.map .string) = false := by
    induction texts with
    | nil => rfl
    | cons text texts ih =>
      rw [List.map_cons, Value.itemsHaveTag, ih]
      rfl
  have hitems : (texts.map Value.string).mapM Value.text? = some texts := by
    rw [List.mapM_map]
    exact List.mapM_pure.trans (by rw [List.map_id']; rfl)
  simp only [optional, readOneOrMany, Value.hasTag, htags, hitems]
  rfl

/-! ## Statements -/

/-- The statement with a dash for the caret it may begin with. -/
def dashed (statement : String) : String :=
  match statement.toList with
  | '^' :: pattern => String.ofList ('-' :: pattern)
  | _ => statement

/-- With a dash for its caret the statement has no other meaning: it does not
begin with a dash already, and its pattern has no group. -/
structure Neutral (statement : String) : Prop where
  dashless : statement.toList.head? ≠ some '-'
  groupless : ∀ g : Grouped, ¬ g.Matches (BPerms.rules.split statement).2.toList

theorem neutral_iff {statement : String} :
    Neutral statement ↔ statement.toList.head? ≠ some '-' ∧
      lastGroup? (BPerms.rules.split statement).2.toList = none :=
  ⟨fun h => ⟨h.dashless, lastGroup?_eq_none.2 h.groupless⟩,
    fun h => ⟨h.1, lastGroup?_eq_none.1 h.2⟩⟩

instance : DecidablePred Neutral := fun _ => decidable_of_iff _ neutral_iff.symm

theorem split_dashed {statement : String} (h : statement.toList.head? ≠ some '-') :
    Pex.rules.split (dashed statement) = BPerms.rules.split statement := by
  rw [dashed]
  split
  · rename_i pattern hlist
    simp [PatternRules.split, hlist, Pex.rules, BPerms.rules]
  · rename_i hne
    rw [PatternRules.split, PatternRules.split]
    cases hlist : statement.toList with
    | nil => rfl
    | cons c cs =>
      have hdash : c ≠ '-' := fun hc => h (by rw [hlist, hc]; rfl)
      have hcaret : c ≠ '^' := fun hc => hne cs (hc ▸ hlist)
      exact (if_neg hdash).trans (if_neg hcaret).symm

theorem statementEntries_dashed {statement : String} (h : Neutral statement) :
    statementEntries Pex.rules none (dashed statement) =
      statementEntries BPerms.rules none statement := by
  have hexpand : Pex.rules.literals (BPerms.rules.split statement).2 =
      BPerms.rules.literals (BPerms.rules.split statement).2 := by
    change expand (BPerms.rules.split statement).2 = [(BPerms.rules.split statement).2]
    rw [expand, lastGroup?_eq_none.2 h.groupless]
  simp only [statementEntries, split_dashed h.dashless, hexpand]

theorem ofStatements_dashed {statements : List String} (h : ∀ s ∈ statements, Neutral s) :
    PermissionSet.ofStatements Pex.rules none (statements.map dashed) =
      PermissionSet.ofStatements BPerms.rules none statements := by
  rw [PermissionSet.ofStatements, PermissionSet.ofStatements, List.flatMap_map]
  congr 1
  exact List.flatMap_congr fun s hs => statementEntries_dashed (h s hs)

/-- The list with a dash for each caret. -/
def dashedList : Value → Value
  | .sequence items =>
    .sequence (items.map fun
      | .string s => .string (dashed s)
      | item => item)
  | v => v

/-- What is read from a list of texts, in either layout, with or without
dashes. -/
theorem exists_readTexts {P : String → Prop} {v : Value} (h : ListValue P v) :
    ∃ texts, optional readStrings v = .ok texts ∧ optional readOneOrMany v = .ok texts ∧
      optional readOneOrMany (dashedList v) = .ok (texts.map (·.map dashed)) ∧
      ∀ text ∈ texts.getD [], P text := by
  cases h with
  | null => exact ⟨none, rfl, rfl, rfl, by simp⟩
  | @strings texts h =>
    refine ⟨some texts, readStrings_strings texts, readOneOrMany_strings texts, ?_, h⟩
    rw [dashedList, List.map_map, Option.map_some, ← readOneOrMany_strings, List.map_map]
    rfl

/-! ## Bodies -/

/-- The fields of a decoration. -/
inductive DecorationField : String × Value → Prop
  | before {v : Value} (h : TextValue v) : DecorationField ("prefix", v)
  | after {v : Value} (h : TextValue v) : DecorationField ("suffix", v)
  | unknown {name : String} (v : Value) (hbefore : name ≠ "prefix") (hafter : name ≠ "suffix") :
      DecorationField (name, v)

/-- A decoration, or none; as in any mapping, no field comes twice. -/
inductive DecorationValue : Value → Prop
  | null : DecorationValue .null
  | mapping {fields : List (String × Value)} (hnodup : (fields.map Prod.fst).Nodup)
      (h : ∀ f ∈ fields, DecorationField f) : DecorationValue (.mapping (record fields))

/-- The fields of a group. -/
inductive GroupField : String × Value → Prop
  | permissions {v : Value} (h : ListValue Neutral v) : GroupField ("permissions", v)
  | groups {v : Value} (h : ListValue (fun _ => True) v) : GroupField ("groups", v)
  | decoration {v : Value} (h : DecorationValue v) : GroupField ("meta", v)
  | unknown {name : String} (v : Value) (hpermissions : name ≠ "permissions")
      (hgroups : name ≠ "groups") (hmeta : name ≠ "meta") : GroupField (name, v)

/-- The body of a group, or none; as in any mapping, no field comes twice. -/
inductive GroupValue : Value → Prop
  | null : GroupValue .null
  | mapping {fields : List (String × Value)} (hnodup : (fields.map Prod.fst).Nodup)
      (h : ∀ f ∈ fields, GroupField f) : GroupValue (.mapping (record fields))

/-- Whether a field of a decoration has a place in the other layout. -/
def isLifted (f : String × Value) : Bool := f.1 = "prefix" ∨ f.1 = "suffix"

/-- The fields of a decoration, lifted out of it. -/
def liftDecoration : Value → List (String × Value)
  | .mapping entries => (namedFields entries).filter isLifted
  | _ => []

/-- The fields that take the place of a field. -/
def translateField (f : String × Value) : List (String × Value) :=
  if f.1 = "permissions" then [("permissions", dashedList f.2)]
  else if f.1 = "groups" then [("inheritance", f.2)]
  else if f.1 = "meta" then liftDecoration f.2
  else []

/-- The body of a group in the other layout. -/
def translateBody : Value → Value
  | .mapping entries => .mapping (record ((namedFields entries).flatMap translateField))
  | v => v

/-- The field that a field of the translated body takes the place of. -/
def origin (name : String) : String :=
  if name = "inheritance" then "groups"
  else if name = "prefix" ∨ name = "suffix" then "meta"
  else name

theorem origin_translateField {f g : String × Value} (h : g ∈ translateField f) :
    origin g.1 = f.1 := by
  rw [translateField] at h
  split_ifs at h with hpermissions hgroups hmeta
  · rw [List.mem_singleton.1 h, hpermissions]
    rfl
  · rw [List.mem_singleton.1 h, hgroups]
    rfl
  · unfold liftDecoration at h
    split at h
    · have hname := (List.mem_filter.1 h).2
      rw [isLifted, decide_eq_true_eq] at hname
      rcases hname with hname | hname <;> rw [hname, hmeta] <;> rfl
    · cases h
  · cases h

theorem nodup_translateField {f : String × Value} (h : GroupField f) :
    ((translateField f).map Prod.fst).Nodup := by
  cases h with
  | permissions => exact List.nodup_singleton _
  | groups => exact List.nodup_singleton _
  | decoration h =>
    cases h with
    | null => exact List.nodup_nil
    | @mapping fields hnodup =>
      have hlift : translateField ("meta", .mapping (record fields)) =
          fields.filter isLifted := by
        simp [translateField, liftDecoration, namedFields_record]
      rw [hlift]
      exact hnodup.sublist (List.filter_sublist.map _)
  | @unknown name v hpermissions hgroups hmeta =>
    have hnone : translateField (name, v) = [] := by
      simp [translateField, hpermissions, hgroups, hmeta]
    rw [hnone]
    exact List.nodup_nil

theorem nodup_translated {fields : List (String × Value)} (hnodup : (fields.map Prod.fst).Nodup)
    (h : ∀ f ∈ fields, GroupField f) : ((fields.flatMap translateField).map Prod.fst).Nodup := by
  rw [List.map_flatMap, List.nodup_flatMap]
  refine ⟨fun f hf => nodup_translateField (h f hf), ?_⟩
  refine (List.pairwise_map.1 hnodup).imp fun {f g} hne name hf hg => hne ?_
  obtain ⟨f', hf', rfl⟩ := List.mem_map.1 hf
  obtain ⟨g', hg', hname⟩ := List.mem_map.1 hg
  rw [← origin_translateField hf', ← hname, origin_translateField hg']

/-- Puts a decoration into a body. -/
def decorate (b : Pex.EntityBody) (m : BPerms.MetaBody) : Pex.EntityBody :=
  { b with chatPrefix := m.chatPrefix, chatSuffix := m.chatSuffix }

/-- What is read of a body in the other layout. -/
def mirror (b : BPerms.GroupBody) : Pex.EntityBody :=
  decorate { permissions := b.permissions.map (·.map dashed), groups := b.groups }
    (b.decoration.getD {})

/-- The statements of the body are neutral. -/
def NeutralBody (b : BPerms.GroupBody) : Prop := ∀ s ∈ b.permissions.getD [], Neutral s

/-- A field of a decoration can be read into the decoration or into the body. -/
theorem decorationField_step {f : String × Value} (h : DecorationField f) (b : Pex.EntityBody)
    (m : BPerms.MetaBody) :
    ∃ m', takeField BPerms.metaField m f = .ok m' ∧
      ([f].filter isLifted).foldlM (takeField (Pex.entityField "inheritance")) (decorate b m) =
        .ok (decorate b m') := by
  cases h with
  | before hv =>
    obtain ⟨text, htext⟩ := exists_readString hv
    refine ⟨{ m with chatPrefix := text }, ?_, ?_⟩
    · simp only [takeField, BPerms.metaField, htext]
      rfl
    · rw [List.filter_cons_of_pos rfl, List.foldlM_cons]
      simp only [takeField, Pex.entityField, beq_iff_eq, String.reduceEq, if_false, if_true, htext]
      rfl
  | after hv =>
    obtain ⟨text, htext⟩ := exists_readString hv
    refine ⟨{ m with chatSuffix := text }, ?_, ?_⟩
    · simp only [takeField, BPerms.metaField, htext]
      rfl
    · rw [List.filter_cons_of_pos rfl, List.foldlM_cons]
      simp only [takeField, Pex.entityField, beq_iff_eq, String.reduceEq, if_false, if_true, htext]
      rfl
  | @unknown name v hbefore hafter =>
    have hfield : BPerms.metaField name = none := by
      unfold BPerms.metaField
      split <;> simp_all
    refine ⟨m, ?_, ?_⟩
    · rw [takeField, hfield]
    · rw [List.filter_cons_of_neg (by simp [isLifted, hbefore, hafter])]
      rfl

theorem foldlM_decoration {fields : List (String × Value)} (h : ∀ f ∈ fields, DecorationField f)
    (b : Pex.EntityBody) (m : BPerms.MetaBody) :
    ∃ m', fields.foldlM (takeField BPerms.metaField) m = .ok m' ∧
      (fields.filter isLifted).foldlM (takeField (Pex.entityField "inheritance"))
          (decorate b m) =
        .ok (decorate b m') := by
  have hlifted : (fields.flatMap fun f => [f].filter isLifted) = fields.filter isLifted := by
    rw [← List.filter_flatMap, List.flatMap_singleton']
  have hstep : ∀ f fields m, (∀ g ∈ f :: fields, DecorationField g) →
      ∃ m', takeField BPerms.metaField m f = .ok m' ∧
        ([f].filter isLifted).foldlM (takeField (Pex.entityField "inheritance")) (decorate b m) =
          .ok (decorate b m') ∧
        ∀ g ∈ fields, DecorationField g := by
    intro f fields m hfields
    obtain ⟨hf, hrest⟩ := List.forall_mem_cons.1 hfields
    obtain ⟨m', hm, hb⟩ := decorationField_step hf b m
    exact ⟨m', hm, hb, hrest⟩
  obtain ⟨m', hm, hb, -⟩ := foldlM_simulation (decorate b)
    (fun fields _ => ∀ f ∈ fields, DecorationField f) hstep h
  exact ⟨m', hm, hlifted ▸ hb⟩

/-- What holds of a body while fields are still to come: the decoration is
not there yet if it is one of these. -/
structure Pending (fields : List (String × Value)) (b : BPerms.GroupBody) : Prop where
  nodup : (fields.map Prod.fst).Nodup
  forms : ∀ f ∈ fields, GroupField f
  decoration : "meta" ∈ fields.map Prod.fst → b.decoration = none
  neutral : NeutralBody b

/-- Reading what takes the place of a field goes from mirror to mirror. -/
theorem translateField_step {f : String × Value} (h : GroupField f) {b : BPerms.GroupBody}
    (hmeta : f.1 = "meta" → b.decoration = none) (hb : NeutralBody b) :
    ∃ c, takeField BPerms.groupField b f = .ok c ∧
      (translateField f).foldlM (takeField (Pex.entityField "inheritance")) (mirror b) =
        .ok (mirror c) ∧
      NeutralBody c ∧ (f.1 ≠ "meta" → c.decoration = b.decoration) := by
  cases h with
  | permissions h =>
    obtain ⟨texts, hread, -, hdashed, hneutral⟩ := exists_readTexts h
    refine ⟨{ b with permissions := texts }, ?_, ?_, hneutral, fun _ => rfl⟩
    · simp only [takeField, BPerms.groupField, hread]
      rfl
    · simp only [translateField, if_true, List.foldlM_cons, List.foldlM_nil, takeField,
        Pex.entityField, beq_self_eq_true, hdashed]
      rfl
  | groups h =>
    obtain ⟨texts, hread, hlist, -⟩ := exists_readTexts h
    refine ⟨{ b with groups := texts }, ?_, ?_, hb, fun _ => rfl⟩
    · simp only [takeField, BPerms.groupField, hread]
      rfl
    · simp only [translateField, String.reduceEq, if_false, if_true, List.foldlM_cons,
        List.foldlM_nil, takeField, Pex.entityField, beq_iff_eq, hlist]
      rfl
  | decoration h =>
    have hnone := hmeta rfl
    cases h with
    | null =>
      have hsame : ({ b with decoration := none } : BPerms.GroupBody) = b := by rw [← hnone]
      refine ⟨b, ?_, rfl, hb, fun _ => rfl⟩
      nth_rewrite 2 [← hsame]
      rfl
    | @mapping fields hnodup h =>
      obtain ⟨m, hm, hlift⟩ := foldlM_decoration h (mirror b) {}
      have hread : optional BPerms.readMeta (.mapping (record fields)) = .ok (some m) := by
        have hbody := readBody_record "Meta" BPerms.metaField {} hnodup
        simp only [optional, BPerms.readMeta, hbody, hm]
        rfl
      have hmirror : decorate (mirror b) {} = mirror b := by
        rw [mirror, hnone]
        rfl
      refine ⟨{ b with decoration := some m }, ?_, ?_, hb, fun hne => absurd rfl hne⟩
      · simp only [takeField, BPerms.groupField, hread]
        rfl
      · rw [hmirror] at hlift
        simp only [translateField, String.reduceEq, if_false, if_true, liftDecoration,
          namedFields_record, hlift]
        rfl
  | @unknown name v hpermissions hgroups hm =>
    have hfield : BPerms.groupField name = none := by
      unfold BPerms.groupField
      split <;> simp_all
    refine ⟨b, ?_, ?_, hb, fun _ => rfl⟩
    · rw [takeField, hfield]
    · simp only [translateField, if_neg hpermissions, if_neg hgroups, if_neg hm, List.foldlM_nil]
      rfl

theorem pending_step (f : String × Value) (fields : List (String × Value)) (b : BPerms.GroupBody)
    (h : Pending (f :: fields) b) :
    ∃ c, takeField BPerms.groupField b f = .ok c ∧
      (translateField f).foldlM (takeField (Pex.entityField "inheritance")) (mirror b) =
        .ok (mirror c) ∧
      Pending fields c := by
  obtain ⟨hf, hfields⟩ := List.forall_mem_cons.1 h.forms
  obtain ⟨hnew, hnodup⟩ := List.nodup_cons.1 h.nodup
  obtain ⟨c, htake, htranslated, hc, hkeep⟩ :=
    translateField_step hf (fun hname => h.decoration (hname ▸ List.mem_cons_self)) h.neutral
  refine ⟨c, htake, htranslated, hnodup, hfields, fun hmem => ?_, hc⟩
  -- The decoration is still to come, so this field is not it.
  have hne : f.1 ≠ "meta" := fun hname => hnew (hname ▸ hmem)
  exact (hkeep hne).trans (h.decoration (List.mem_cons_of_mem _ hmem))

/-- A translated body is read as the mirror of the body. -/
theorem exists_readGroup {v : Value} (h : GroupValue v) :
    ∃ b, BPerms.readGroup v = .ok b ∧ Pex.readGroup (translateBody v) = .ok (mirror b) ∧
      NeutralBody b := by
  have hblank : NeutralBody {} := List.forall_mem_nil _
  cases h with
  | null => exact ⟨{}, rfl, rfl, hblank⟩
  | @mapping fields hnodup h =>
    have hpending : Pending fields {} := ⟨hnodup, h, fun _ => rfl, hblank⟩
    obtain ⟨b, hread, htranslated, hb⟩ := foldlM_simulation mirror Pending pending_step hpending
    refine ⟨b, ?_, ?_, hb.neutral⟩
    · rw [BPerms.readGroup, readBody_record _ _ _ hnodup, hread]
    · rw [translateBody, namedFields_record, Pex.readGroup,
        readBody_record _ _ _ (nodup_translated hnodup h)]
      exact htranslated

/-- The mirror of a body declares the same group. -/
theorem settings_mirror {label : String} (name : String) {b : BPerms.GroupBody}
    (hb : NeutralBody b) :
    Pex.settings label (name, mirror b) = .ok (name, b.group.settings) := by
  have hpermissions : PermissionSet.ofStatements Pex.rules none
      ((b.permissions.map (·.map dashed)).getD []) =
        PermissionSet.ofStatements BPerms.rules none (b.permissions.getD []) := by
    rw [← ofStatements_dashed hb]
    cases b.permissions <;> rfl
  have hset : (mirror b).permissionSet label =
      .ok (PermissionSet.ofStatements Pex.rules none
        ((b.permissions.map (·.map dashed)).getD [])) := rfl
  rw [Pex.settings, hset, hpermissions]
  rfl

/-! ## Documents -/

/-- An entry for a group: a key that gives a name, and a body. -/
structure GroupEntry (e : Value × Value) : Prop where
  named : ∃ name, keyName? e.1 = some name
  body : GroupValue e.2

/-- An entry with its body in the other layout. -/
def translateEntry (e : Value × Value) : Value × Value := (e.1, translateBody e.2)

/-- The entries for the groups of a document. -/
def groupEntries (doc : Value) : List (Value × Value) := (section? doc "groups").getD []

/-- The document in the layout with groups and users: its groups in the same
order, and no users. -/
def translate (doc : Value) : Value :=
  .mapping [(.string "groups", .mapping ((groupEntries doc).map translateEntry))]

theorem readEntry_eq_ok {β : Type} {label heading name : String}
    {read : Value → Except ShapeError β} {default b : β} {e : Value × Value}
    (hnull : ∀ v, v.isNull = true → read v = .ok default) (hkey : keyName? e.1 = some name)
    (hread : read e.2 = .ok b) :
    readEntry label heading read default e = .ok (name, b) := by
  refine (readEntry_of_name hnull hkey e.2).trans ?_
  rw [hread]
  rfl

theorem readEntries_translated {entries : List (Value × Value)} (h : ∀ e ∈ entries, GroupEntry e)
    (label label' : String) :
    ∃ es, readEntries label "groups" BPerms.readGroup {} entries = .ok es ∧
      readEntries label' "groups" Pex.readGroup {} (entries.map translateEntry) =
        .ok (es.map fun e => (e.1, mirror e.2)) ∧
      ∀ e ∈ es, NeutralBody e.2 := by
  induction entries with
  | nil => exact ⟨[], rfl, rfl, List.forall_mem_nil _⟩
  | cons e entries ih =>
    obtain ⟨he, hentries⟩ := List.forall_mem_cons.1 h
    obtain ⟨es, hes, htranslated, hneutral⟩ := ih hentries
    obtain ⟨name, hname⟩ := he.named
    obtain ⟨b, hb, hmirror, hbneutral⟩ := exists_readGroup he.body
    have hread : readEntry label "groups" BPerms.readGroup {} e = .ok (name, b) :=
      readEntry_eq_ok (fun _ => readBody_of_isNull "GroupDef" _ _) hname hb
    have hreadTranslated :
        readEntry label' "groups" Pex.readGroup {} (translateEntry e) = .ok (name, mirror b) :=
      readEntry_eq_ok (fun _ => readBody_of_isNull "GroupDef" _ _) hname hmirror
    refine ⟨(name, b) :: es, ?_, ?_, List.forall_mem_cons.2 ⟨hbneutral, hneutral⟩⟩
    · rw [readEntries, hread, hes]
      rfl
    · rw [List.map_cons, readEntries, hreadTranslated, htranslated]
      rfl

theorem mapM_settings_mirror {es : List (String × BPerms.GroupBody)}
    (h : ∀ e ∈ es, NeutralBody e.2) (label : String) :
    (es.map fun e => (e.1, mirror e.2)).mapM (Pex.settings label) =
      .ok (es.map fun e => (e.1, e.2.group.settings)) := by
  induction es with
  | nil => rfl
  | cons e es ih =>
    obtain ⟨he, hes⟩ := List.forall_mem_cons.1 h
    rw [List.map_cons, List.mapM_cons, settings_mirror e.1 he, ih hes]
    rfl

/-- A document and its translation declare the same groups. -/
theorem declaration_translated {doc : Value} (h : ∀ e ∈ groupEntries doc, GroupEntry e)
    (label label' : String) :
    ∃ d, BPerms.declaration label doc = .ok d ∧ Pex.declaration label' (translate doc) = .ok d := by
  obtain ⟨es, hes, htranslated, hneutral⟩ := readEntries_translated h label label'
  refine ⟨{ groups := es.map fun e => (e.1, e.2.group.settings) }, ?_, ?_⟩
  · exact map_eq_ok.2 ⟨es, hes, rfl⟩
  · exact Pex.declaration_eq_ok_iff.2
      ⟨⟨_, htranslated, mapM_settings_mirror hneutral label'⟩, [], rfl, rfl⟩

/-- A document in which every group has a body of neutral statements and its
translation both load, and into the same roster. -/
theorem load_translated {doc : Value} (h : ∀ e ∈ groupEntries doc, GroupEntry e)
    (label label' : String) (r : Roster) :
    ∃ r', BPerms.load label doc r = (.ok (), r') ∧
      Pex.load label' (translate doc) r = (.ok (), r') := by
  obtain ⟨d, hd, htranslated⟩ := declaration_translated h label label'
  exact ⟨r.take d, BPerms.load_eq_ok_iff.2 ⟨d, hd, rfl⟩,
    Pex.load_eq_ok_iff.2 ⟨d, htranslated, rfl⟩⟩

/-- The fields of the guards of a lodge: they may not build, one caret is
denied with another, and the parentheses open no group. -/
def guardFields : List (String × Value) := [
  ("permissions", .sequence (["fly", "^build", "^^fly", "^-kit", "a.()(b"].map .string)),
  ("weight", .number (.integer 5)),
  ("meta", .mapping (record [("suffix", .string "!"), ("prefix", .null)])),
  ("groups", .sequence (["Lodger"].map .string))]

/-- A lodge with guards and with a group that has no body. -/
def lodge : Value :=
  .mapping [
    (.string "version", .number (.integer 2)),
    (.string "groups", .mapping [
      (.string "Guard", .mapping (record guardFields)),
      (.number (.integer 7), .null)])]

/-- The fields of the decoration stand where it stood. -/
example : translate lodge =
    .mapping [
      (.string "groups", .mapping [
        (.string "Guard", .mapping (record [
          ("permissions", .sequence (["fly", "-build", "-^fly", "--kit", "a.()(b"].map .string)),
          ("suffix", .string "!"),
          ("prefix", .null),
          ("inheritance", .sequence (["Lodger"].map .string))])),
        (.number (.integer 7), .null)])] := rfl

theorem groupField_guardFields : ∀ f ∈ guardFields, GroupField f := by
  have hmeta : ∀ f ∈ ([("suffix", .string "!"), ("prefix", .null)] : List (String × Value)),
      DecorationField f :=
    List.forall_mem_cons.2 ⟨.after (.string "!"), List.forall_mem_singleton.2 (.before .null)⟩
  refine List.forall_mem_cons.2 ⟨.permissions (.strings (by decide)), ?_⟩
  refine List.forall_mem_cons.2 ⟨.unknown _ (by decide) (by decide) (by decide), ?_⟩
  refine List.forall_mem_cons.2 ⟨.decoration (.mapping (by decide) hmeta), ?_⟩
  exact List.forall_mem_singleton.2 (.groups (.strings fun _ _ => trivial))

theorem groupEntry_lodge : ∀ e ∈ groupEntries lodge, GroupEntry e := by
  refine List.forall_mem_cons.2 ⟨⟨⟨"Guard", rfl⟩, .mapping (by decide) groupField_guardFields⟩, ?_⟩
  exact List.forall_mem_singleton.2 ⟨⟨_, rfl⟩, .null⟩

theorem lodge_translated :
    (∀ e ∈ groupEntries lodge, GroupEntry e) ∧
      ∃ r', BPerms.load "lodge" lodge ∅ = (.ok (), r') ∧
        Pex.load "lodge" (translate lodge) ∅ = (.ok (), r') :=
  ⟨groupEntry_lodge, load_translated groupEntry_lodge "lodge" "lodge" ∅⟩

end PermScript.Config
