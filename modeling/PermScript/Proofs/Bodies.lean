/-
Ways to write a body that make no difference to what is read from it.

A body can have its fields in another order, fields that it does not know,
blanks for fields that it lacks, and single strings for lists of one
(`BodyRewriting`). What is read from it is not the same then, but it is
alike, as far as its fields say what that means (`Slot.Fits`,
`Tabulated.agree_readBody`). Alike are then also the entries of a mapping
with one body rewritten (`listingsAgree`), and such a mapping may be what a
field of another body holds.
-/
import Mathlib.Data.List.Pairwise
import PermScript.Proofs.Agreement

namespace PermScript.Config

open Yaml (Value)

/-! ## Rewritings -/

/-- What a field of a body holds. -/
inductive Holding
  | strings
  | text
  | worlds

/-- The fields that a body knows, with what they hold. -/
abbrev Layout := String → Option Holding

/-- A value that stands for none at all. -/
inductive Blank : Holding → Value → Prop
  | null {holding : Holding} : Blank holding .null
  | emptyList : Blank .strings (.sequence [])
  | emptyText : Blank .text (.string "")

/-- One rewriting of a body of the layout, where `inner` rewrites the worlds
that it holds. What is new or changed stands first, and `reorder` takes it
anywhere. -/
inductive BodyRewriting (layout : Layout) (inner : Value → Value → Prop) : Value → Value → Prop
  | tagged {tag : String} {v v' : Value} (h : BodyRewriting layout inner v v') :
      BodyRewriting layout inner (.tagged tag v) (.tagged tag v')
  /-- A body that is null has no fields. -/
  | null : BodyRewriting layout inner .null (.mapping [])
  | reorder {fields fields' : List (Value × Value)} (h : fields.Perm fields') :
      BodyRewriting layout inner (.mapping fields) (.mapping fields')
  /-- A field that the body does not know. -/
  | unknown {key value : Value} {name : String} {fields : List (Value × Value)}
      (hkey : key.untag = .string name) (h : layout name = none) :
      BodyRewriting layout inner (.mapping fields) (.mapping ((key, value) :: fields))
  /-- A blank for a field that the body lacks. -/
  | blank {key value : Value} {name : String} {holding : Holding} {fields : List (Value × Value)}
      (hkey : key.untag = .string name) (h : layout name = some holding)
      (hvalue : Blank holding value) (hlacks : ∀ e ∈ fields, e.1.untag ≠ .string name) :
      BodyRewriting layout inner (.mapping fields) (.mapping ((key, value) :: fields))
  /-- A string for the list of itself. -/
  | bare {key : Value} {name s : String} {fields : List (Value × Value)}
      (hkey : key.untag = .string name) (h : layout name = some .strings) :
      BodyRewriting layout inner (.mapping ((key, .string s) :: fields))
        (.mapping ((key, .sequence [.string s]) :: fields))
  | worlds {key v v' : Value} {name : String} {fields : List (Value × Value)}
      (hkey : key.untag = .string name) (h : layout name = some .worlds) (hv : inner v v') :
      BodyRewriting layout inner (.mapping ((key, v) :: fields)) (.mapping ((key, v') :: fields))

/-- One rewriting, by `body`, of one of the bodies that a mapping names. -/
inductive ListingRewriting (body : Value → Value → Prop) : Value → Value → Prop
  | tagged {tag : String} {v v' : Value} (h : ListingRewriting body v v') :
      ListingRewriting body (.tagged tag v) (.tagged tag v')
  | entry {before after : List (Value × Value)} {key v v' : Value} (h : body v v') :
      ListingRewriting body (.mapping (before ++ (key, v) :: after))
        (.mapping (before ++ (key, v') :: after))

/-! ## Bodies -/

/-- A field of a body: its name, what it holds, and how it is taken in. -/
structure Slot (β : Type) where
  name : String
  holding : Holding
  take : Value → β → Except ShapeError β

namespace Slot

variable {β : Type}

/-- A field that is read and put into the body. -/
def ofPut {γ : Type} (name : String) (holding : Holding) (read : Value → Except ShapeError γ)
    (put : γ → β → β) : Slot β where
  name
  holding
  take v b := (read v).map fun x => put x b

/-- A field for a list of strings. -/
def strings (name : String) (put : Option (List String) → β → β) : Slot β :=
  ofPut name .strings (optional readOneOrMany) put

/-- A field for a text. -/
def text (name : String) (put : Option String → β → β) : Slot β :=
  ofPut name .text (optional readString) put

/-- The field for worlds. -/
def worlds (put : Option (List (Value × Value)) → β → β) : Slot β :=
  ofPut "worlds" .worlds (optional readMapping) put

@[simp] theorem name_strings (name : String) (put : Option (List String) → β → β) :
    (strings name put).name = name := rfl

@[simp] theorem name_text (name : String) (put : Option String → β → β) :
    (text name put).name = name := rfl

@[simp] theorem name_worlds (put : Option (List (Value × Value)) → β → β) :
    (worlds put).name = "worlds" := rfl

/-- The fields can be taken in in either order. -/
def Commute (s t : Slot β) : Prop :=
  ∀ v w b, Agree Eq (s.take v b >>= t.take w) (t.take w b >>= s.take v)

instance : Std.Symm (@Commute β) := ⟨fun _ _ h v w b => (h w v b).symm fun _ _ => Eq.symm⟩

theorem commute_ofPut {γ δ : Type} {name name' : String} {holding holding' : Holding}
    {read : Value → Except ShapeError γ} {read' : Value → Except ShapeError δ}
    {put : γ → β → β} {put' : δ → β → β} (h : ∀ x y b, put' y (put x b) = put x (put' y b)) :
    (ofPut name holding read put).Commute (ofPut name' holding' read' put') := by
  intro v w b
  simp only [ofPut]
  cases read v with
  | error e =>
    cases read' w with
    | error e' => exact .error e e'
    | ok y => exact .error e e
  | ok x =>
    cases read' w with
    | error e' => exact .error e' e'
    | ok y => exact .ok (h x y b)

/-- What a field must be for rewritings to make no difference: to bodies
that are alike, to the blank one, and by what it holds. -/
structure Fits (inner : Value → Value → Prop) (blank : β) (alike : β → β → Prop) (s : Slot β) :
    Prop where
  respects : ∀ v b b', alike b b' → Agree alike (s.take v b) (s.take v b')
  ofBlank : ∀ v, Blank s.holding v → Agree alike (.ok blank) (s.take v blank)
  bare : s.holding = .strings → ∀ text b,
    s.take (.string text) b = s.take (.sequence [.string text]) b
  inner : s.holding = .worlds → ∀ v v' b, inner v v' → Agree alike (s.take v b) (s.take v' b)

section

variable {inner : Value → Value → Prop} {blank : β} {alike : β → β → Prop}

theorem respects_ofPut {γ : Type} (name : String) (holding : Holding)
    (read : Value → Except ShapeError γ) {put : γ → β → β}
    (hput : ∀ x b b', alike b b' → alike (put x b) (put x b')) (v : Value) (b b' : β)
    (h : alike b b') :
    Agree alike ((ofPut name holding read put).take v b)
      ((ofPut name holding read put).take v b') := by
  simp only [ofPut]
  cases read v with
  | error e => exact .error e e
  | ok x => exact .ok (hput x b b' h)

theorem fits_strings {name : String} {put : Option (List String) → β → β}
    (hput : ∀ x b b', alike b b' → alike (put x b) (put x b'))
    (hnone : ∀ x, x.getD [] = [] → alike blank (put x blank)) :
    (strings name put).Fits inner blank alike where
  respects := respects_ofPut name .strings _ hput
  ofBlank v hv := by
    cases hv with
    | null => exact .ok (hnone none rfl)
    | emptyList => exact .ok (hnone (some []) rfl)
  bare _ text b := by
    simp [strings, ofPut, optional, readOneOrMany, Value.hasTag, Value.itemsHaveTag, Value.text?]
  inner h := nomatch h

theorem fits_text {name : String} {put : Option String → β → β}
    (hput : ∀ x b b', alike b b' → alike (put x b) (put x b'))
    (hnone : ∀ x, nonEmpty x = none → alike blank (put x blank)) :
    (text name put).Fits inner blank alike where
  respects := respects_ofPut name .text _ hput
  ofBlank v hv := by
    cases hv with
    | null => exact .ok (hnone none rfl)
    | emptyText => exact .ok (hnone (some "") rfl)
  bare h := nomatch h
  inner h := nomatch h

end

end Slot

/-- The fields of a body, as the layout and the reader have them. -/
structure Tabulated {β : Type} (slots : List (Slot β)) (layout : Layout) (field : FieldReader β) :
    Prop where
  find : ∀ name, layout name = (slots.find? (name == ·.name)).map Slot.holding ∧
    field name = (slots.find? (name == ·.name)).map Slot.take
  commute : slots.Pairwise Slot.Commute

namespace Tabulated

variable {β : Type} {slots : List (Slot β)} {layout : Layout} {field : FieldReader β}
  {inner : Value → Value → Prop} {blank : β} {alike : β → β → Prop}

theorem exists_of_field (h : Tabulated slots layout field) {name : String}
    {read : Value → β → Except ShapeError β} (hf : field name = some read) :
    ∃ s ∈ slots, s.name = name ∧ s.take = read := by
  rw [(h.find name).2] at hf
  obtain ⟨s, hs, rfl⟩ := Option.map_eq_some_iff.1 hf
  have hname := List.find?_some hs
  exact ⟨s, List.mem_of_find?_eq_some hs, (beq_iff_eq.1 hname).symm, rfl⟩

theorem exists_of_layout (h : Tabulated slots layout field) {name : String} {holding : Holding}
    (hl : layout name = some holding) :
    ∃ s ∈ slots, s.holding = holding ∧ field name = some s.take := by
  rw [(h.find name).1] at hl
  obtain ⟨s, hs, rfl⟩ := Option.map_eq_some_iff.1 hl
  refine ⟨s, List.mem_of_find?_eq_some hs, rfl, ?_⟩
  rw [(h.find name).2, hs]
  rfl

theorem field_eq_none (h : Tabulated slots layout field) {name : String} (hl : layout name = none) :
    field name = none := by
  rw [(h.find name).1, Option.map_eq_none_iff] at hl
  rw [(h.find name).2, hl]
  rfl

theorem commutes (h : Tabulated slots layout field) : Commutes field := by
  intro n m rn rm hne hn hm
  obtain ⟨s, hs, rfl, rfl⟩ := h.exists_of_field hn
  obtain ⟨t, ht, rfl, rfl⟩ := h.exists_of_field hm
  exact h.commute.forall hs ht fun hst => hne (congrArg Slot.name hst)

theorem respects (h : Tabulated slots layout field)
    (hfits : ∀ s ∈ slots, s.Fits inner blank alike) : Respects field alike := by
  intro name read hf
  obtain ⟨s, hs, -, rfl⟩ := h.exists_of_field hf
  exact (hfits s hs).respects

/-- Rewritten bodies are alike when they are read. -/
theorem agree_readBody (h : Tabulated slots layout field)
    (hfits : ∀ s ∈ slots, s.Fits inner blank alike) (hrefl : ∀ b, alike b b) (name : String)
    {v v' : Value} (hv : BodyRewriting layout inner v v') :
    Agree alike (readBody name field blank v) (readBody name field blank v') := by
  have hresp := h.respects hfits
  induction hv with
  | tagged _ ih => exact ih
  | null => exact .refl hrefl _
  | reorder hp =>
    refine Agree.mono (fun a b hab => ?_) (readFields_perm h.commutes hp [] blank)
    rw [hab]
    exact hrefl b
  | @unknown key value n fields hkey hl =>
    have hskip : readFields field [] blank ((key, value) :: fields) =
        readFields field [] blank fields := by
      rw [readFields_cons_of_name hkey, h.field_eq_none hl]
    simp only [readBody, Value.untag, hskip]
    exact .refl hrefl _
  | @blank key value n holding fields hkey hl hvalue hlacks =>
    obtain ⟨s, hs, rfl, hf⟩ := h.exists_of_layout hl
    simp only [readBody, Value.untag, readFields_cons_of_field hkey hf]
    -- The name does not come again, so that it is taken in already does not matter.
    have hdone : ∀ e ∈ fields, ∀ m, e.1.untag = .string m → (m ∈ [] ↔ m ∈ [n]) := by
      intro e he m hm
      have hne : m ≠ n := fun hmn => hlacks e he (hmn ▸ hm)
      simp [hne]
    exact ((hfits s hs).ofBlank value hvalue).bind fun b b' hb => readFields_congr hresp hdone hb
  | bare hkey hl =>
    obtain ⟨s, hs, hholding, hf⟩ := h.exists_of_layout hl
    simp only [readBody, Value.untag, readFields_cons_of_field hkey hf,
      (hfits s hs).bare hholding]
    exact .refl hrefl _
  | worlds hkey hl hv =>
    obtain ⟨s, hs, hholding, hf⟩ := h.exists_of_layout hl
    simp only [readBody, Value.untag, readFields_cons_of_field hkey hf]
    exact ((hfits s hs).inner hholding _ _ blank hv).bind fun b b' hb =>
      readFields_congr hresp (fun _ _ _ _ => Iff.rfl) hb

end Tabulated

/-! ## Listings -/

section

variable {β : Type} {read : Value → Except ShapeError β} {default : β} {alike : β → β → Prop}

/-- The same name, with bodies that are alike. -/
def NamedAlike (alike : β → β → Prop) (e e' : String × β) : Prop := e.1 = e'.1 ∧ alike e.2 e'.2

/-- Mappings whose entries agree, whatever they are mappings for. -/
def ListingsAgree (read : Value → Except ShapeError β) (default : β) (alike : β → β → Prop)
    (v v' : Value) : Prop :=
  ∃ entries entries', entriesOf? v = some entries ∧ entriesOf? v' = some entries' ∧
    ∀ label heading, Agree (List.Forall₂ (NamedAlike alike))
      (readEntries label heading read default entries)
      (readEntries label heading read default entries')

/-- Where a reader itself takes null for the default, all bodies are read. -/
theorem readEntry_of_name (hnull : ∀ v, v.isNull = true → read v = .ok default)
    {label heading name : String} {key : Value} (hkey : keyName? key = some name) (v : Value) :
    readEntry label heading read default (key, v) =
      ((read v).mapError (.invalidEntry label heading name)).map fun body => (name, body) := by
  rw [readEntry, hkey]
  cases hv : v.isNull with
  | true =>
    rw [hnull v hv]
    rfl
  | false => cases read v <;> rfl

theorem agree_readEntry (hnull : ∀ v, v.isNull = true → read v = .ok default) {v v' : Value}
    (h : Agree alike (read v) (read v')) (label heading : String) (key : Value) :
    Agree (NamedAlike alike) (readEntry label heading read default (key, v))
      (readEntry label heading read default (key, v')) := by
  cases hkey : keyName? key with
  | none =>
    rw [readEntry, readEntry, hkey]
    exact .error _ _
  | some name =>
    rw [readEntry_of_name hnull hkey, readEntry_of_name hnull hkey]
    generalize read v = x at h
    generalize read v' = x' at h
    cases h with
    | error e e' => exact .error _ _
    | ok hb => exact .ok ⟨rfl, hb⟩

theorem listingsAgree (hnull : ∀ v, v.isNull = true → read v = .ok default)
    (hrefl : ∀ b, alike b b) {body : Value → Value → Prop}
    (hbody : ∀ v v', body v v' → Agree alike (read v) (read v')) {v v' : Value}
    (h : ListingRewriting body v v') : ListingsAgree read default alike v v' := by
  induction h with
  | tagged _ ih => exact ih
  | @entry before after key v v' h =>
    refine ⟨_, _, rfl, rfl, fun label heading => ?_⟩
    simp only [readEntries_eq_mapM]
    have hsame : ∀ es : List (Value × Value), List.Forall₂ (fun e e' => Agree (NamedAlike alike)
        (readEntry label heading read default e) (readEntry label heading read default e')) es es :=
      fun es => List.forall₂_same.2 fun e _ => .refl (fun b => ⟨rfl, hrefl b.2⟩) _
    have hhead := agree_readEntry hnull (hbody v v' h) label heading key
    exact Agree.mapM (List.rel_append (hsame before) (.cons hhead (hsame after))) fun _ _ h => h

end

theorem readBody_of_isNull {β : Type} (name : String) (field : FieldReader β) (blank : β)
    {v : Value} (h : v.isNull = true) : readBody name field blank v = .ok blank := by
  rw [Value.isNull] at h
  rw [readBody]
  split at h
  · rename_i hv
    rw [hv]
  · cases h

theorem optional_readMapping {v : Value} {entries : List (Value × Value)}
    (h : entriesOf? v = some entries) : optional readMapping v = .ok (some entries) := by
  have hread : readMapping v = .ok entries := by
    rw [entriesOf?] at h
    rw [readMapping]
    split at h
    · rename_i hv
      rw [hv]
      cases h
      rfl
    · cases h
  unfold optional
  split
  · cases h
  · rw [hread]
    rfl

/-! ## Sections -/

section

variable {before after : List (Value × Value)} {x y : Value × Value} {heading : String}

theorem get?_append (entries entries' : List (Value × Value)) (key : String) :
    (Value.mapping (entries ++ entries')).get? key =
      ((Value.mapping entries).get? key).or ((Value.mapping entries').get? key) := by
  simp only [Value.get?, Value.untag, List.find?_append, Option.map_or]

theorem get?_cons (x : Value × Value) (entries : List (Value × Value)) (key : String) :
    (Value.mapping (x :: entries)).get? key =
      if x.1.text? = some key then some x.2 else (Value.mapping entries).get? key := by
  simp only [Value.get?, Value.untag, List.find?_cons]
  by_cases hx : x.1.text? = some key
  · simp only [hx, beq_self_eq_true, if_true, Option.map_some]
  · simp only [hx, beq_eq_false_iff_ne.2 hx, if_false]

theorem get?_moved (h : ∀ s, x.1.text? = some s → y.1.text? ≠ some s) :
    (Value.mapping (before ++ x :: y :: after)).get? heading =
      (Value.mapping (before ++ y :: x :: after)).get? heading := by
  simp only [get?_append, get?_cons]
  by_cases hx : x.1.text? = some heading
  · rw [if_pos hx, if_neg (h heading hx), if_pos hx]
  · rw [if_neg hx, if_neg hx]

theorem get?_unknown (h : x.1.text? ≠ some heading) :
    (Value.mapping (before ++ after)).get? heading =
      (Value.mapping (before ++ x :: after)).get? heading := by
  rw [get?_append, get?_append, get?_cons, if_neg h]

variable {β : Type} {read : Value → Except ShapeError β} {default : β} {alike : β → β → Prop}

theorem agree_of_get?_eq (hrefl : ∀ b, alike b b) {doc doc' : Value}
    (h : doc.get? heading = doc'.get? heading) (label : String) :
    Agree (List.Forall₂ (NamedAlike alike)) (sectionEntries label heading read default doc)
      (sectionEntries label heading read default doc') := by
  rw [sectionEntries, sectionEntries, section?, section?, h]
  exact .refl (fun es => List.forall₂_same.2 fun e _ => ⟨rfl, hrefl e.2⟩) _

/-- A section with another value, if it agrees with the value before. -/
theorem agree_section (hrefl : ∀ b, alike b b) {key : String} {v v' : Value}
    (h : key = heading → ListingsAgree read default alike v v') (label : String) :
    Agree (List.Forall₂ (NamedAlike alike))
      (sectionEntries label heading read default (.mapping (before ++ (.string key, v) :: after)))
      (sectionEntries label heading read default
        (.mapping (before ++ (.string key, v') :: after))) := by
  have hget : ∀ w, (Value.mapping (before ++ (.string key, w) :: after)).get? heading =
      ((Value.mapping before).get? heading).or
        (if key = heading then some w else (Value.mapping after).get? heading) := by
    intro w
    rw [get?_append, get?_cons]
    simp only [Value.text?, Option.some.injEq]
  cases hbefore : (Value.mapping before).get? heading with
  | some w =>
    refine agree_of_get?_eq hrefl ?_ label
    rw [hget, hget, hbefore, Option.some_or, Option.some_or]
  | none =>
    by_cases hkey : key = heading
    · obtain ⟨entries, entries', hentries, hentries', hagree⟩ := h hkey
      rw [sectionEntries, sectionEntries, section?, section?, hget, hget, hbefore, if_pos hkey,
        if_pos hkey, Option.none_or, Option.none_or, Option.bind_some, Option.bind_some, hentries,
        hentries']
      exact hagree label heading
    · refine agree_of_get?_eq hrefl ?_ label
      rw [hget, hget, if_neg hkey, if_neg hkey]

end

end PermScript.Config
