/-
What a permission set lists after any number of writes.

A write gives one key its value or copies another set (`Write`). Only the
value that a key is given last remains (`get?_written`). The listing has it
once, and goes strictly by the bytes of the key in lower case and then by
those of the key itself; nothing but the values decides about it
(`lists_written`). For keys with the same lower case the second part of that
order is the order in which the set keeps them, which the sort leaves alone.
-/
import PermScript.Proofs.ByteOrder
import PermScript.Proofs.Listing

namespace PermScript

/-! ## Writing -/

/-- What can be done to a set of permissions. -/
inductive Write where
  | insert (key : String) (value : Bool)
  | extend (other : PermissionSet)

namespace Write

/-- What is written: one entry, or all of the other set. -/
def entries : Write → List Permission
  | insert key value => [(key, value)]
  | extend other => other.entries

/-- Writes into a set. -/
def apply (s : PermissionSet) : Write → PermissionSet
  | insert key value => s.insert key value
  | extend other => s.extend other

/-- A write comes to the insertion of what it writes. -/
theorem apply_eq_insertMany (s : PermissionSet) (w : Write) :
    w.apply s = s.insertMany w.entries := by
  cases w <;> rfl

end Write

/-- What writes make of the empty set. -/
def written (writes : List Write) : PermissionSet := writes.foldl Write.apply ∅

theorem written_concat (writes : List Write) (w : Write) :
    written (writes ++ [w]) = w.apply (written writes) := by
  rw [written, List.foldl_concat, written]

/-- The value of a key is the one written last. -/
theorem get?_written (writes : List Write) (key : String) :
    (written writes).get? key = lastRecord (writes.flatMap Write.entries) key := by
  induction writes using List.reverseRecOn with
  | nil => rfl
  | append_singleton writes w ih =>
    rw [written_concat, Write.apply_eq_insertMany, PermissionSet.get?_insertMany, ih,
      List.flatMap_append, List.flatMap_singleton, lastRecord_append]

/-! ## The order of the bytes -/

/-- What decides about the place of a key, in bytes. -/
def byteRank (key : String) : List UInt8 ×ₗ List UInt8 :=
  toLex (bytesOf (Text.lowercase key), bytesOf key)

theorem byteRank_lt_iff {a b : String} :
    byteRank a < byteRank b ↔ listingRank a < listingRank b := by
  rw [byteRank, byteRank, listingRank, listingRank, Prod.Lex.toLex_lt_toLex,
    Prod.Lex.toLex_lt_toLex, bytesOf_lt_iff, bytesOf_inj, bytesOf_lt_iff]

theorem listingRank_injective : Function.Injective listingRank :=
  fun _ _ h => congrArg (fun rank => (ofLex rank).2) h

namespace PermissionSet

variable (s : PermissionSet)

/-- No two keys of a listing are level. -/
theorem pairwise_byteRank_listed :
    s.listed.Pairwise fun a b => byteRank a.1 < byteRank b.1 := by
  refine (List.pairwise_map.1 (s.pairwise_listed.and s.nodup_keys_listed)).imp fun {a b} h => ?_
  obtain ⟨hle, hne⟩ := h
  exact byteRank_lt_iff.2 (lt_of_le_of_ne hle (listingRank_injective.ne hne))

end PermissionSet

/-! ## What is listed -/

/-- The list has each key that is written, once and with the value it is given
last, and its keys go up strictly. -/
structure Lists (entries listing : List Permission) : Prop where
  keys : ∀ key, key ∈ listing.map Prod.fst ↔ key ∈ entries.map Prod.fst
  once : (listing.map Prod.fst).Nodup
  last : ∀ key value, (key, value) ∈ listing ↔ lastRecord entries key = some value
  ordered : listing.Pairwise fun a b => byteRank a.1 < byteRank b.1

/-- Only what is written last under each key makes a difference. -/
theorem Lists.unique {entries others listing listing' : List Permission}
    (h : Lists entries listing) (h' : Lists others listing')
    (heq : ∀ key, lastRecord entries key = lastRecord others key) : listing = listing' := by
  have hmem : ∀ e : Permission, e ∈ listing ↔ e ∈ listing' := by
    rintro ⟨key, value⟩
    rw [h.last, h'.last, heq]
  have hperm : listing.Perm listing' :=
    (List.perm_ext_iff_of_nodup h.once.of_map h'.once.of_map).2 hmem
  refine List.Perm.eq_of_pairwise (fun a b _ _ hab hba => ?_) h.ordered h'.ordered hperm
  exact absurd (byteRank_lt_iff.1 hba) (byteRank_lt_iff.1 hab).asymm

theorem lists_listed {entries : List Permission} {s : PermissionSet}
    (h : ∀ key, s.get? key = lastRecord entries key) : Lists entries s.listed := by
  have hlast : ∀ key value, (key, value) ∈ s.listed ↔ lastRecord entries key = some value := by
    intro key value
    rw [s.listed_perm.mem_iff, ← PermissionSet.get?_eq_some, h]
  refine ⟨fun key => ?_, s.nodup_keys_listed, hlast, s.pairwise_byteRank_listed⟩
  constructor
  · intro hkey
    obtain ⟨⟨_, value⟩, he, rfl⟩ := List.mem_map.1 hkey
    exact mem_of_lastRecord ((hlast _ value).1 he)
  · intro hkey
    obtain ⟨value, hvalue⟩ := exists_lastRecord hkey
    exact List.mem_map_of_mem ((hlast key value).2 hvalue)

/-- A set lists what is written into it: each key once, with the value written
last, in the order of the bytes of its lower case and then of its own. Writes
that leave the same values are listed alike, whatever their order. -/
theorem lists_written (writes : List Write) :
    Lists (writes.flatMap Write.entries) (written writes).listed ∧
      ∀ others, (written others).listed = (written writes).listed ↔
        ∀ key, (written others).get? key = (written writes).get? key := by
  have hlists : ∀ ws, Lists (ws.flatMap Write.entries) (written ws).listed :=
    fun ws => lists_listed (get?_written ws)
  refine ⟨hlists writes, fun others => ⟨fun h key => ?_, fun h => ?_⟩⟩
  · have hset : written others = written writes := by
      rw [← PermissionSet.insertMany_listed (written others), h, PermissionSet.insertMany_listed]
    rw [hset]
  · refine (hlists others).unique (hlists writes) fun key => ?_
    rw [← get?_written, ← get?_written, h]

/-- Two keys with the same lower case stand as their own bytes do. -/
example :
    (written [.insert "fly" true, .extend ((∅ : PermissionSet).insert "Fly" true),
      .insert "fly" false]).listed = [("Fly", true), ("fly", false)] := by
  cbv

end PermScript
