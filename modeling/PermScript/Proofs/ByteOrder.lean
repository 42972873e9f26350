/-
Texts compare as their bytes do.

The order of texts goes by characters. A character is encoded as a first
byte and as many digits to base 64 as its size asks for; of two characters
the first bytes decide, unless they are equal, and then the digits do
(`encode_append_lt`). What follows a character makes no difference, so that
the order carries over to texts (`bytesOf_le_iff`).
-/
import Mathlib.Data.String.Basic

namespace PermScript

/-- The bytes of a text. -/
def bytesOf (text : String) : List UInt8 := text.toUTF8.data.toList

theorem bytesOf_eq_flatMap (text : String) :
    bytesOf text = text.toList.flatMap String.utf8EncodeChar := by
  rw [bytesOf, String.toUTF8, ← String.utf8Encode_toList, List.utf8Encode,
    List.toList_data_toByteArray]

/-! ## Characters -/

/-- How many bytes follow the first byte of the character with this code. -/
def followers (v : Nat) : Nat :=
  if v ≤ 0x7F then 0 else if v ≤ 0x7FF then 1 else if v ≤ 0xFFFF then 2 else 3

/-- The first byte of the character with this code. -/
def leadOf (v : Nat) : Nat :=
  if v ≤ 0x7F then v else if v ≤ 0x7FF then v / 64 + 192
  else if v ≤ 0xFFFF then v / 4096 + 224 else v / 262144 + 240

/-- The last digits of a code to base 64, each marked as no first byte. -/
def digits : Nat → Nat → List UInt8
  | 0, _ => []
  | k + 1, v => UInt8.ofNat (v / 64 ^ k % 64 + 128) :: digits k v

theorem toNat_lt (c : Char) : c.toNat < 0x110000 := by
  rcases c.valid with h | ⟨-, h⟩
  · exact Nat.lt_trans h (by decide)
  · exact h

theorem encode_eq (c : Char) :
    String.utf8EncodeChar c =
      UInt8.ofNat (leadOf c.toNat) :: digits (followers c.toNat) c.toNat := by
  have hc := toNat_lt c
  rw [String.utf8EncodeChar, Char.toNat_val, leadOf, followers]
  generalize c.toNat = v at hc
  split_ifs with h₁ h₂ h₃
  · rfl
  · rw [Nat.mod_eq_of_lt (by omega : v / 64 < 32)]
    simp [digits]
  · rw [Nat.mod_eq_of_lt (by omega : v / 4096 < 16)]
    simp [digits]
  · rw [Nat.mod_eq_of_lt (by omega : v / 262144 < 8)]
    simp [digits]

theorem ofNat_cons_lt {x y : Nat} {s t : List UInt8} (hy : y < 256) (h : x < y ∨ x = y ∧ s < t) :
    UInt8.ofNat x :: s < UInt8.ofNat y :: t := by
  rw [List.cons_lt_cons_iff]
  rcases h with h | ⟨rfl, h⟩
  · left
    rw [UInt8.lt_iff_toNat_lt, UInt8.toNat_ofNat', UInt8.toNat_ofNat', Nat.mod_eq_of_lt hy,
      Nat.mod_eq_of_lt (h.trans hy)]
    exact h
  · exact .inr ⟨rfl, h⟩

/-- Codes that agree but for their last digits compare as these. -/
theorem digits_append_lt {k v w : Nat} (hlt : v < w) (heq : v / 64 ^ k = w / 64 ^ k)
    (s t : List UInt8) : digits k v ++ s < digits k w ++ t := by
  induction k with
  | zero =>
    rw [Nat.pow_zero, Nat.div_one, Nat.div_one] at heq
    exact absurd heq (Nat.ne_of_lt hlt)
  | succ k ih =>
    rw [Nat.pow_succ, ← Nat.div_div_eq_div_mul, ← Nat.div_div_eq_div_mul] at heq
    have hle : v / 64 ^ k ≤ w / 64 ^ k := Nat.div_le_div_right hlt.le
    refine ofNat_cons_lt (by omega) ?_
    rcases Nat.lt_or_eq_of_le hle with h | h
    · exact .inl (by omega)
    · exact .inr ⟨by rw [h], ih h⟩

theorem leadOf_lt {v w : Nat} (h : v < w) :
    leadOf v < leadOf w ∨
      leadOf v = leadOf w ∧ followers v = followers w ∧
        v / 64 ^ followers w = w / 64 ^ followers w := by
  unfold leadOf followers
  split_ifs <;> omega

theorem leadOf_lt_256 {v : Nat} (h : v < 0x110000) : leadOf v < 256 := by
  rw [leadOf]
  split_ifs <;> omega

theorem encode_append_lt {c d : Char} (h : c < d) (s t : List UInt8) :
    String.utf8EncodeChar c ++ s < String.utf8EncodeChar d ++ t := by
  have hlt : c.toNat < d.toNat := h
  rw [encode_eq, encode_eq]
  refine ofNat_cons_lt (leadOf_lt_256 (toNat_lt d)) ?_
  rcases leadOf_lt hlt with hlead | ⟨hlead, hf, hhigh⟩
  · exact .inl hlead
  · exact .inr ⟨hlead, hf ▸ digits_append_lt hlt hhigh s t⟩

/-! ## Texts -/

theorem flatMap_encode_lt {cs ds : List Char} (h : cs < ds) :
    cs.flatMap String.utf8EncodeChar < ds.flatMap String.utf8EncodeChar := by
  induction h with
  | @nil d ds =>
    rw [List.flatMap_cons, encode_eq, List.flatMap_nil]
    exact List.nil_lt_cons _ _
  | rel h => exact encode_append_lt h _ _
  | cons _ ih => exact List.append_left_lt ih

theorem bytesOf_le_iff {a b : String} : bytesOf a ≤ bytesOf b ↔ a ≤ b := by
  have hmono : ∀ {a b : String}, a < b → bytesOf a < bytesOf b := by
    intro a b h
    rw [bytesOf_eq_flatMap, bytesOf_eq_flatMap]
    exact flatMap_encode_lt (String.lt_iff_toList_lt.1 h)
  constructor
  · intro h
    exact le_of_not_gt fun hlt => h (hmono hlt)
  · intro h hlt
    rcases h.lt_or_eq with h | rfl
    · exact List.lt_asymm hlt (hmono h)
    · exact List.lt_irrefl _ hlt

theorem bytesOf_lt_iff {a b : String} : bytesOf a < bytesOf b ↔ a < b := by
  rw [← List.not_le, bytesOf_le_iff, not_le]

theorem bytesOf_inj {a b : String} : bytesOf a = bytesOf b ↔ a = b := by
  constructor
  · intro h
    have hle : bytesOf a ≤ bytesOf b := h ▸ List.le_refl _
    have hge : bytesOf b ≤ bytesOf a := h ▸ List.le_refl _
    exact le_antisymm (bytesOf_le_iff.1 hle) (bytesOf_le_iff.1 hge)
  · rintro rfl
    rfl

end PermScript
