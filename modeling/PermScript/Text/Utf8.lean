/-
Text from bytes that may not be text. A strict reading is the library's
own; this one never fails and marks each broken stretch with one
replacement character.
-/
namespace PermScript.Text

/-- The mark for bytes that are not text. -/
def replacement : Char := '\ufffd'

/-- The number of bytes that a lead byte announces and the range its second
byte has to lie in, which leaves out overlong forms, surrogates and code
points past the last. -/
def leadByte (b : UInt8) : Option (Nat × UInt8 × UInt8) :=
  if 0xC2 ≤ b ∧ b ≤ 0xDF then some (2, 0x80, 0xBF)
  else if b = 0xE0 then some (3, 0xA0, 0xBF)
  else if b = 0xED then some (3, 0x80, 0x9F)
  else if 0xE1 ≤ b ∧ b ≤ 0xEF then some (3, 0x80, 0xBF)
  else if b = 0xF0 then some (4, 0x90, 0xBF)
  else if b = 0xF4 then some (4, 0x80, 0x8F)
  else if 0xF1 ≤ b ∧ b ≤ 0xF3 then some (4, 0x80, 0xBF)
  else none

/-- Reads bytes from left to right. `pending` counts the continuation bytes
that the character under construction, of value `code` so far, still needs;
`low` and `high` bound the next of them. A byte that breaks a character
marks it and is read afresh. -/
def decodeAfter (pending code : Nat) (low high : UInt8) : List UInt8 → List Char
  | [] => if pending = 0 then [] else [replacement]
  | b :: rest =>
    if pending ≠ 0 ∧ low ≤ b ∧ b ≤ high then
      let code := code * 64 + (b &&& 0x3F).toNat
      if pending = 1 then Char.ofNat code :: decodeAfter 0 0 0 0 rest
      else decodeAfter (pending - 1) code 0x80 0xBF rest
    else
      let broken := if pending = 0 then [] else [replacement]
      broken ++
        if b < 0x80 then Char.ofNat b.toNat :: decodeAfter 0 0 0 0 rest
        else match leadByte b with
          | some (width, low, high) =>
            let mask : UInt8 := if width = 2 then 0x1F else if width = 3 then 0x0F else 0x07
            decodeAfter (width - 1) (b &&& mask).toNat low high rest
          | none => replacement :: decodeAfter 0 0 0 0 rest

/-- The text of `bytes`, with a replacement character for each maximal
broken stretch. -/
def decodeLossy (bytes : ByteArray) : String :=
  String.ofList (decodeAfter 0 0 0 0 bytes.toList)

end PermScript.Text
