/-!
# Lossy — bytes shown as a text

Bytes that are no UTF-8 are shown with the replacement character, one for each longest run of bytes
that begins a character without ending it.
-/

namespace CiPipeline
namespace Text

/-- The bytes that may follow a first byte: how many are needed, and the range of the first of
them. -/
def leadOf (b : UInt8) : Option (Nat × UInt8 × UInt8) :=
  if 0xC2 ≤ b ∧ b ≤ 0xDF then some (1, 0x80, 0xBF)
  else if b = 0xE0 then some (2, 0xA0, 0xBF)
  else if b = 0xED then some (2, 0x80, 0x9F)
  else if 0xE1 ≤ b ∧ b ≤ 0xEF then some (2, 0x80, 0xBF)
  else if b = 0xF0 then some (3, 0x90, 0xBF)
  else if 0xF1 ≤ b ∧ b ≤ 0xF3 then some (3, 0x80, 0xBF)
  else if b = 0xF4 then some (3, 0x80, 0x8F)
  else none

def replacement : Char := '\uFFFD'

/-- A character that was begun: its bits so far, the bytes it lacks, the range of the next byte. -/
structure Partial where
  bits : Nat
  missing : Nat
  low : UInt8
  high : UInt8

/-- The bits of a first byte that lacks `missing` bytes. -/
def leadBits (b : UInt8) (missing : Nat) : Nat := b.toNat % Nat.pow 2 (6 - missing)

/-- The text of the bytes after a character that may have been begun. -/
def lossyFrom (begun : Option Partial) : List UInt8 → List Char
  | [] => if begun.isSome then [replacement] else []
  | b :: bs =>
    let fresh (rest : Option Partial → List Char) : List Char :=
      if b < 0x80 then Char.ofNat b.toNat :: rest none
      else
        match leadOf b with
        | some (missing, low, high) => rest (some ⟨leadBits b missing, missing, low, high⟩)
        | none => replacement :: rest none
    match begun with
    | none => fresh fun begun => lossyFrom begun bs
    | some p =>
      if p.low ≤ b ∧ b ≤ p.high then
        let bits := p.bits * 64 + b.toNat % 64
        if p.missing = 1 then Char.ofNat bits :: lossyFrom none bs
        else lossyFrom (some ⟨bits, p.missing - 1, 0x80, 0xBF⟩) bs
      else replacement :: fresh fun begun => lossyFrom begun bs

def lossy (bytes : ByteArray) : String :=
  match String.fromUTF8? bytes with
  | some text => text
  | none => String.ofList (lossyFrom none bytes.toList)

end Text
end CiPipeline
