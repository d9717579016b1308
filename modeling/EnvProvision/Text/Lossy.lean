import EnvProvision.Text.Bytes

namespace EnvProvision.Text

def replacementCharacter : Char := '\ufffd'

-- What a first byte announces: the bits that it gives, how many bytes follow, and the bounds of the
-- first of them. The bounds rule out long forms, surrogates and what lies beyond Unicode.
def leading? (b : UInt8) : Option (Nat × Nat × UInt8 × UInt8) :=
  if b < 0x80 then some (b.toNat, 0, 0, 0)
  else if b < 0xC2 then none
  else if b < 0xE0 then some (b.toNat - 0xC0, 1, 0x80, 0xBF)
  else if b == 0xE0 then some (0, 2, 0xA0, 0xBF)
  else if b == 0xED then some (0xD, 2, 0x80, 0x9F)
  else if b < 0xF0 then some (b.toNat - 0xE0, 2, 0x80, 0xBF)
  else if b == 0xF0 then some (0, 3, 0x90, 0xBF)
  else if b < 0xF4 then some (b.toNat - 0xF0, 3, 0x80, 0xBF)
  else if b == 0xF4 then some (4, 3, 0x80, 0x8F)
  else none

-- The bytes that continue a character, `count` of them at most. Only the first has bounds of its
-- own.
def continuation (low high : UInt8) : Nat → Bytes → Bytes
  | count + 1, b :: rest =>
    if low ≤ b && b ≤ high then b :: continuation 0x80 0xBF count rest else []
  | _, _ => []

-- A run of bytes that starts a character but does not complete it, or starts none, reads as the
-- replacement character.
def decodeLossyChars : Bytes → List Char
  | [] => []
  | b :: rest =>
    match leading? b with
    | none => replacementCharacter :: decodeLossyChars rest
    | some (bits, count, low, high) =>
      let more := continuation low high count rest
      let c := if more.length < count then replacementCharacter
        else .ofNat (more.foldl (fun n b => n * 64 + (b.toNat - 0x80)) bits)
      c :: decodeLossyChars (rest.drop more.length)
termination_by bytes => bytes.length

def decodeLossy (bytes : Bytes) : String :=
  match bytes.text? with
  | some text => text
  | none => String.ofList (decodeLossyChars bytes)

example : decodeLossyChars [0x61, 0xE2, 0x82, 0x62, 0xFF, 0xC3, 0xA9] =
    ['a', '\ufffd', 'b', '\ufffd', 'é'] := by cbv

end EnvProvision.Text
