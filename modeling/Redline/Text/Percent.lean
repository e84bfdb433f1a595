import Redline.Text.Utf8

/-!
# Percent escapes

Addresses consist of visible ASCII characters. Every other character, and those that would be read
as a separator where they stand, are written as the bytes of their encoding, each after a percent
sign.
-/

namespace Redline.Text

/-! ## Escaping -/

/-- The upper case hexadecimal digit of the four lowest bits of a number. -/
def upperHexDigit (n : Nat) : Char := "0123456789ABCDEF".toList.getD (n % 16) '0'

/-- A byte after a percent sign. -/
def percentByte (b : UInt8) : List Char :=
  ['%', upperHexDigit (b.toNat / 16), upperHexDigit b.toNat]

/-- The characters with those escaped that are not ASCII, or a control character, or unsafe. -/
def percentEncode (isUnsafe : Char → Bool) (cs : List Char) : List Char :=
  cs.flatMap fun c ↦
    if c.toNat < 0x20 || 0x7F ≤ c.toNat || isUnsafe c then
      (encode (String.singleton c)).flatMap percentByte
    else [c]

/-! ## Reading escapes -/

/-- The value of a hexadecimal digit. -/
def hexDigitValue? (c : Char) : Option Nat :=
  let n := c.toNat
  if 0x30 ≤ n && n ≤ 0x39 then some (n - 0x30)
  else if 0x41 ≤ n && n ≤ 0x46 then some (n - 0x41 + 10)
  else if 0x61 ≤ n && n ≤ 0x66 then some (n - 0x61 + 10)
  else none

/-- The byte of two hexadecimal digits. -/
def escapedByte? (h l : UInt8) : Option UInt8 := do
  let h ← hexDigitValue? (Char.ofNat h.toNat)
  let l ← hexDigitValue? (Char.ofNat l.toNat)
  some (UInt8.ofNat (h * 16 + l))

/-- The bytes that bytes with escapes stand for; a percent sign without two digits stands for
itself. -/
def percentBytes : List UInt8 → List UInt8
  | b :: h :: l :: rest =>
    match if b = 0x25 then escapedByte? h l else none with
    | some byte => byte :: percentBytes rest
    | none => b :: percentBytes (h :: l :: rest)
  | bytes => bytes

/-- The bytes that a text with escapes stands for. -/
def percentDecode (cs : List Char) : List UInt8 := percentBytes (encode (String.ofList cs))

end Redline.Text
