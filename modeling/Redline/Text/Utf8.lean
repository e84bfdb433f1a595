/-!
# UTF-8

Files and the output of programs are bytes. They become text by the well-formed byte sequences of
the Unicode standard (table 3-7): strictly, where one ill-formed byte spoils the whole, or
leniently, where every maximal ill-formed part becomes one U+FFFD.

A text is cut to a number of bytes without splitting a character.
-/

namespace Redline.Text

/-! ## Decoding -/

/-- A continuation byte between `lo` and `hi`. -/
def within (lo hi b : UInt8) : Bool := lo ≤ b && b ≤ hi

/-- The payload of a continuation byte. -/
def payload (b : UInt8) : Nat := b.toNat - 0x80

/-- The bounds of the second byte after a first byte of a sequence of three or four. -/
def secondBounds (b : UInt8) : UInt8 × UInt8 :=
  if b = 0xE0 then (0xA0, 0xBF)
  else if b = 0xED then (0x80, 0x9F)
  else if b = 0xF0 then (0x90, 0xBF)
  else if b = 0xF4 then (0x80, 0x8F)
  else (0x80, 0xBF)

/-- The character that begins at byte `b`, or `none` for an ill-formed part, together with the
number of bytes of `more` that belong to it. -/
def decodeFirst (b : UInt8) (more : List UInt8) : Option Char × Nat :=
  if b < 0x80 then (some (Char.ofNat b.toNat), 0)
  else if within 0xC2 0xDF b then
    match more with
    | b₁ :: _ =>
      if within 0x80 0xBF b₁ then (some (Char.ofNat ((b.toNat - 0xC0) * 64 + payload b₁)), 1)
      else (none, 0)
    | [] => (none, 0)
  else if within 0xE0 0xEF b then
    match more with
    | b₁ :: rest =>
      if within (secondBounds b).1 (secondBounds b).2 b₁ then
        match rest with
        | b₂ :: _ =>
          if within 0x80 0xBF b₂ then
            (some (Char.ofNat ((b.toNat - 0xE0) * 4096 + payload b₁ * 64 + payload b₂)), 2)
          else (none, 1)
        | [] => (none, 1)
      else (none, 0)
    | [] => (none, 0)
  else if within 0xF0 0xF4 b then
    match more with
    | b₁ :: rest =>
      if within (secondBounds b).1 (secondBounds b).2 b₁ then
        match rest with
        | b₂ :: rest =>
          if within 0x80 0xBF b₂ then
            match rest with
            | b₃ :: _ =>
              if within 0x80 0xBF b₃ then
                (some (Char.ofNat ((b.toNat - 0xF0) * 262144 + payload b₁ * 4096 +
                  payload b₂ * 64 + payload b₃)), 3)
              else (none, 2)
            | [] => (none, 2)
          else (none, 1)
        | [] => (none, 1)
      else (none, 0)
    | [] => (none, 0)
  else (none, 0)

/-- The characters that bytes encode, with `none` for every maximal ill-formed part. -/
def decode : List UInt8 → List (Option Char)
  | [] => []
  | b :: more => (decodeFirst b more).1 :: decode (more.drop (decodeFirst b more).2)
termination_by bytes => bytes.length
decreasing_by simp only [List.length_drop, List.length_cons]; omega

/-- The text that bytes encode, or `none` when they are not well formed. -/
def decodeStrict? (bytes : List UInt8) : Option String :=
  ((decode bytes).mapM id).map String.ofList

/-- The text that bytes encode, with U+FFFD for every maximal ill-formed part. -/
def decodeLossy (bytes : List UInt8) : String :=
  String.ofList ((decode bytes).map fun c ↦ c.getD (Char.ofNat 0xFFFD))

/-- The bytes of a text. -/
def encode (s : String) : List UInt8 := s.toUTF8.toList

/-! ## Cutting to a number of bytes -/

/-- The last place up to byte `n` where a character begins or the text ends. As long as the byte
belongs to a character that begins before it, the byte before is looked at. -/
def boundaryUpTo (s : String) : Nat → s.Pos
  | 0 => s.startPos
  | n + 1 => if h : String.Pos.Raw.IsValid s ⟨n + 1⟩ then ⟨⟨n + 1⟩, h⟩ else boundaryUpTo s n

/-- The text if it has at most `limit` bytes, else its characters up to the last boundary within the
limit, marked as cut. -/
def truncateToBytes (limit : Nat) (s : String) : String :=
  if s.utf8ByteSize ≤ limit then s
  else (s.sliceTo (boundaryUpTo s limit)).copy ++ " [truncated]"

end Redline.Text
