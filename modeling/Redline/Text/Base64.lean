/-!
# Base 64

Three bytes are written as four letters of an alphabet of 64, six bits each. One or two bytes at the
end are written as two or three letters, and signs of equality fill up to four.
-/

namespace Redline.Text

/-- The letters, in order of their values. -/
def base64Letters : List Char :=
  "ABCDEFGHIJKLMNOPQRSTUVWXYZabcdefghijklmnopqrstuvwxyz0123456789+/".toList

/-- The letter of the six lowest bits of a number. -/
def base64Letter (n : Nat) : Char := base64Letters.getD (n % 64) '='

/-- Bytes written in base 64. -/
def base64 : List UInt8 → List Char
  | [] => []
  | [a] => [base64Letter (a.toNat / 4), base64Letter (a.toNat * 16), '=', '=']
  | [a, b] =>
    let n := a.toNat * 256 + b.toNat
    [base64Letter (n / 1024), base64Letter (n / 16), base64Letter (n * 4), '=']
  | a :: b :: c :: more =>
    let n := (a.toNat * 256 + b.toNat) * 256 + c.toNat
    base64Letter (n / 262144) :: base64Letter (n / 4096) :: base64Letter (n / 64) ::
      base64Letter n :: base64 more

end Redline.Text
