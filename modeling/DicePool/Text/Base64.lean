/-!
# Text/Base64 — bytes in sixty-four letters

Three bytes are written in four letters of six bits each.  One or two bytes that are left over are written in
the letters that they need, and equals signs fill up the four.
-/

namespace DicePool.Text.Base64

/-- The letter of a number below sixty-four. -/
def letter (n : Nat) : Char :=
  if n < 26 then Char.ofNat (65 + n)
  else if n < 52 then Char.ofNat (71 + n)
  else if n < 62 then Char.ofNat (n - 4)
  else if n = 62 then '+' else '/'

/-- The letters of bytes. -/
def encode : List UInt8 → List Char
  | a :: b :: c :: rest =>
    let n := 65536 * a.toNat + 256 * b.toNat + c.toNat
    letter (n / 262144) :: letter (n / 4096 % 64) :: letter (n / 64 % 64) :: letter (n % 64)
      :: encode rest
  | [a, b] =>
    let n := 256 * a.toNat + b.toNat
    [letter (n / 1024), letter (n / 16 % 64), letter (4 * n % 64), '=']
  | [a] => [letter (a.toNat / 4), letter (16 * a.toNat % 64), '=', '=']
  | [] => []

end DicePool.Text.Base64
