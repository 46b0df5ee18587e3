/-!
# Text/Hex — hexadecimal digits

`hexDigits` writes a number in a fixed number of lower-case hexadecimal digits.  `hexBytes?` reads
pairs of digits of either case, with ASCII white space allowed between pairs but not inside one.
-/

namespace DicePool.Text

/-- The hexadecimal digit of a number below sixteen. -/
def hexDigit (n : Nat) : Char :=
  if n < 10 then Char.ofNat (48 + n) else Char.ofNat (87 + n)

/-- The last `width` hexadecimal digits of `n`. -/
def hexDigits (width n : Nat) : List Char :=
  (List.range width).map fun i => hexDigit (n / Nat.pow 16 (width - 1 - i) % 16)

/-- The value of a hexadecimal digit. -/
def hexValue? (c : Char) : Option Nat :=
  if '0' ≤ c && c ≤ '9' then some (c.toNat - 48)
  else if 'a' ≤ c && c ≤ 'f' then some (c.toNat - 87)
  else if 'A' ≤ c && c ≤ 'F' then some (c.toNat - 55)
  else none

/-- Whether the character may stand between two pairs of hexadecimal digits. -/
def isHexGap (c : Char) : Bool :=
  c == ' ' || ('\t' ≤ c && c ≤ '\r')

/-- The bytes that pairs of hexadecimal digits spell. -/
def hexBytes? : List Char → Option (List UInt8)
  | [] => some []
  | c :: rest =>
    if isHexGap c then hexBytes? rest
    else match rest with
      | [] => none
      | d :: rest' => do
        let high ← hexValue? c
        let low ← hexValue? d
        return UInt8.ofNat (16 * high + low) :: (← hexBytes? rest')

/-- The text of bytes, two digits each. -/
def ofBytes (bytes : List UInt8) : String :=
  String.ofList (bytes.flatMap fun b => hexDigits 2 b.toNat)

end DicePool.Text
