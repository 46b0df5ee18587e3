import DicePool.Text.Utf8

/-!
# Text/Encoding — which encoding bytes are in

A text that begins with an ASCII character shows by the zeros among its first four bytes whether characters
take one byte or more, two or four bytes, and which end of a number comes first.  Units of two bytes spell
characters by pairs of surrogates; half of a pair is read as a replacement character.
-/

namespace DicePool.Text

/-- How characters are written in bytes. -/
inductive Encoding where
  /-- In one byte or more. -/
  | utf8
  /-- In units of two bytes. -/
  | utf16 (bigFirst : Bool)
  /-- In four bytes. -/
  | utf32 (bigFirst : Bool)
deriving DecidableEq, Repr

namespace Encoding

/-- The encoding that the first bytes of a text show. -/
def detect : List UInt8 → Encoding
  | a :: b :: c :: d :: _ =>
    if a == 0 then if b == 0 then .utf32 true else .utf16 true
    else if b == 0 then if c == 0 && d == 0 then .utf32 false else .utf16 false
    else .utf8
  | [a, b] => if a == 0 then .utf16 true else if b == 0 then .utf16 false else .utf8
  | _ => .utf8

/-- The number that bytes spell, of which the first or the last one is worth most. -/
def number (bigFirst : Bool) (bytes : List UInt8) : Nat :=
  (if bigFirst then bytes else bytes.reverse).foldl (fun n b => 256 * n + b.toNat) 0

/-- The numbers that groups of bytes spell, if the groups are full. -/
def units? (bigFirst : Bool) (size : Nat) : Nat → List UInt8 → Option (List Nat)
  | _, [] => some []
  | 0, _ => none
  | fuel + 1, bytes =>
    if bytes.length < size then none
    else (units? bigFirst size fuel (bytes.drop size)).map (number bigFirst (bytes.take size) :: ·)

/-- The characters of units of two bytes. -/
def joinPairs : List Nat → List Char
  | [] => []
  | [n] => [if 0xd800 ≤ n && n < 0xe000 then '\ufffd' else Char.ofNat n]
  | m :: n :: rest =>
    if 0xd800 ≤ m && m < 0xdc00 && 0xdc00 ≤ n && n < 0xe000 then
      Char.ofNat (0x10000 + (m - 0xd800) * 0x400 + (n - 0xdc00)) :: joinPairs rest
    else (if 0xd800 ≤ m && m < 0xe000 then '\ufffd' else Char.ofNat m) :: joinPairs (n :: rest)

/-- The character of a number of four bytes, if it is that of one or half of a pair. -/
def wide? (n : Nat) : Option Char :=
  if 0x10ffff < n then none
  else some (if 0xd800 ≤ n && n < 0xe000 then '\ufffd' else Char.ofNat n)

/-- The characters of bytes, if these spell some. -/
def decode? (bytes : List UInt8) : Encoding → Option (List Char)
  | .utf8 => Utf8.decode? bytes
  | .utf16 bigFirst => (units? bigFirst 2 bytes.length bytes).map joinPairs
  | .utf32 bigFirst => (units? bigFirst 4 bytes.length bytes).bind (·.mapM wide?)

end Encoding

end DicePool.Text
