/-!
# Text/Utf8 — characters as bytes

A character takes one to four bytes: a first byte, which tells how many follow, and tails.  The byte
after the first one is confined further, so that a character has one spelling only and no halves of
surrogate pairs are spelled.  `decode` yields a character for each spelling and a gap for each longest
run of bytes that begins a spelling and breaks off, or for a byte that begins none.
-/

namespace DicePool.Text.Utf8

/-- A spelling that has begun. -/
structure Pending where
  /-- The number that the bytes so far spell. -/
  code : Nat
  /-- How many bytes are still owed. -/
  owed : Nat
  /-- The least byte that may follow. -/
  low : UInt8 := 0x80
  /-- The greatest byte that may follow. -/
  high : UInt8 := 0xbf

/-- What a byte begins. -/
inductive Beginning where
  /-- It is a character. -/
  | character (c : Char)
  /-- It begins a spelling. -/
  | pending (p : Pending)
  /-- It begins nothing. -/
  | gap

/-- What a byte begins. -/
def first (b : UInt8) : Beginning :=
  let n := b.toNat
  if n < 0x80 then .character (Char.ofNat n)
  else if n < 0xc2 then .gap
  else if n < 0xe0 then .pending { code := n - 0xc0, owed := 1 }
  else if n = 0xe0 then .pending { code := 0, owed := 2, low := 0xa0 }
  else if n = 0xed then .pending { code := 0xd, owed := 2, high := 0x9f }
  else if n < 0xf0 then .pending { code := n - 0xe0, owed := 2 }
  else if n = 0xf0 then .pending { code := 0, owed := 3, low := 0x90 }
  else if n < 0xf4 then .pending { code := n - 0xf0, owed := 3 }
  else if n = 0xf4 then .pending { code := 4, owed := 3, high := 0x8f }
  else .gap

/-- Decodes after a spelling that has begun, if one has. -/
def decodeFrom : Option Pending → List UInt8 → List (Option Char)
  | none, [] => []
  | some _, [] => [none]
  | none, b :: rest => match first b with
    | .character c => some c :: decodeFrom none rest
    | .pending p => decodeFrom (some p) rest
    | .gap => none :: decodeFrom none rest
  | some p, b :: rest =>
    if p.low ≤ b ∧ b ≤ p.high then
      let code := 64 * p.code + (b.toNat - 0x80)
      if p.owed ≤ 1 then some (Char.ofNat code) :: decodeFrom none rest
      else decodeFrom (some { code, owed := p.owed - 1 }) rest
    else match first b with
      | .character c => none :: some c :: decodeFrom none rest
      | .pending q => none :: decodeFrom (some q) rest
      | .gap => none :: none :: decodeFrom none rest

/-- The characters of bytes, with gaps. -/
def decode (bytes : List UInt8) : List (Option Char) :=
  decodeFrom none bytes

/-- The characters of bytes, if there are no gaps. -/
def decode? (bytes : List UInt8) : Option (List Char) :=
  (decode bytes).mapM id

/-- The characters of bytes, with a replacement character for each gap. -/
def decodeLossy (bytes : List UInt8) : List Char :=
  (decode bytes).map (·.getD '\ufffd')

/-- The bytes of a text. -/
def encode (s : String) : List UInt8 :=
  s.toUTF8.toList

end DicePool.Text.Utf8
