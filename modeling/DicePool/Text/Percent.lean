import DicePool.Text.Hex
import DicePool.Text.Utf8

/-!
# Text/Percent — characters spelled by their bytes

An escape is a percent sign with the two hexadecimal digits of a byte.  `escape` spells every character
that is not plain by escapes, and leaves those that are there already.  `unescape` reads them as UTF-8,
where what is none becomes a replacement character.
-/

namespace DicePool.Text.Percent

/-- The bytes of a character as escapes. -/
def ofChar (c : Char) : List Char :=
  (Utf8.encode (String.singleton c)).flatMap fun b => '%' :: (hexDigits 2 b.toNat).map Char.toUpper

/-- A text with escapes for the characters that are not plain, where a percent sign may stand for itself. -/
def escape (isPlain : Char → Bool) (s : List Char) : List Char :=
  s.flatMap fun c => if c == '%' || isPlain c then [c] else ofChar c

/-- The bytes of a text, each escape being one. -/
def bytes : List Char → List UInt8
  | '%' :: a :: b :: rest => match hexValue? a, hexValue? b with
    | some m, some n => UInt8.ofNat (16 * m + n) :: bytes rest
    | _, _ => 0x25 :: bytes (a :: b :: rest)
  | c :: rest => Utf8.encode (String.singleton c) ++ bytes rest
  | [] => []
termination_by s => s.length

/-- A text without escapes. -/
def unescape (s : List Char) : List Char :=
  Utf8.decodeLossy (bytes s)

end DicePool.Text.Percent
