import DicePool.Text.Digit
import DicePool.Text.Hex
import DicePool.Text.Printable

/-!
# Text/Quoted — a text between quotes

A quoted text stands between single quotes, or between double quotes if it holds a single quote and
no double one.  The quote in use and the backslash are escaped, tab, line feed and carriage return
have short escapes, and other characters that do not print are written by their code point, in two,
four or eight hexadecimal digits.
-/

namespace DicePool.Text

/-- The quote that a text is put between. -/
def quoteOf (s : List Char) : Char :=
  if s.contains '\'' && !s.contains '"' then '"' else '\''

/-- One character between quotes `q`. -/
def quotedChar (q c : Char) : List Char :=
  if c == q || c == '\\' then ['\\', c]
  else if c == '\t' then ['\\', 't']
  else if c == '\n' then ['\\', 'n']
  else if c == '\r' then ['\\', 'r']
  else if isPrintable c then [c]
  else if c.toNat < 0x100 then '\\' :: 'x' :: hexDigits 2 c.toNat
  else if c.toNat < 0x10000 then '\\' :: 'u' :: hexDigits 4 c.toNat
  else '\\' :: 'U' :: hexDigits 8 c.toNat

/-- The text between quotes. -/
def quoted (s : List Char) : List Char :=
  let q := quoteOf s
  q :: s.flatMap (quotedChar q) ++ [q]

end DicePool.Text
