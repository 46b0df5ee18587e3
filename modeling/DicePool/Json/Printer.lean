import DicePool.Json.Basic

/-!
# Json/Printer — JSON text

One printer with a record of decisions: what stands between items and after names, whether names
are sorted at every level, whether characters outside ASCII are escaped, and how fractional numbers are
laid out.  `compact` is the plain wire form, `canonical` sorts names so that equal values have one text,
and `spaced` is the sorted ASCII form with a space after each comma and colon.
-/

namespace DicePool.Json

/-- The decisions of a JSON text. -/
structure Style where
  /-- What stands between items and between fields. -/
  itemSeparator : String
  /-- What stands between a name and its value. -/
  nameSeparator : String
  /-- Whether the fields of each object are sorted by name. -/
  sorted : Bool
  /-- Whether characters outside printable ASCII are escaped. -/
  asciiOnly : Bool
  /-- How fractional numbers are laid out. -/
  layout : Number.Layout
  /-- Whether numbers that are not finite are written by name; else they are null. -/
  namesInfinite : Bool

/-- No blanks, fields in their own order. -/
def Style.compact : Style := ⟨",", ":", false, false, .usual, true⟩

/-- No blanks, fields sorted by name, fractional numbers terse. -/
def Style.canonical : Style := ⟨",", ":", true, false, .terse, false⟩

/-- A blank after each separator, fields sorted by name, ASCII only. -/
def Style.spaced : Style := ⟨", ", ": ", true, true, .usual, true⟩

/-- An escape by one unit of sixteen bits. -/
def unitEscape (n : Nat) : List Char :=
  '\\' :: 'u' :: Text.hexDigits 4 n

/-- One character inside a JSON string. -/
def stringChar (asciiOnly : Bool) (c : Char) : List Char :=
  if c == '"' then ['\\', '"']
  else if c == '\\' then ['\\', '\\']
  else if c == '\n' then ['\\', 'n']
  else if c == '\r' then ['\\', 'r']
  else if c == '\t' then ['\\', 't']
  else if c == '\x08' then ['\\', 'b']
  else if c == '\x0c' then ['\\', 'f']
  else if c.toNat < 0x20 then unitEscape c.toNat
  else if asciiOnly && 0x7e < c.toNat then
    if c.toNat < 0x10000 then unitEscape c.toNat
    else
      let rest := c.toNat - 0x10000
      unitEscape (0xd800 + rest / 0x400) ++ unitEscape (0xdc00 + rest % 0x400)
  else [c]

/-- A JSON string. -/
def stringText (asciiOnly : Bool) (s : String) : String :=
  String.ofList ('"' :: s.toList.flatMap (stringChar asciiOnly) ++ ['"'])

/-- A fractional number. -/
def floatText (style : Style) (x : Float) : String :=
  if x.isNaN then (if style.namesInfinite then "NaN" else "null")
  else if x.isInf then
    if style.namesInfinite then (if x < 0 then "-Infinity" else "Infinity") else "null"
  else style.layout.text x

mutual

/-- The JSON text of a value. -/
def print (style : Style) : Json → String
  | .null => "null"
  | .bool b => if b then "true" else "false"
  | .int n => toString n
  | .float x => floatText style x
  | .str s => stringText style.asciiOnly s
  | .arr items => "[" ++ style.itemSeparator.intercalate (printItems style items) ++ "]"
  | .obj fields =>
    let texts := printFields style fields
    let ordered := if style.sorted then texts.mergeSort fun a b => a.1 ≤ b.1 else texts
    "\x7b" ++ style.itemSeparator.intercalate (ordered.map (·.2)) ++ "\x7d"

/-- The texts of the items of a list. -/
def printItems (style : Style) : List Json → List String
  | [] => []
  | v :: rest => v.print style :: printItems style rest

/-- The names of the fields of an object, each with the text of the whole field. -/
def printFields (style : Style) : List (String × Json) → List (String × String)
  | [] => []
  | (k, v) :: rest =>
    (k, stringText style.asciiOnly k ++ style.nameSeparator ++ v.print style)
      :: printFields style rest

end

end DicePool.Json
