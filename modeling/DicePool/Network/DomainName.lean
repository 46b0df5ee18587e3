import DicePool.Network.DomainName.Table
import DicePool.Text.Columns.Table
import DicePool.Text.Composed
import DicePool.Text.Hex
import DicePool.Text.Punycode
import DicePool.Text.Quoted

/-!
# Network/DomainName — names in any script and in ASCII

A domain name is made of labels with dots between them.  A label in another script than ASCII is sent as
`xn--` and its spelling in Punycode.  RFC 5891 says which labels there are: the text is composed,
hyphens do not stand at its ends or in its third and fourth place, no mark begins it, each character is
allowed where it stands, and the directions of its characters do not clash.
-/

namespace DicePool

open Text

/-- What is wrong with the directions of a label. -/
inductive DirectionError where
  /-- The first character belongs to no direction. -/
  | first (label : List Char)
  /-- A character from left to right stands in a label from right to left. -/
  | inRightToLeft (position : Nat)
  /-- A character from right to left stands in a label from left to right. -/
  | inLeftToRight (position : Nat)
  /-- Two sorts of digits are mixed. -/
  | mixedDigits
  /-- The last character belongs to no direction. -/
  | last
deriving DecidableEq, Repr

/-- What is wrong with a domain name. -/
inductive DomainError where
  /-- It has no labels. -/
  | emptyDomain
  /-- A label is empty. -/
  | emptyLabel
  /-- A label is too long. -/
  | longLabel
  /-- The name is too long. -/
  | longDomain
  /-- Nothing follows the mark of a label in Punycode. -/
  | noContent
  /-- A label in Punycode ends with a hyphen. -/
  | trailingHyphen
  /-- A label is no Punycode. -/
  | notPunycode
  /-- A label is not composed. -/
  | notComposed
  /-- Hyphens stand in the third and fourth place. -/
  | innerHyphens
  /-- A hyphen stands at an end. -/
  | outerHyphen
  /-- A mark begins a label. -/
  | initialMark
  /-- A character may not stand in a label. -/
  | character (c : Char) (position : Nat) (label : List Char)
  /-- A character may stand in a label, but not there. -/
  | context (c : Char) (position : Nat) (label : List Char)
  /-- A joiner may stand in a label, but not there. -/
  | joiner (c : Char) (position : Nat) (label : List Char)
  /-- The directions clash. -/
  | direction (e : DirectionError)
deriving DecidableEq, Repr

/-- The number of a character, in at least four capital hexadecimal digits. -/
def codeText (c : Char) : String :=
  let width := if c.toNat < 0x10000 then 4 else if c.toNat < 0x100000 then 5 else 6
  "U+" ++ String.ofList ((hexDigits width c.toNat).map Char.toUpper)

/-- A label in quotes. -/
def quotedLabel (label : List Char) : String :=
  String.ofList (quoted label)

/-- The text of the failure. -/
def DirectionError.message : DirectionError → String
  | .first label =>
    "First codepoint in label " ++ quotedLabel label ++ " must be directionality L, R or AL"
  | .inRightToLeft position =>
    s!"Invalid direction for codepoint at position {position} in a right-to-left label"
  | .inLeftToRight position =>
    s!"Invalid direction for codepoint at position {position} in a left-to-right label"
  | .mixedDigits => "Can not mix numeral types in a right-to-left label"
  | .last => "Label ends with illegal codepoint directionality"

/-- The text of the failure. -/
def DomainError.message : DomainError → String
  | .emptyDomain => "Empty domain"
  | .emptyLabel => "Empty Label"
  | .longLabel => "Label too long"
  | .longDomain => "Domain too long"
  | .noContent => "Malformed A-label, no Punycode eligible content found"
  | .trailingHyphen => "A-label must not end with a hyphen"
  | .notPunycode => "Invalid A-label"
  | .notComposed => "Label must be in Normalization Form C"
  | .innerHyphens => "Label has disallowed hyphens in 3rd and 4th position"
  | .outerHyphen => "Label must not start or end with a hyphen"
  | .initialMark => "Label begins with an illegal combining character"
  | .character c position label =>
    "Codepoint " ++ codeText c ++ s!" at position {position} of " ++ quotedLabel label ++ " not allowed"
  | .context c position label =>
    "Codepoint " ++ codeText c ++ s!" not allowed at position {position} in " ++ quotedLabel label
  | .joiner c position label =>
    "Unknown codepoint adjacent to joiner " ++ codeText c ++ s!" at position {position} in "
      ++ quotedLabel label
  | .direction e => e.message

namespace DomainName

/-! ## Characters in their places -/

/-- Whether the character may stand in every label. -/
def isValid (c : Char) : Bool :=
  validRuns.any fun (first, last, step) =>
    first ≤ c.toNat && c.toNat ≤ last && (c.toNat - first) % step == 0

/-- Whether the character is a mark. -/
def isMark (c : Char) : Bool :=
  inRanges markRanges c.toNat

/-- Whether the character is drawn over or under another one. -/
def isOverlaid (c : Char) : Bool :=
  isMark c && !inRanges Columns.spacingMarkRanges c.toNat

/-- Whether the character is a mark that takes the vowel from a consonant. -/
def isVirama (c : Char) : Bool :=
  placeOf c == 9

/-- Whether the letter joins with the one behind it. -/
def joinsBehind (c : Char) : Bool :=
  inRanges joiningRanges c.toNat || inRanges joiningBehindRanges c.toNat

/-- Whether the letter joins with the one before it. -/
def joinsBefore (c : Char) : Bool :=
  inRanges joiningRanges c.toNat || inRanges joiningBeforeRanges c.toNat

/-- Whether a joiner or non-joiner may stand after `before`, which is read backwards, and in front of
`behind`: after a virama, and a non-joiner also between letters that would join. -/
def isJoinerAllowed (c : Char) (before behind : List Char) : Bool :=
  before.head?.any isVirama
    || c == '\u200c' && (before.dropWhile isOverlaid).head?.any joinsBehind
      && (behind.dropWhile isOverlaid).head?.any joinsBefore

/-- Whether the character is a digit of Arabic, which does not stand beside those of Persian. -/
def isArabicDigit (c : Char) : Bool :=
  '\u0660' ≤ c && c ≤ '\u0669'

/-- Whether the character is a digit of Persian. -/
def isPersianDigit (c : Char) : Bool :=
  '\u06f0' ≤ c && c ≤ '\u06f9'

/-- Whether the character may stand in labels of some sort only. -/
def isContextual (c : Char) : Bool :=
  ['\u00b7', '\u0375', '\u05f3', '\u05f4', '\u30fb'].contains c || isArabicDigit c || isPersianDigit c

/-- Whether such a character may stand where it does: a dot between two `l`, a sign of Greek numbers
before a Greek letter, a Hebrew mark after a Hebrew letter, a Japanese dot in a Japanese label, and
digits of one sort. -/
def isContextAllowed (c : Char) (before behind label : List Char) : Bool :=
  if c == '\u00b7' then before.head? == some 'l' && behind.head? == some 'l'
  else if c == '\u0375' then behind.head?.any fun d => inRanges greekRanges d.toNat
  else if c == '\u05f3' || c == '\u05f4' then
    before.head?.any fun d => inRanges hebrewRanges d.toNat
  else if c == '\u30fb' then label.any fun d => inRanges japaneseRanges d.toNat
  else if isArabicDigit c then !label.any isPersianDigit
  else !label.any isArabicDigit

/-- Checks the characters of a label from a place on, after `before`, which is read backwards. -/
def checkCharacters (label : List Char) : (before : List Char) → List Char → Except DomainError Unit
  | _, [] => .ok ()
  | before, c :: behind => do
    let position := before.length + 1
    if isValid c then pure ()
    else if c == '\u200c' || c == '\u200d' then
      if !isJoinerAllowed c before behind then throw (.joiner c position label)
    else if isContextual c then
      if !isContextAllowed c before behind label then throw (.context c position label)
    else throw (.character c position label)
    checkCharacters label (c :: before) behind

/-! ## Directions -/

/-- The direction of a character. -/
inductive Direction where
  /-- From left to right. -/
  | left
  /-- From right to left. -/
  | right
  /-- From right to left, in an Arabic script. -/
  | arabic
  /-- A digit. -/
  | digit
  /-- A digit of Arabic. -/
  | arabicDigit
  /-- None of its own. -/
  | neutral
  /-- That of the character that it is drawn over or under. -/
  | overlaid
deriving DecidableEq, Repr

/-- The direction of a character. -/
def Direction.of (c : Char) : Direction :=
  if c.isDigit || isPersianDigit c then .digit
  else if inRanges arabicDigitRanges c.toNat then .arabicDigit
  else if inRanges rightToLeftRanges c.toNat then .right
  else if inRanges arabicRanges c.toNat then .arabic
  else if isOverlaid c then .overlaid
  else if c == '-' || c == '\u200c' || c == '\u200d' || inRanges neutralRanges c.toNat then .neutral
  else .left

/-- Checks a label that runs from right to left. -/
def checkRightToLeft (ds : List Direction) : Except DirectionError Unit := do
  if let some i := ds.findIdx? (· == .left) then
    -- a second sort of digits before it is found first
    if mixes (ds.take i) then throw .mixedDigits else throw (.inRightToLeft (i + 1))
  if mixes ds then throw .mixedDigits
  match ds.reverse.find? (· != .overlaid) with
  | some .neutral => throw .last
  | _ => return ()
where
  /-- Whether both sorts of digits are there. -/
  mixes (ds : List Direction) : Bool := ds.contains .digit && ds.contains .arabicDigit

/-- Checks a label that runs from left to right. -/
def checkLeftToRight (ds : List Direction) : Except DirectionError Unit := do
  let isForeign (d : Direction) : Bool := d == .right || d == .arabic || d == .arabicDigit
  if let some i := ds.findIdx? isForeign then throw (.inLeftToRight (i + 1))
  match ds.reverse.find? (· != .overlaid) with
  | some .neutral => throw .last
  | _ => return ()

/-- Checks the directions of a label; without any from right to left there is nothing to check. -/
def checkDirections (label : List Char) : Except DirectionError Unit :=
  let ds := label.map Direction.of
  if !ds.any fun d => d == .right || d == .arabic || d == .arabicDigit then .ok ()
  else match ds with
    | .right :: _ => checkRightToLeft ds
    | .arabic :: _ => checkRightToLeft ds
    | .left :: _ => checkLeftToRight ds
    | _ => .error (.first label)

/-! ## Labels -/

/-- How long the text of a label may be. -/
def maxText : Nat := 254

/-- How long a label may be as it is sent. -/
def maxLabel : Nat := 63

/-- How long a name may be as it is sent. -/
def maxDomain : Nat := 253

/-- Checks a label. -/
def checkLabel (label : List Char) : Except DomainError Unit := do
  if label.isEmpty then throw .emptyLabel
  if maxText < label.length then throw .longLabel
  if !isComposed label then throw .notComposed
  if label[2]? == some '-' && label[3]? == some '-' then throw .innerHyphens
  if label.head? == some '-' || label.getLast? == some '-' then throw .outerHyphen
  if label.head?.any isMark then throw .initialMark
  checkCharacters label [] label
  (checkDirections label).mapError .direction

/-- What a label in Punycode begins with. -/
def mark : List Char := "xn--".toList

/-- The text of a label that is sent in ASCII, in lower case. -/
def decodeLabel (label : List Char) : Except DomainError (List Char) := do
  match mark.isPrefixOf? label with
  | none =>
    checkLabel label
    return label
  | some code =>
    if code.isEmpty then throw .noContent
    if code.getLast? == some '-' then throw .trailingHyphen
    match Punycode.decode? code with
    | none => throw .notPunycode
    | some text =>
      checkLabel text
      return text

/-- A label as it is sent. -/
def encodeLabel (label : List Char) : Except DomainError (List Char) := do
  let isPlain := label.all (·.toNat < 128)
  if isPlain then let _ ← decodeLabel label else checkLabel label
  let sent := if isPlain then label else mark ++ Punycode.encode label
  if maxLabel < sent.length then throw .longLabel
  return sent

/-! ## Names -/

/-- Whether the character stands between labels. -/
def isDot (c : Char) : Bool :=
  c == '.' || c == '\u3002' || c == '\uff0e' || c == '\uff61'

/-- The labels of a name, and whether a dot follows the last one. -/
def labels (name : List Char) : Except DomainError (List (List Char) × Bool) :=
  let parts := name.splitOnP isDot
  if name.isEmpty then .error .emptyDomain
  else if parts.getLast? == some [] then .ok (parts.dropLast, true)
  else .ok (parts, false)

/-- Labels with dots between them. -/
def join (labels : List (List Char)) (hasLastDot : Bool) : List Char :=
  ['.'].intercalate (labels ++ if hasLastDot then [[]] else [])

/-- A name in lower case as it is sent. -/
def encode (name : List Char) : Except DomainError (List Char) := do
  let (parts, hasLastDot) ← labels name
  let sent := join (← parts.mapM encodeLabel) hasLastDot
  if (if hasLastDot then maxDomain + 1 else maxDomain) < sent.length then throw .longDomain
  return sent

/-- The text of a name that is sent in ASCII, in lower case. -/
def decode (name : List Char) : Except DomainError (List Char) := do
  let (parts, hasLastDot) ← labels name
  return join (← parts.mapM decodeLabel) hasLastDot

end DomainName

end DicePool
