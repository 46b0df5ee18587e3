/-!
# Network/Address — numeric addresses

An address of version 4 is four numbers below 256 with points between them.  One of version 6 is eight
groups of up to four hexadecimal digits with colons between them; two colons stand once for all the
groups of zeros that are left out, the last two groups may be an address of version 4, and the name of a
zone may follow a percent sign.
-/

namespace DicePool.Address

/-- Whether a text is a number below 256, without zeros in front. -/
def isOctet (s : List Char) : Bool :=
  let value := s.foldl (fun n c => 10 * n + (c.toNat - 48)) 0
  !s.isEmpty && s.length ≤ 3 && s.all Char.isDigit && (s.head? != some '0' || s.length == 1) && value < 256

/-- Whether a text is an address of version 4. -/
def isVersion4 (s : List Char) : Bool :=
  let parts := s.splitOn '.'
  parts.length == 4 && parts.all isOctet

/-- Whether the character is a hexadecimal digit. -/
def isHexDigit (c : Char) : Bool :=
  c.isDigit || ('a' ≤ c && c ≤ 'f') || ('A' ≤ c && c ≤ 'F')

/-- Whether a text is a group of hexadecimal digits. -/
def isGroup (s : List Char) : Bool :=
  !s.isEmpty && s.length ≤ 4 && s.all isHexDigit

/-- The groups on one side of two colons, none if the side is empty. -/
def side (parts : List (List Char)) : List (List Char) :=
  if parts == [[]] then [] else parts

/-- Whether the parts between colons are eight groups, or fewer and two colons. -/
def areGroups (parts : List (List Char)) : Bool :=
  let inner := (parts.drop 1).dropLast
  match inner.findIdx? List.isEmpty with
  | none => parts.length == 8 && parts.all isGroup
  | some i =>
    let before := side (parts.take (i + 1))
    let behind := side (parts.drop (i + 2))
    before.length + behind.length < 8 && before.all isGroup && behind.all isGroup

/-- The parts with two groups in place of an address of version 4 at their end, if that is one. -/
def plainParts? (parts : List (List Char)) : Option (List (List Char)) :=
  match parts.getLast? with
  | some last =>
    if last.contains '.' then
      if isVersion4 last then some (parts.dropLast ++ [['0'], ['0']]) else none
    else some parts
  | none => none

/-- Whether a text is an address of version 6. -/
def isVersion6 (s : List Char) : Bool :=
  let address := s.takeWhile (· != '%')
  let zone := s.dropWhile (· != '%')
  let parts := address.splitOn ':'
  !s.contains '/' && (zone.isEmpty || (1 < zone.length && !(zone.drop 1).contains '%'))
    && 3 ≤ parts.length && (plainParts? parts).any areGroups

/-- Whether a text looks like an address of version 4: it consists of four runs of digits, with any
character between two runs. -/
def resemblesVersion4 (s : List Char) : Bool :=
  let runs := s.splitOnP fun c => !c.isDigit
  let separators := runs.length - 1
  -- a long run may be cut at digits inside it
  let cuts := runs.foldl (fun n r => n + (r.length - 1) / 2) 0
  separators ≤ 3 && runs.all (!·.isEmpty) && 3 ≤ separators + cuts

end DicePool.Address
