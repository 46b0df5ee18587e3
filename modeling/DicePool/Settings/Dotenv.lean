import DicePool.Named
import DicePool.Text.Blank

/-!
# Settings/Dotenv — files of variables

A file of variables has lines `NAME=value`, with an optional `export` in front.  A value may stand in
single or double quotes, and then even run over several lines; without quotes it ends at the line end
or at a `#` after a blank.  `NAME` alone declares a variable without a value.  `${NAME}` stands for the
value of another variable, and `${NAME:-text}` for the text if there is none.  Where a declaration breaks
these rules, the rest of that line is passed over.
-/

namespace DicePool.Dotenv

open Text

/-- Whether the character ends a line. -/
def isLineEnd (c : Char) : Bool :=
  c == '\n' || c == '\r'

/-- Whether the character is blank inside a line. -/
def isGap (c : Char) : Bool :=
  isBlank c && !isLineEnd c

/-- Every line end as a line feed. -/
def plainLineEnds : List Char → List Char
  | '\r' :: '\n' :: rest => '\n' :: plainLineEnds rest
  | '\r' :: rest => '\n' :: plainLineEnds rest
  | c :: rest => c :: plainLineEnds rest
  | [] => []

/-- The text up to a closing quote, and what follows it.  A quote after a backslash closes nothing. -/
def quotedBody? (quote : Char) : List Char → Option (List Char × List Char)
  | '\\' :: c :: rest => (quotedBody? quote rest).map fun (body, after) => ('\\' :: c :: body, after)
  | c :: rest =>
    if c == quote then some ([], rest)
    else (quotedBody? quote rest).map fun (body, after) => (c :: body, after)
  | [] => none

/-- Replaces escapes: a backslash and a character that has a meaning after it. -/
def unescape (meaning : Char → Option Char) : List Char → List Char
  | '\\' :: c :: rest => match meaning c with
    | some d => d :: unescape meaning rest
    | none => '\\' :: unescape meaning (c :: rest)
  | c :: rest => c :: unescape meaning rest
  | [] => []

/-- The escapes between single quotes. -/
def singleMeaning (c : Char) : Option Char :=
  if c == '\\' || c == '\'' then some c else none

/-- The escapes between double quotes. -/
def doubleMeaning (c : Char) : Option Char :=
  if c == '\\' || c == '\'' || c == '"' then some c
  else if c == 'a' then some '\x07'
  else if c == 'b' then some '\x08'
  else if c == 'f' then some '\x0c'
  else if c == 'n' then some '\n'
  else if c == 'r' then some '\r'
  else if c == 't' then some '\t'
  else if c == 'v' then some '\x0b'
  else none

/-- A value without quotes: what stands before a blank and a `#`, without blanks at its end. -/
def bareValue : List Char → List Char
  | [] => []
  | c :: rest =>
    if isBlank c && (rest.dropWhile isBlank).head? == some '#' then []
    else c :: bareValue rest

/-- What was read from the front of a text, and what follows it; or the text where reading stopped. -/
abbrev Reading (α : Type) := Except (List Char) (α × List Char)

/-- The value in front of a text, after blanks. -/
def value (s : List Char) : Reading (List Char) :=
  let quoted (quote : Char) (meaning : Char → Option Char) (body : List Char) : Reading (List Char) :=
    match quotedBody? quote body with
    | some (v, rest) => .ok (unescape meaning v, rest)
    | none => .error s
  match s.dropWhile isGap with
  | '\'' :: body => quoted '\'' singleMeaning body
  | '"' :: body => quoted '"' doubleMeaning body
  | _ =>
    let line := bareValue (s.takeWhile (!isLineEnd ·))
    .ok (dropEndWhile isBlank (line.dropWhile isGap), s.dropWhile (!isLineEnd ·))

/-- The text after `export` and a blank, if they stand in front. -/
def dropExport (s : List Char) : List Char :=
  match "export".toList.isPrefixOf? s with
  | some rest => if rest.head?.any isGap then rest.dropWhile isGap else s
  | none => s

/-- A name in front of a text; a comment has none. -/
def name (s : List Char) : Reading (Option (List Char)) :=
  match s with
  | '#' :: _ => .ok (none, s)
  | '\'' :: rest =>
    let body := rest.takeWhile (· != '\'')
    match rest.dropWhile (· != '\'') with
    | _ :: rest => if body.isEmpty then .error s else .ok (some body, rest)
    | [] => .error s
  | _ =>
    let isNameChar (c : Char) : Bool := c != '=' && c != '#' && !isBlank c
    let body := s.takeWhile isNameChar
    if body.isEmpty then .error s else .ok (some body, s.dropWhile isNameChar)

/-- The text after the rest of a line, which may hold a comment only. -/
def lineEnd (s : List Char) : Except (List Char) (List Char) :=
  let s := s.dropWhile isGap
  let s := if s.head? == some '#' then s.dropWhile (!isLineEnd ·) else s
  match s with
  | [] => .ok []
  | c :: rest => if isLineEnd c then .ok rest else .error s

/-- A declaration in front of a text: its name, unless it is a comment, its value, and the rest. -/
def declaration (s : List Char) :
    Except (List Char) (Option (String × Option (List Char)) × List Char) := do
  let (name, rest) ← name (dropExport s)
  let rest := rest.dropWhile isGap
  let (value, rest) ← match rest with
    | '=' :: rest => (value rest).map fun (v, r) => (some v, r)
    | _ => .ok (none, rest)
  let rest ← lineEnd rest
  return (name.map fun n => (String.ofList n, value), rest)

/-- The declarations of a text, in order. -/
def declarations : Nat → List Char → List (String × Option (List Char))
  | 0, _ => []
  | fuel + 1, s =>
    match s.dropWhile isBlank with
    | [] => []
    | s => match declaration s with
      | .ok (some d, rest) => d :: declarations fuel rest
      | .ok (none, rest) => declarations fuel rest
      | .error rest => declarations fuel ((rest.dropWhile (!isLineEnd ·)).drop 1)

/-- A reference in front of a text, after `${`: its name, the text for want of a value, the rest. -/
def reference? (s : List Char) : Option (List Char × List Char × List Char) := do
  let name := s.takeWhile fun c => c != '\x7d' && c != ':'
  match s.drop name.length with
  | '\x7d' :: rest => return (name, [], rest)
  | ':' :: '-' :: rest =>
    let fallback := rest.takeWhile (· != '\x7d')
    match rest.drop fallback.length with
    | _ :: rest => return (name, fallback, rest)
    | [] => none
  | _ => none

/-- Replaces references by values. -/
def expand (valueOf : String → Option String) : Nat → List Char → List Char
  | 0, s => s
  | fuel + 1, s =>
    match s with
    | '$' :: '\x7b' :: rest => match reference? rest with
      | some (name, fallback, rest) =>
        (((valueOf (String.ofList name)).map String.toList).getD fallback)
          ++ expand valueOf fuel rest
      | none => '$' :: expand valueOf fuel ('\x7b' :: rest)
    | c :: rest => c :: expand valueOf fuel rest
    | [] => []

/-- A text without a byte order mark in front. -/
def dropMark : List Char → List Char
  | '\ufeff' :: rest => rest
  | s => s

/-- The variables that a file declares.  References see the variables before them; `fileFirst` says
whether those of the file or those of the environment win. -/
def declared (environment : Named String) (fileFirst : Bool) (text : String) :
    Named (Option String) :=
  let s := plainLineEnds (dropMark text.toList)
  (declarations (s.length + 1) s).foldl
    (fun vars (name, value) =>
      let inFile (n : String) : Option (Option String) := vars.get? n
      let outside (n : String) : Option (Option String) := (environment.get? n).map some
      let valueOf (n : String) : Option String :=
        let found := if fileFirst then inFile n <|> outside n else outside n <|> inFile n
        match found with
        | some v => some (v.getD "")
        | none => none
      vars.put name (value.map fun v => String.ofList (expand valueOf (v.length + 1) v)))
    []

end DicePool.Dotenv
