import DicePool.Toml.Value

/-!
# Toml/Document — a whole configuration text

A document is a sequence of lines: tables `[a.b]`, items of a list of tables `[[a.b]]`, and values
`key = value` that belong to the table above them.  What was declared once must not be declared again:
`Document.declared` holds the tables that are closed for a second declaration, and `Document.frozen`
those that nothing may be added to.
-/

namespace DicePool.Toml

/-- What was read so far. -/
structure Document where
  /-- The values, by name. -/
  fields : Named Value := []
  /-- The tables that must not be declared again. -/
  declared : List (List String) := []
  /-- The tables that a value has put on the way; they count as declared from the next table on. -/
  pending : List (List String) := []
  /-- What nothing may be added to, at any depth. -/
  frozen : List (List String) := []
  /-- The table that values belong to. -/
  header : List String := []

/-- Changes the table at a path, which is created if it is not there.  A list on the way stands for its
last table. -/
def update (change : Named Value → Except Fault (Named Value)) :
    List String → Named Value → Except Fault (Named Value)
  | [], fields => change fields
  | name :: path, fields =>
    match Named.get? fields name with
    | none => (update change path []).map fun inner => fields.put name (.obj inner)
    | some (.obj inner) => (update change path inner).map fun inner => fields.put name (.obj inner)
    | some (.arr items) =>
      match items.reverse with
      | .obj inner :: before =>
        (update change path inner).map fun inner =>
          fields.put name (.arr (.obj inner :: before).reverse)
      | _ => malformed
    | some _ => malformed

/-- Adds an empty table to the list of tables under a name. -/
def appendTable (name : String) (fields : Named Value) : Except Fault (Named Value) :=
  match Named.get? fields name with
  | none => .ok (fields.put name (.arr [.obj []]))
  | some (.arr items) => .ok (fields.put name (.arr (items ++ [.obj []])))
  | some _ => malformed

/-- Adds a value under a name that is free. -/
def addValue (name : String) (v : Value) (fields : Named Value) : Except Fault (Named Value) :=
  match Named.get? fields name with
  | none => .ok (fields.put name v)
  | some _ => malformed

namespace Document

/-- Whether nothing may be added at a path. -/
def isFrozen (d : Document) (path : List String) : Bool :=
  d.frozen.any fun p => p.isPrefixOf path

/-- Counts the tables on the way of earlier values as declared. -/
def settle (d : Document) : Document :=
  { d with declared := d.pending ++ d.declared, pending := [] }

/-- Declares a table. -/
def declareTable (d : Document) (path : List String) : Except Fault Document := do
  let d := d.settle
  if d.declared.contains path || d.isFrozen path then malformed
  else
    let fields ← update .ok path d.fields
    return { d with fields, declared := path :: d.declared, header := path }

/-- Declares a further table of a list of tables. -/
def declareItem (d : Document) (path : List String) : Except Fault Document := do
  let d := d.settle
  if d.isFrozen path then malformed
  else match path.reverse with
    | [] => malformed
    | name :: way =>
      let fields ← update (appendTable name) way.reverse d.fields
      let fresh (p : List String) : Bool := !path.isPrefixOf p
      return { d with
        fields, declared := path :: d.declared.filter fresh, frozen := d.frozen.filter fresh,
        header := path }

/-- The proper beginnings of a path that are not empty. -/
def beginnings (path : List String) : List (List String) :=
  (List.range (path.length - 1)).map fun i => path.take (i + 1)

/-- Adds a value under a path below the current table. -/
def define (d : Document) (path : List String) (v : Value) : Except Fault Document := do
  let ways := (beginnings path).map (d.header ++ ·)
  match path.reverse with
  | [] => malformed
  | name :: way =>
    let parent := d.header ++ way.reverse
    if ways.any d.declared.contains || d.isFrozen parent then malformed
    else
      let fields ← update (addValue name v) parent d.fields
      let frozen := if v.isContainer then (d.header ++ path) :: d.frozen else d.frozen
      return { d with fields, pending := ways ++ d.pending, frozen }

/-- One statement in front of a text, if there is one. -/
def statement (d : Document) (s : List Char) : Except Fault (Document × List Char) := do
  match s with
  | '[' :: '[' :: rest =>
    let (path, rest) ← key (s.length + 1) (skipSpace rest)
    let d ← d.declareItem path
    match rest with
    | ']' :: ']' :: rest => return (d, rest)
    | _ => malformed
  | '[' :: rest =>
    let (path, rest) ← key (s.length + 1) (skipSpace rest)
    let d ← d.declareTable path
    match rest with
    | ']' :: rest => return (d, rest)
    | _ => malformed
  | c :: _ =>
    if isBareKeyChar c || c == '"' || c == '\'' then
      let (path, rest) ← key (s.length + 1) s
      match rest with
      | '=' :: rest =>
        let (v, rest) ← value (2 * s.length + 2) (skipSpace rest)
        return (← d.define path v, rest)
      | _ => malformed
    else return (d, s)
  | [] => return (d, [])

/-- The lines of a text, up to its end. -/
def lines : Nat → Document → List Char → Except Fault Document
  | 0, _, _ => malformed
  | fuel + 1, d, s => do
    let (d, rest) ← d.statement (skipSpace s)
    match ← skipComment (skipSpace rest) with
    | [] => return d
    | '\n' :: rest => lines fuel d rest
    | _ => malformed

end Document

/-- The text with plain line ends. -/
def plainLineEnds : List Char → List Char
  | '\r' :: '\n' :: rest => '\n' :: plainLineEnds rest
  | c :: rest => c :: plainLineEnds rest
  | [] => []

/-- The values of a text, by name. -/
def parse (text : List Char) : Except Fault (Named Value) :=
  let s := plainLineEnds text
  (Document.lines (s.length + 1) {} s).map (·.fields)

end DicePool.Toml
