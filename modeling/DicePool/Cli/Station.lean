import DicePool.Cli.Parser
import DicePool.Text.Escapes
import DicePool.Text.Fill

/-!
# Cli/Station — places on the way to a command

A command line leads from place to place, from the root to a command.  Each place has options, and a text on
how it is called, which is printed with a failure and at the head of its page of help.
-/

namespace DicePool.Cli

/-- A place in the tree. -/
structure Station where
  /-- The words that lead there. -/
  path : List String
  /-- Whether commands are expected there. -/
  isGroup : Bool
  /-- The options there. -/
  params : List Param

namespace Station

/-- How the program is called. -/
def program : String := "darkroller"

/-- The length of a line. -/
def lineWidth : Nat := 80

/-- How much of a line has to be left to write beside a path. -/
def leastRoom : Nat := 20

/-- How far in stands what is written below a path. -/
def belowIndent : Nat := 11

/-- So many blanks. -/
def blanks (n : Nat) : String :=
  String.ofList (List.replicate n ' ')

/-- The words that lead there, joined. -/
def pathText (s : Station) : String :=
  " ".intercalate (program :: s.path)

/-- The grammar of the words there. -/
def grammar (s : Station) : Grammar :=
  { params := s.params, interspersed := !s.isGroup }

/-- The words that may follow the path. -/
def placeholders (s : Station) : List String :=
  "[OPTIONS]" :: if s.isGroup then ["COMMAND", "[ARGS]..."] else []

/-- The lines on how the place is called.  What follows the path stands beside it, or below it where
the path leaves too little of a line. -/
def usage (s : Station) : String :=
  let head := "Usage: " ++ s.pathText ++ " "
  let shown := (Text.dropSequences head.toList).length
  let isRoomy := shown + leastRoom ≤ lineWidth
  let indent := if isRoomy then shown else belowIndent
  let taken := if isRoomy then head.length else indent
  let lines := Text.fill (lineWidth - taken) (lineWidth - indent) s.placeholders
  head ++ (if isRoomy then "" else "\n" ++ blanks indent)
    ++ ("\n" ++ blanks indent).intercalate lines ++ "\n"

/-- The line on where help is found, if it is. -/
def hint (s : Station) : String :=
  if s.grammar.hasHelp then "Try '" ++ s.pathText ++ " " ++ helpSpelling ++ "' for help.\n" else ""

/-- What is printed about a failure there. -/
def failure (s : Station) (message : String) : String :=
  s.usage ++ s.hint ++ "\n" ++ "Error: " ++ message ++ "\n"

/-- The word for the values of an option. -/
def kindWord : Kind → String
  | .flag => ""
  | .text => " TEXT"
  | .whole => " INTEGER"
  | .fraction => " FLOAT"
  | .truth => " BOOLEAN"

/-- The options with what they are for. -/
def optionRows (s : Station) : List (String × String) :=
  s.params.map (fun p => (p.spelling ++ kindWord p.kind, p.help))
    ++ if s.grammar.hasHelp then [(helpSpelling, "Show this message and exit.")] else []

/-- Rows of two columns. -/
def columnText (rows : List (String × String)) : String :=
  let width := (rows.map fun r => r.1.length).foldl max 0
  "".intercalate (rows.map fun (name, text) =>
    if text = "" then "  " ++ name ++ "\n"
    else "  " ++ name ++ blanks (width - name.length + 2) ++ text ++ "\n")

/-- The page of help on the place, given the commands there. -/
def page (s : Station) (commands : List String) : String :=
  let names := commands.mergeSort fun a b => a ≤ b
  s.usage
    ++ (if s.optionRows.isEmpty then "" else "\nOptions:\n" ++ columnText s.optionRows)
    ++ (if names.isEmpty then "" else "\nCommands:\n" ++ columnText (names.map fun n => (n, "")))

end Station

end DicePool.Cli
