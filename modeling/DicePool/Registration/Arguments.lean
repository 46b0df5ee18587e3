import DicePool.Text.Digit
import DicePool.Text.Fill
import DicePool.Text.Quoted

/-!
# Registration/Arguments — what is asked of the registration

One of three actions has to be named, `--status`, `--register` or `--unregister`; the scope is global
unless `--guild` is given, with the id of a guild or without.  A long option may be abbreviated as long
as that is unambiguous.  After `--` nothing is an option.
-/

namespace DicePool.Registration

/-- What is to be done. -/
inductive Action where
  /-- Show which commands are registered. -/
  | status
  /-- Register the commands. -/
  | register
  /-- Withdraw the commands. -/
  | unregister
deriving DecidableEq, Repr

/-- Which guild is named. -/
inductive GuildChoice where
  /-- None. -/
  | none
  /-- The one that the environment names. -/
  | fromEnvironment
  /-- The one of an id. -/
  | id (s : String)
deriving DecidableEq, Repr

/-- An option. -/
inductive Switch where
  /-- Show how the program is called. -/
  | help
  /-- Name an action. -/
  | action (a : Action)
  /-- Name the global scope, which is named anyway. -/
  | isGlobal
  /-- Name a guild. -/
  | guild
deriving DecidableEq, Repr

/-- The options by spelling. -/
def spellings : List (String × Switch) :=
  [("-h", .help), ("--help", .help), ("--status", .action .status), ("--register", .action .register),
   ("--unregister", .action .unregister), ("--global", .isGlobal), ("--guild", .guild)]

/-- The name of an option: its spellings. -/
def Switch.name (s : Switch) : String :=
  "/".intercalate ((spellings.filter (·.2 = s)).map (·.1))

/-- The actions, in order. -/
def actions : List Action := [.status, .register, .unregister]

/-- What is wrong with arguments. -/
inductive ArgumentError where
  /-- An abbreviation stands for several options. -/
  | ambiguous (word : String) (spellings : List String)
  /-- An option is given a value and takes none. -/
  | unexpectedValue (s : Switch) (value : String)
  /-- Two actions are named. -/
  | conflict (second first : Action)
  /-- No action is named. -/
  | noAction
  /-- Words are no options. -/
  | unrecognized (words : List String)
deriving DecidableEq, Repr

/-- The text of the failure. -/
def ArgumentError.message : ArgumentError → String
  | .ambiguous word spellings =>
    "ambiguous option: " ++ word ++ " could match " ++ ", ".intercalate spellings
  | .unexpectedValue s value =>
    "argument " ++ s.name ++ ": ignored explicit argument "
      ++ String.ofList (Text.quoted value.toList)
  | .conflict second first =>
    "argument " ++ (Switch.action second).name ++ ": not allowed with argument "
      ++ (Switch.action first).name
  | .noAction =>
    "one of the arguments " ++ " ".intercalate (actions.map fun a => (Switch.action a).name)
      ++ " is required"
  | .unrecognized words => "unrecognized arguments: " ++ " ".intercalate words

/-- Why the program ends before it begins. -/
inductive Stop where
  /-- It is asked how it is called. -/
  | help
  /-- The arguments are wrong. -/
  | error (e : ArgumentError)
deriving DecidableEq, Repr

/-! ## Words -/

/-- What a word is. -/
inductive Word where
  /-- A value. -/
  | value
  /-- The end of the options. -/
  | separator
  /-- An option, perhaps with a value. -/
  | switch (s : Switch) (value : Option String)
  /-- The short option for help, with what follows it. -/
  | letters (rest : List Char)
  /-- It looks like an option, but is none. -/
  | unknown
deriving DecidableEq, Repr

/-- Whether the characters are a negative number. -/
def isNegativeNumber : List Char → Bool
  | '-' :: rest =>
    let whole := rest.takeWhile Text.isDigit
    match rest.dropWhile Text.isDigit with
    | [] => !whole.isEmpty
    | '.' :: fraction => !fraction.isEmpty && fraction.all Text.isDigit
    | _ => false
  | _ => false

/-- A word without and with what follows its first equals sign. -/
def cutValue (word : List Char) : List Char × Option String :=
  match word.dropWhile (· != '=') with
  | _ :: value => (word.takeWhile (· != '='), some (String.ofList value))
  | [] => (word, none)

/-- The options that a long word may abbreviate, by spelling. -/
def abbreviated (start : List Char) : List (String × Switch) :=
  spellings.filter fun p => start.isPrefixOf p.1.toList

/-- What a word is that spells no option. -/
def unspelled (word : String) : Word :=
  if isNegativeNumber word.toList || word.toList.contains ' ' then .value else .unknown

/-- What a word is that is not spelled like an option exactly. -/
def guess (word : String) : Except ArgumentError Word :=
  match word.toList with
  | '-' :: '-' :: _ =>
    let (start, value) := cutValue word.toList
    match abbreviated start with
    | [] => .ok (unspelled word)
    | [(_, s)] => .ok (.switch s value)
    | several => .error (.ambiguous word (several.map (·.1)))
  | '-' :: 'h' :: rest => .ok (.letters rest)
  | _ => .ok (unspelled word)

/-- What a word is. -/
def classify (word : String) : Except ArgumentError Word :=
  match word.toList with
  | '-' :: _ :: _ =>
    match spellings.lookup word with
    | some s => .ok (.switch s none)
    | none =>
      let (start, value) := cutValue word.toList
      match value, spellings.lookup (String.ofList start) with
      | some v, some s => .ok (.switch s (some v))
      | _, _ => guess word
  | _ => .ok .value

/-- What words are; after a separator all are values. -/
def classifyAll : List String → Except ArgumentError (List (String × Word))
  | [] => .ok []
  | "--" :: rest => .ok (("--", .separator) :: rest.map fun w => (w, .value))
  | word :: rest => do
    let kind ← classify word
    return (word, kind) :: (← classifyAll rest)

/-! ## Meaning -/

/-- What words ask for so far. -/
structure Asked where
  /-- The action. -/
  action : Option Action := none
  /-- The guild. -/
  guild : GuildChoice := .none
  /-- The words that are no options, in reverse. -/
  strays : List String := []

/-- Names an action; another one must not be named. -/
def Asked.withAction (asked : Asked) (a : Action) : Except Stop Asked :=
  match asked.action with
  | some first =>
    if first = a then .ok asked else .error (.error (.conflict a first))
  | none => .ok { asked with action := some a }

/-- Asks for help by letters: a letter that is no option is passed over, but a hyphen or an equals sign
makes what follows a value, which the option does not take. -/
def helpBy : List Char → Stop
  | '-' :: rest => .error (.unexpectedValue .help (String.ofList ('-' :: rest)))
  | 'h' :: '=' :: rest => .error (.unexpectedValue .help (String.ofList rest))
  | 'h' :: rest => helpBy rest
  | _ => .help

/-- Takes in the words in order. -/
def Asked.takeAll (asked : Asked) : List (String × Word) → Except Stop Asked
  | [] => .ok asked
  | (_, .switch .guild (some v)) :: rest => takeAll { asked with guild := .id v } rest
  | (_, .switch .guild none) :: (v, .value) :: rest => takeAll { asked with guild := .id v } rest
  | (_, .switch .guild none) :: rest => takeAll { asked with guild := .fromEnvironment } rest
  | (_, .switch .help none) :: _ => .error .help
  | (_, .letters rest) :: _ => .error (helpBy rest)
  | (_, .switch s (some v)) :: _ => .error (.error (.unexpectedValue s v))
  | (_, .switch (.action a) none) :: rest => do takeAll (← asked.withAction a) rest
  | (_, .switch .isGlobal none) :: rest => takeAll asked rest
  | (word, _) :: rest => takeAll { asked with strays := word :: asked.strays } rest

/-- What is asked of the registration. -/
structure Arguments where
  /-- What is to be done. -/
  action : Action
  /-- The guild, if one is named. -/
  guild : GuildChoice
deriving DecidableEq, Repr

/-- What arguments ask for. -/
def Arguments.parse (args : List String) : Except Stop Arguments :=
  match classifyAll args with
  | .error e => .error (.error e)
  | .ok words => do
    let asked ← ({} : Asked).takeAll words
    match asked.action, asked.strays with
    | none, _ => .error (.error .noAction)
    | some action, [] => .ok ⟨action, asked.guild⟩
    | some _, strays => .error (.error (.unrecognized strays.reverse))

/-! ## How the program is called -/

/-- The name of the program. -/
def program : String := "register_commands.py"

/-- What stands before the name of the program. -/
def usageLead : String := "usage: "

/-- The words that the program takes; what belongs together stands in brackets. -/
def synopsis : List String :=
  ["[-h]", "(" ++ " | ".intercalate (actions.map fun a => (Switch.action a).name) ++ ")",
    "[--global]", "[--guild [GUILD]]"]

/-- How the program is called, in lines of a length.  Its name stands beside the words it takes, which are
filled into lines, where it takes up three quarters of a line at most, and above them elsewhere. -/
def usage (columns : Nat) : String :=
  let head := usageLead.length + program.length
  let lines (indent : Nat) (words : List String) :=
    ("\n" ++ String.ofList (List.replicate indent ' ')).intercalate
      (Text.fill (columns - usageLead.length) (columns - indent) words)
  usageLead
    ++ (if 4 * head ≤ 3 * columns then lines (head + 1) (program :: synopsis)
      else program ++ "\n" ++ String.ofList (List.replicate usageLead.length ' ')
        ++ lines usageLead.length synopsis)
    ++ "\n"

/-- What is printed about wrong arguments, in lines of a length; the fault itself is not filled. -/
def ArgumentError.report (columns : Nat) (e : ArgumentError) : String :=
  usage columns ++ program ++ ": error: " ++ e.message ++ "\n"

end DicePool.Registration
