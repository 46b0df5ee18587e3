import DicePool.Cli.Param
import DicePool.Text.Likeness

/-!
# Cli/Parser — words on a command line

The words are options with their values and arguments proper.  A word that begins with a hyphen is an
option; its value is what follows an equals sign, or the next word, whatever that is.  After `--` nothing
is an option.  Where arguments must not be mixed with options, the first argument ends the options.
-/

namespace DicePool.Cli

/-- What is wrong with words. -/
inductive ParseError where
  /-- There is no such option; others are spelled alike. -/
  | noSuchOption (name : String) (others : List String)
  /-- An option is given no value and needs one. -/
  | noValue (name : String)
  /-- A flag is given a value. -/
  | unwantedValue (name : String)
deriving DecidableEq, Repr

/-- The question whether one of these words is meant. -/
def didYouMean : List String → String
  | [] => ""
  | [one] => " Did you mean " ++ quote one ++ "?"
  | several => " (Did you mean one of: " ++ ", ".intercalate (several.map quote) ++ "?)"

/-- The text of the failure. -/
def ParseError.message : ParseError → String
  | .noSuchOption name others => "No such option " ++ quote name ++ "." ++ didYouMean others
  | .noValue name => "Option " ++ quote name ++ " requires an argument."
  | .unwantedValue name => "Option " ++ quote name ++ " does not take a value."

/-- Whether the failure is told together with how the command is called. -/
def ParseError.showsUsage : ParseError → Bool
  | .noSuchOption .. => true
  | _ => false

/-- What options there are. -/
structure Grammar where
  /-- The options. -/
  params : List Param
  /-- Whether arguments may stand before options. -/
  interspersed : Bool

/-- The spelling of the option that asks for help. -/
def helpSpelling : String := "--help"

namespace Grammar

/-- Whether help can be asked for: no other option is spelled that way. -/
def hasHelp (g : Grammar) : Bool :=
  g.params.all fun p => !p.spellings.contains helpSpelling

/-- All spellings. -/
def allSpellings (g : Grammar) : List String :=
  g.params.flatMap Param.spellings ++ if g.hasHelp then [helpSpelling] else []

/-- The option of a spelling; of several the last one. -/
def find? (g : Grammar) (spelling : String) : Option Param :=
  g.params.reverse.find? (·.spellings.contains spelling)

end Grammar

/-- What words say. -/
structure Parsed where
  /-- The options that are given, in order, each with its text. -/
  given : List (String × String) := []
  /-- Whether help is asked for. -/
  asksHelp : Bool := false
  /-- The arguments. -/
  rest : List String := []

/-- Puts an option in front. -/
def Parsed.withGiven (name text : String) (p : Parsed) : Parsed :=
  { p with given := (name, text) :: p.given }

/-- Puts an argument in front. -/
def Parsed.withArgument (word : String) (p : Parsed) : Parsed :=
  { p with rest := word :: p.rest }

/-- A word up to its first equals sign, and what follows that. -/
def cut (word : String) : String × Option String :=
  match word.toList.dropWhile (· != '=') with
  | _ :: value => (String.ofList (word.toList.takeWhile (· != '=')), some (String.ofList value))
  | [] => (word, none)

/-- Whether a word is an option. -/
def isOption (word : String) : Bool :=
  match word.toList with
  | '-' :: _ :: _ => true
  | _ => false

/-- The failure of a word that spells no option.  After one hyphen, the first letter is to blame. -/
def unknown (g : Grammar) (word spelling : String) : ParseError :=
  match word.toList with
  | '-' :: '-' :: _ => .noSuchOption spelling (Text.alike spelling g.allSpellings)
  | '-' :: c :: _ => .noSuchOption (String.ofList ['-', c]) []
  | _ => .noSuchOption spelling []

/-- Reads the words, after an option that waits for its value if one does. -/
def parseFrom (g : Grammar) : Option (Param × String) → List String → Except ParseError Parsed
  | none, [] => .ok {}
  | some (_, spelling), [] => .error (.noValue spelling)
  | some (p, _), v :: rest => (parseFrom g none rest).map (·.withGiven p.name v)
  | none, "--" :: rest => .ok { rest }
  | none, word :: rest =>
    if !isOption word then
      if g.interspersed then (parseFrom g none rest).map (·.withArgument word)
      else .ok { rest := word :: rest }
    else
      let (spelling, value) := cut word
      match g.find? spelling with
      | some p => match p.takesValue, value with
        | true, some v => (parseFrom g none rest).map (·.withGiven p.name v)
        | true, none => parseFrom g (some (p, spelling)) rest
        | false, some _ => .error (.unwantedValue spelling)
        | false, none =>
          let text := if spelling = p.offSpelling then offText else onText
          (parseFrom g none rest).map (·.withGiven p.name text)
      | none =>
        if g.hasHelp ∧ spelling = helpSpelling then
          match value with
          | some _ => .error (.unwantedValue spelling)
          | none => (parseFrom g none rest).map fun p => { p with asksHelp := true }
        else .error (unknown g word spelling)

/-- Reads the words. -/
def parse (g : Grammar) (words : List String) : Except ParseError Parsed :=
  parseFrom g none words

/-! ## Values -/

/-- A value that cannot be converted. -/
structure ValueError where
  /-- The spelling of its option. -/
  spelling : String
  /-- What is wrong with it. -/
  refusal : Refusal
deriving DecidableEq, Repr

/-- The last text that is given for an option. -/
def Parsed.last? (p : Parsed) (name : String) : Option String :=
  (p.given.reverse.find? (·.1 = name)).map (·.2)

/-- The options in the order in which they are converted: those that are given, as they are given first,
then the others. -/
def conversionOrder (params : List Param) (p : Parsed) : List Param :=
  let names := (p.given.map (·.1)).eraseDups
  names.filterMap (fun n => params.find? (·.name = n))
    ++ params.filter fun q => !names.contains q.name

/-- The value of an option. -/
def valueOf (p : Parsed) (q : Param) : Except ValueError Json :=
  (match p.last? q.name with
    | some text => q.kind.convert text
    | none => q.kind.convertValue q.fallback).mapError fun refusal => ⟨q.spelling, refusal⟩

/-- The values of all options. -/
def values (params : List Param) (p : Parsed) : Except ValueError (Named Json) :=
  (conversionOrder params p).mapM fun q => do return (q.name, ← valueOf p q)

end DicePool.Cli
