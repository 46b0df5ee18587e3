import DicePool.Journal
import DicePool.Json.Template
import DicePool.Settings.Basic
import DicePool.Text.Case

/-!
# Logging — where events are written

A plan has a level for the whole log and a list of sinks: the console, a file, or both, each with a
level of its own.  A sink takes the events that reach both levels.  `Plan.ofSettings` reads the levels
from settings, where a word that is no level falls back to that of the whole log and `NONE` drops the
sink.  Two words name other things than levels, and a plan with one of them fails.

An event is written as one object: its fields go before the circumstances in which it happened, values for
the gaps of its name are filled in, and what is said about a failure or the stack is left out.
-/

namespace DicePool.Logging

/-- The levels by name. -/
def levels : Named Nat :=
  [("CRITICAL", 50), ("FATAL", 50), ("ERROR", 40), ("WARNING", 30), ("WARN", 30), ("INFO", 20),
   ("DEBUG", 10), ("NOTSET", 0)]

/-- What a word for a level names. -/
inductive LevelWord where
  /-- A rank. -/
  | rank (n : Nat)
  /-- The pattern of a line. -/
  | pattern
  /-- The table of the styles of patterns. -/
  | styles
deriving DecidableEq, Repr

/-- What a word in upper case names, or another thing if it names nothing. -/
def LevelWord.ofName (fallback : LevelWord) (name : String) : LevelWord :=
  if name = "BASIC_FORMAT" then .pattern
  else if name = "_STYLES" then .styles
  else match levels.get? name with
    | some n => .rank n
    | none => fallback

/-- Why a plan is not carried out. -/
inductive PlanError where
  /-- A level is the pattern of a line. -/
  | pattern
  /-- A level is the table of styles. -/
  | styles
  /-- The path of the file has a character in it that no path has. -/
  | path
deriving DecidableEq, Repr

/-- The pattern of a line. -/
def linePattern : String := "%(levelname)s:%(name)s:%(message)s"

/-- The table of the styles of patterns, as it is shown. -/
def styleTable : String :=
  let row (mark style pattern : String) : String :=
    "'" ++ mark ++ "': (<class 'logging." ++ style ++ "'>, '" ++ pattern ++ "')"
  let braced (before name : String) : String := before ++ "\x7b" ++ name ++ "\x7d"
  let pattern (before : String) : String :=
    ":".intercalate (["levelname", "name", "message"].map (braced before))
  "\x7b" ++ ", ".intercalate [row "%" "PercentStyle" linePattern,
    row "\x7b" "StrFormatStyle" (pattern ""), row "$" "StringTemplateStyle" (pattern "$")] ++ "\x7d"

/-- The text of the failure. -/
def PlanError.message : PlanError → String
  | .pattern => "Unknown level: '" ++ linePattern ++ "'"
  | .styles => "Level not an integer or a valid string: " ++ styleTable
  | .path => "embedded null byte"

/-- The rank that a word names, if it names one. -/
def LevelWord.rank? : LevelWord → Except PlanError Nat
  | .rank n => .ok n
  | .pattern => .error .pattern
  | .styles => .error .styles

/-- What a sink writes to. -/
inductive Target where
  /-- The console. -/
  | console
  /-- A file, which is rotated at a size and of which so many old ones are kept. -/
  | file (path : String) (maxBytes backups : Int)
deriving DecidableEq, Repr

/-- A target with its level. -/
structure Sink where
  /-- What it writes to. -/
  target : Target
  /-- The least rank that it takes. -/
  level : Nat
deriving DecidableEq, Repr

/-- How events are written. -/
structure Plan where
  /-- The least rank that is written at all. -/
  level : Nat
  /-- The sinks. -/
  sinks : List Sink
deriving DecidableEq, Repr

/-- A word in upper case. -/
def upperWord (word : String) : String :=
  String.ofList (Text.upper word.toList)

/-- The name of the level of the whole log. -/
def wholeName (settings : Option Settings) : String :=
  upperWord ((settings.map (·.loggingLevel)).getD "INFO")

/-- The name of the level of a target: that of the whole log if it is empty, and `NONE` if nothing is
logged. -/
def targetName (settings : Option Settings) (pick : Settings → String) : String :=
  match settings with
  | none => wholeName settings
  | some s =>
    if !s.loggingEnabled then "NONE"
    else upperWord (if pick s = "" then wholeName settings else pick s)

/-- Whether the target can be opened. -/
def Target.check : Target → Except PlanError Unit
  | .console => .ok ()
  | .file path _ _ => if path.toList.contains '\x00' then .error .path else .ok ()

/-- The sink of a target, unless it is dropped. -/
def sink? (whole : LevelWord) (name : String) (target : Target) : Except PlanError (Option Sink) := do
  if name = "NONE" then return none
  target.check
  return some ⟨target, ← (LevelWord.ofName whole name).rank?⟩

/-- The file that is written to. -/
def fileTarget (settings : Option Settings) : Target :=
  let s := settings.getD {}
  .file s.loggingPath s.loggingMaxBytes s.loggingBackups

/-- The plan of settings. -/
def Plan.ofSettings (settings : Option Settings) : Except PlanError Plan := do
  let whole := LevelWord.ofName (.rank 20) (wholeName settings)
  let console ← sink? whole (targetName settings (·.loggingConsole)) .console
  let file ← sink? whole (targetName settings (·.loggingFile)) (fileTarget settings)
  return { level := ← whole.rank?, sinks := console.toList ++ file.toList }

/-- The sinks of files. -/
def Plan.files (p : Plan) : List Sink :=
  p.sinks.filter (·.target ≠ .console)

/-- Whether a sink takes an event of a severity. -/
def Plan.takes (p : Plan) (s : Sink) (severity : Severity) : Bool :=
  p.level ≤ severity.rank && s.level ≤ severity.rank

/-! ## Entries -/

/-- How an event is reported. -/
inductive Reporter where
  /-- With fields, by a method of this name. -/
  | structured (method : String)
  /-- As a text. -/
  | plain
deriving DecidableEq, Repr

/-- An event with what is known about the circumstances, in which it happened. -/
structure Entry where
  /-- The event. -/
  event : Event
  /-- The circumstances. -/
  context : Named Json
  /-- How it is reported. -/
  reporter : Reporter

/-- Why an event cannot be reported. -/
inductive EntryError where
  /-- A field is named like the event itself. -/
  | named (method : String)
  /-- The values for the gaps of its name stand under names. -/
  | unordered
  /-- The gaps of its name are not filled. -/
  | template (e : Json.TemplateError)
deriving DecidableEq, Repr

/-- The text of the failure. -/
def EntryError.message : EntryError → String
  | .named method => "BoundLogger." ++ method ++ "() got multiple values for argument 'event'"
  | .unordered => "0"
  | .template e => e.message

/-- Values with those of the circumstances that have other names. -/
def withContext (values context : Named Json) : Named Json :=
  context.foldl (fun l (name, v) => if (l.get? name).isSome then l else l.put name v) values

/-- Values without those of these names. -/
def without (names : List String) (values : Named Json) : Named Json :=
  values.filter fun (name, _) => !names.contains name

/-- What is left out of every line: what is said about a failure or the stack. -/
def leftOut : List String := ["exc_info", "stack_info"]

/-- Where the values for the gaps of a name stand. -/
def gapValues : String := "positional_args"

/-- What fills the gaps of a name: the only object of a list, or all values together. -/
def fillingOf : Json → Except EntryError Json
  | .arr [.obj (f :: fields)] => .ok (.obj (f :: fields))
  | .obj [_] => .error .unordered
  | .obj fields => .ok (.obj fields)
  | .arr items => .ok (.arr items)
  | .str s => .ok (.str s)
  | v => .error (.template (.noLength v.kind))

/-- The values of an event whose name has its gaps filled, if there are values for them. -/
def filled (name : String) (values : Named Json) : Except EntryError (Named Json) :=
  match values.get? gapValues with
  | none => .ok values
  | some .null => .ok values
  | some v =>
    if !v.isTruthy then .ok (without [gapValues] values)
    else do
      let text ← (Json.Template.fill name (← fillingOf v)).mapError .template
      return without [gapValues] (values.put "event" (.str text))

/-- What an entry says before it is written. -/
def Entry.said (e : Entry) : Except EntryError (Named Json) :=
  let level : Json := .str e.event.severity.name
  match e.reporter with
  | .structured method => do
    if (e.event.fields.get? "event").isSome then throw (.named method)
    let said := withContext (e.event.fields.put "event" (.str e.event.name)) e.context
    return without leftOut (← filled e.event.name (said.put "level" level))
  | .plain => .ok (withContext [("event", .str e.event.name), ("level", level)] e.context)

/-- The line of an entry. -/
def Entry.line (e : Entry) : Except EntryError (Named Json) :=
  e.said.map fun said => without leftOut (withContext said e.context)

/-- The lines of entries, each with how serious the event is. -/
def linesOf (entries : List Entry) : Except EntryError (List (Severity × Named Json)) :=
  entries.mapM fun e => return (e.event.severity, ← e.line)

/-- The lines that a sink writes.  A line with a number that is too long to be written is lost. -/
def Plan.lines (p : Plan) (s : Sink) (lines : List (Severity × Named Json)) : List (Named Json) :=
  (lines.filter fun (severity, line) => p.takes s severity && (Json.obj line).isWritable).map (·.2)

/-- A path without `.`, `..` and empty steps. -/
def normalPath (path : String) : String :=
  let steps := (path.toList.splitOn '/').foldl (fun done step =>
    if step == [] || step == ['.'] then done
    else if step == ['.', '.'] then
      (match done with
        | [] => [step]
        | last :: rest => if last == ['.', '.'] then step :: done else rest)
    else step :: done) []
  String.ofList (['/'].intercalate steps.reverse)

end DicePool.Logging
