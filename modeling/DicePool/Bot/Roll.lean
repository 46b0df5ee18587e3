import DicePool.Bot.Session
import DicePool.Roll.Render

/-!
# Bot/Roll — the command that rolls

The pool and the modifiers of the options make up the text of a roll, and options that are set count as
modifiers that are named.  A text that is refused is answered to the asker alone; a roll is answered to
all.
-/

namespace DicePool

/-- The options of a roll. -/
structure RollOptions extends Modifiers where
  /-- The text of the pool. -/
  pool : String
  /-- The text of the modifiers. -/
  words : Option String := none
deriving DecidableEq, Repr

namespace RollOptions

/-- The form of a roll. -/
def form : Form :=
  let flag (name description : String) : FormField :=
    ⟨name, .truth, some (.bool false), some description⟩
  [⟨"pool", .text none, none, some "Dice pool: a number, a sum like 3+2-1, or 'chance'"⟩,
   ⟨"modifiers", .nullable (.text (some 100)), some .null,
    some "Optional modifiers: rote, 9again, 8again, no10again"⟩,
   flag "rote" "Rote quality: re-roll failed dice once",
   flag "nine_again" "Re-roll 9s and 10s",
   flag "eight_again" "Re-roll 8s, 9s and 10s",
   flag "no_explode" "Do not re-roll 10s"]

/-- The options of checked values. -/
def ofValues (values : Named Json) : RollOptions :=
  let flag (name : String) : Bool := ((values.get? name).bind Json.bool?).getD false
  { pool := ((values.get? "pool").bind Json.str?).getD ""
    words := (values.get? "modifiers").bind Json.str?
    rote := flag "rote"
    nineAgain := flag "nine_again"
    eightAgain := flag "eight_again"
    noExplode := flag "no_explode" }

/-- The text of the roll: the pool and the words, as far as they are not empty, with a blank between. -/
def text (o : RollOptions) : String :=
  " ".intercalate ((o.pool :: o.words.toList).filter (· ≠ ""))

end RollOptions

namespace Bot

variable {σ : Type} [Source σ]

/-- How many rulesets are shared at a time. -/
def sharedSize : Nat := 8

/-- The settings of an invocation, or those that a run finds. -/
def settingsOf (inv : Invocation) : BotM σ Settings := do
  match inv.settings with
  | some s => return s
  | none => match Settings.load [] (← get).around with
    | .ok s => return s
    | .error e => throw (.settings e)

/-- Rolls with the dice on the table. -/
def rollTable (request : Request) (s : Session σ) : Except RollError Result × Session σ :=
  let (outcome, table) := s.table.roll request
  (outcome, { s with table })

/-- Rolls with the dice that are shared by all rolls of a seed and limit. -/
def rollShared (seed : Option Int) (limit : Int) (request : Request) (s : Session σ) :
    Except RollError Result × Session σ :=
  let key := (seed, limit)
  let rules := (s.shared.get? key).getD { source := .ofSeed (seed.getD s.entropy), limit }
  let (outcome, rules) := rules.roll request
  (outcome, { s with shared := s.shared.keep sharedSize key rules })

/-- Rolls with the dice that an invocation uses. -/
def rollDice (inv : Invocation) (settings : Settings) (request : Request) : BotM σ Result := do
  let outcome ← modifyGet fun s =>
    if inv.usesTable then rollTable request s
    else rollShared settings.diceSeed settings.maxExplosions request s
  BotM.reportAll (resolveJournal request.record outcome)
  match outcome with
  | .ok r => return r
  | .error e => throw (.roll e)

/-- The answer to a text that is refused. -/
def refuse (inv : Invocation) (text : String) (e : Pool.TextError) : BotM σ Reply := do
  BotM.count "roll.parse_error"
  BotM.report (.info "roll.parse_error"
    [("text", .str text), ("error", .str e.message), ("user_id", .str inv.userId)])
  return { content := "❌ " ++ e.message, ephemeral := true }

/-- What is reported about a roll. -/
def rollEvent (inv : Invocation) (request : Request) (r : Result) (digest : String) : Event :=
  .info "roll.resolved"
    [("user_id", .str inv.userId), ("guild_id", Json.strOrNull inv.guildId),
     ("pool_size", .int request.poolSize), ("values", .arr (r.values.map Pips.toJson)),
     ("successes", .int r.successes), ("is_chance_die", .bool r.isChance),
     ("is_botch", .bool r.isBotch), ("exploded_count", .int r.explodedCount),
     ("digest", .str digest)]

/-- How a user is addressed. -/
def mention (userId : String) : Option String :=
  if userId = "" then none else some ("<@" ++ userId ++ ">")

/-- Rolls and answers. -/
def answerRoll (inv : Invocation) (settings : Settings) (request : Request) : BotM σ Reply := do
  let r ← rollDice inv settings request
  BotM.count "roll.performed"
  BotM.countIf r.isChance "roll.chance"
  BotM.countIf r.isBotch "roll.botch"
  BotM.countIf r.isExceptional "roll.exceptional"
  match r.digest (some request) with
  | .error e => throw (.outOfRange e)
  | .ok digest =>
    BotM.report (rollEvent inv request r digest)
    match r.render (some request) none (mention inv.userId) with
    | .error e => throw (.numeral e)
    | .ok line => return { content := line }

/-- The command that rolls. -/
def roll (inv : Invocation) (options : RollOptions) : BotM σ Reply := do
  let settings ← settingsOf inv
  match Pool.requestOf settings.maxPool options.text.toList with
  | .error (.refused e) => refuse inv options.text e
  | .error (.numeral e) => throw (.numeral e)
  | .ok request => answerRoll inv settings (request.withModifiers options.toModifiers)

end Bot

end DicePool
