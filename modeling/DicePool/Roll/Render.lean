import DicePool.Roll.Record
import DicePool.Text.Blank

/-!
# Roll/Render — a roll as a line of chat

A line says who rolled what, what came out of it, and which dice fell: exploded dice stand in round
brackets and dice rolled again in square ones.  Rolls made here and records are rendered alike: main
statement `Result.line_record`.
-/

namespace DicePool

/-- A die among others, by the text of what it shows. -/
def Origin.bracket (shown : String) : Origin → String
  | .explosion => s!"({shown})"
  | .roteReroll => s!"[{shown}]"
  | .initial => shown

/-- Who rolled, if nobody is named. -/
def anybody : String := "You"

/-- The line about a chance die. -/
def chanceLine (who : String) (isBotch isSuccess : Bool) (dice : List String) : String :=
  let verdict := if isBotch then "botched" else if isSuccess then "succeeded" else "failed"
  s!"{who} rolled a chance die and {verdict}: " ++ ", ".intercalate dice

/-- Modifiers in brackets, if there are any. -/
def bracketed : List String → String
  | [] => ""
  | mods => " (" ++ ", ".intercalate mods ++ ")"

/-- Successes in words. -/
def successWords (shown : String) (isOne : Bool) : String :=
  if isOne then s!"{shown} success" else s!"{shown} successes"

/-- The line about a pool. -/
def poolLine (who pool : String) (modifiers : List String) (successes : String) (dice : List String)
    (isExceptional : Bool) : String :=
  s!"{who} rolled {pool} dice" ++ bracketed modifiers ++ s!" and got {successes}: "
    ++ ", ".intercalate dice ++ if isExceptional then " Exceptional success!" else ""

/-! ## Rolls made here -/

/-- The text of a die. -/
def Die.text (d : Die) : Except NumeralError String :=
  d.value.text.map d.origin.bracket

namespace Result

/-- The dice that were rolled at first. -/
def initialCount (r : Result) : Nat :=
  r.dice.countP fun d => d.origin = .initial

/-- The size of the pool: the label that is given, else that of the request, else as many dice as were
rolled at first. -/
def poolText (r : Result) (request : Option Request) (label : Option String) :
    Except NumeralError String :=
  match label, request with
  | some l, _ => .ok l
  | none, some q => Numeral.write q.poolSize
  | none, none => .ok (toString r.initialCount)

/-- The line for a roll.  An empty mention counts as none. -/
def render (r : Result) (request : Option Request) (label mention : Option String) :
    Except NumeralError String := do
  let who := (mention.filter (· ≠ "")).getD anybody
  let dice ← r.dice.mapM Die.text
  if r.isChance then
    return chanceLine who r.isBotch r.isSuccess dice
  let pool ← r.poolText request label
  let modifiers := (request.map Request.describe).getD []
  let successes ← Numeral.write r.successes
  return poolLine who pool modifiers (successWords successes (r.successes = 1)) dice r.isExceptional

end Result

/-! ## Rolls from elsewhere -/

namespace Record

/-- A value in the middle of the line. -/
def shownIn (v : Json) : Except RecordError String :=
  v.shown.mapError .numeral

/-- The text of a die. -/
def Die.text (d : Die) : Except RecordError String :=
  (shownIn d.value).map d.origin.bracket

/-- The dice that were rolled at first. -/
def initialCount (r : Record) : Nat :=
  r.dice.countP fun d => d.origin = .initial

/-- The size of the pool: the label that is given, else that of the request, else as many dice as were
rolled at first. -/
def poolText (r : Record) (request : Option Request) (label : Json) : Except RecordError String :=
  match label, request with
  | .null, some q => shownIn q.poolSize
  | .null, none => .ok (toString r.initialCount)
  | l, _ => shownIn l

/-- Who rolled.  A mention that does not count as true names nobody. -/
def whoRolled (mention : Json) : Except RecordError String :=
  if mention.isTruthy then shownIn mention else .ok anybody

/-- The modifiers that show, if there is a request. -/
def modifiersShown : Option Request → Except RecordError (List String)
  | some q => q.describe
  | none => .ok []

/-- Whether the line about a chance die tells of success, which is not asked if it was botched. -/
def tellsSuccess (r : Record) : Except RecordError Bool :=
  if r.isBotch.isTruthy then .ok false else r.isSuccess

/-- The line for a roll. -/
def line (r : Record) (request : Option Request) (label mention : Json) :
    Except RecordError String := do
  let dice ← r.dice.mapM Die.text
  let who ← whoRolled mention
  if r.isChance.isTruthy then
    return chanceLine who r.isBotch.isTruthy (← r.tellsSuccess) dice
  let pool ← r.poolText request label
  let modifiers ← modifiersShown request
  let successes ← shownIn r.successes
  return poolLine who pool modifiers (successWords successes (r.successes.isNumber 1)) dice
    (← r.isExceptional)

end Record

/-! ## Rolls made here read as their records -/

/-- Steps that fail alike up to their errors fail alike one after the other. -/
theorem mapM_mapError {α β γ ε δ : Type} {f : α → β} {g : β → Except δ γ} {h : α → Except ε γ}
    {k : ε → δ} (hgh : ∀ x, g (f x) = (h x).mapError k) (l : List α) :
    (l.map f).mapM g = (l.mapM h).mapError k := by
  induction l with
  | nil => rfl
  | cons x l ih =>
    rw [List.map_cons, List.mapM_cons, List.mapM_cons, hgh, ih]
    cases h x <;> simp [bind, Except.bind, mapError_ok, mapError_error]
    cases l.mapM h <;> rfl

theorem Die.text_record (d : Die) : d.record.text = d.text.mapError .numeral := by
  simp only [Record.Die.text, Die.text, Die.record, Record.shownIn, Pips.shown_toJson]
  cases d.value.text <;> rfl

theorem Result.initialCount_record (r : Result) : r.record.initialCount = r.initialCount := by
  simp only [Record.initialCount, Result.record, Result.initialCount, List.countP_map]
  rfl

theorem Result.poolText_record (r : Result) (q : Option Request) (label : Option String) :
    r.record.poolText (q.map Request.record) (.strOrNull label)
      = (r.poolText q label).mapError .numeral := by
  cases label <;> cases q <;>
    simp [Record.poolText, Result.poolText, Json.strOrNull, Json.ofOption,
      Result.initialCount_record, Record.shownIn, Request.record, Json.shown_int] <;>
    rfl

theorem Record.whoRolled_strOrNull (mention : Option String) :
    whoRolled (.strOrNull mention) = .ok ((mention.filter (· ≠ "")).getD anybody) := by
  cases mention with
  | none => rfl
  | some m =>
    by_cases h : m = "" <;>
      simp [whoRolled, Json.strOrNull, Json.ofOption, Json.isTruthy, shownIn, Json.shown, h,
        mapError_ok, Option.filter]

theorem Request.modifiersShown_record (q : Option Request) :
    Record.modifiersShown (q.map Request.record) = .ok ((q.map Request.describe).getD []) := by
  cases q with
  | none => rfl
  | some q => exact q.describe_record

theorem Result.tellsSuccess_record (r : Result) :
    r.record.tellsSuccess = .ok (!r.isBotch && r.isSuccess) := by
  cases h : r.isBotch <;> simp [Record.tellsSuccess, r.isSuccess_record] <;>
    simp [Result.record, Json.isTruthy, h]

/-- Success is not told of a botch. -/
theorem chanceLine_botch (who : String) (b s : Bool) (dice : List String) :
    chanceLine who b (!b && s) dice = chanceLine who b s dice := by
  cases b <;> rfl

/-- **A roll made here and its record have the same line.** -/
theorem Result.line_record (r : Result) (q : Option Request) (label mention : Option String) :
    r.record.line (q.map Request.record) (.strOrNull label) (.strOrNull mention)
      = (r.render q label mention).mapError .numeral := by
  have hd : r.record.dice.mapM Record.Die.text = (r.dice.mapM Die.text).mapError .numeral :=
    mapM_mapError Die.text_record r.dice
  have hs : Record.shownIn r.record.successes = (Numeral.write r.successes).mapError .numeral := by
    simp [Record.shownIn, Result.record, Json.shown_int]
  have hn : r.record.successes.isNumber 1 = decide (r.successes = 1) := by
    simp [Result.record, Json.isNumber_int]
  have hc : r.record.isChance.isTruthy = r.isChance := rfl
  have hb : r.record.isBotch.isTruthy = r.isBotch := rfl
  unfold Record.line Result.render
  rw [hd, hc, hb, hs, hn, Record.whoRolled_strOrNull, r.tellsSuccess_record,
    r.isExceptional_record, r.poolText_record, Request.modifiersShown_record]
  cases r.dice.mapM Die.text with
  | error e => rfl
  | ok dice =>
    cases hch : r.isChance with
    | true => simp [bind, Except.bind, mapError_ok, pure, Except.pure, chanceLine_botch]
    | false =>
      cases r.poolText q label <;> cases Numeral.write r.successes <;> rfl

end DicePool
