import DicePool.Number.Numeral
import DicePool.Text.Case

/-!
# Pool/Sum — the size of a pool, written as a sum

A pool is written `chance`, or as whole numbers joined by `+` and `-` with a sign allowed in front.
`terms` splits a sum into signs and runs of digits; blanks only separate.  `evaluate` adds the terms
up and refuses two signs in a row, two numbers without a sign between them, and a sign at the end.
The digits may be those of any script.
-/

namespace DicePool.Pool

open Text

/-- Why the text of a roll is refused.  Every text is given in lower case. -/
inductive TextError where
  /-- There is no text. -/
  | empty
  /-- The word stands after a modifier but is none. -/
  | afterModifiers (word : List Char)
  /-- The word is neither a modifier nor part of a pool. -/
  | unknownWord (word : List Char)
  /-- There are modifiers but no pool. -/
  | missingPool
  /-- The text is no sum at all. -/
  | notASum (expr : List Char)
  /-- Two signs follow each other. -/
  | doubleSign (expr : List Char)
  /-- Two numbers follow each other. -/
  | missingSign (expr : List Char)
  /-- A sign ends the sum. -/
  | trailingSign (expr : List Char)
  /-- A chance die is mixed with numbers. -/
  | chanceNotAlone
  /-- The pool is larger than the limit; both are given as written. -/
  | tooManyDice (pool limit : String)
deriving DecidableEq, Repr

/-- The text of the refusal. -/
def TextError.message : TextError → String
  | .empty => "Tell me how many dice to roll, e.g. `5` or `chance`."
  | .afterModifiers word => s!"Unexpected `{String.ofList word}` after modifiers."
  | .unknownWord word => s!"Unknown modifier or pool term: `{String.ofList word}`."
  | .missingPool => "Missing dice pool, e.g. `5` or `chance`."
  | .notASum expr => s!"Invalid dice pool: `{String.ofList expr}`."
  | .doubleSign expr => s!"Two operators in a row in dice pool: `{String.ofList expr}`."
  | .missingSign expr => s!"Missing operator in dice pool: `{String.ofList expr}`."
  | .trailingSign expr => s!"Dice pool ends with an operator: `{String.ofList expr}`."
  | .chanceNotAlone => "`chance` cannot be combined with other pool terms."
  | .tooManyDice pool limit => s!"Too many dice: {pool} (max {limit})."

/-- What goes wrong with the text of a roll. -/
inductive Fault where
  /-- The text breaks a rule of the notation. -/
  | refused (e : TextError)
  /-- A number is too long to be read or written. -/
  | numeral (e : NumeralError)
deriving DecidableEq, Repr

/-- The text of the fault. -/
def Fault.message : Fault → String
  | .refused e => e.message
  | .numeral e => e.message

/-- The sign before a number. -/
inductive Sign where
  /-- The number is added. -/
  | plus
  /-- The number is taken away. -/
  | minus
deriving DecidableEq, Repr

/-- A number with its sign. -/
def Sign.apply : Sign → Nat → Int
  | .plus, n => n
  | .minus, n => -n

/-- The sign that a character is. -/
def Sign.ofChar? (c : Char) : Option Sign :=
  if c = '+' then some .plus else if c = '-' then some .minus else none

/-- A part of a sum. -/
inductive Term where
  /-- A sign. -/
  | sign (s : Sign)
  /-- A number, as its digits. -/
  | number (digits : List Char)
deriving DecidableEq, Repr

/-- One more digit in front of the first number. -/
def consDigit (c : Char) : List Term → List Term
  | .number ds :: ts => .number (c :: ds) :: ts
  | ts => .number [c] :: ts

/-- The signs and the longest runs of digits of a text, in order; other characters only separate. -/
def terms : List Char → List Term
  | [] => []
  | c :: rest =>
    match Sign.ofChar? c with
    | some s => .sign s :: terms rest
    | none =>
      if !isDigit c then terms rest
      else if rest.head?.any isDigit then consDigit c (terms rest)
      else .number [c] :: terms rest

/-- What came last in a sum. -/
inductive Position where
  /-- Nothing yet. -/
  | start
  /-- A sign. -/
  | afterSign (s : Sign)
  /-- A number. -/
  | afterNumber
deriving DecidableEq, Repr

/-- The sign of a number that comes next; it is added unless the sign before it says otherwise. -/
def Position.sign : Position → Sign
  | .afterSign s => s
  | _ => .plus

/-- Adds terms to a total.  `expr` is the whole sum, for the refusals. -/
def evaluate (expr : List Char) : Position → Int → List Term → Except Fault Int
  | .afterNumber, total, [] => .ok total
  | _, _, [] => .error (.refused (.trailingSign expr))
  | .afterSign _, _, .sign _ :: _ => .error (.refused (.doubleSign expr))
  | _, total, .sign s :: ts => evaluate expr (.afterSign s) total ts
  | .afterNumber, _, .number _ :: _ => .error (.refused (.missingSign expr))
  | p, total, .number ds :: ts =>
    match Numeral.ofDigits ds with
    | .error e => .error (.numeral e)
    | .ok n => evaluate expr .afterNumber (total + p.sign.apply n) ts

/-- The word for a chance die. -/
def chance : List Char := "chance".toList

/-- Whether a character may stand in a sum. -/
def isSumChar (c : Char) : Bool :=
  isDigit c || c == '+' || c == '-' || isBlank c

/-- The size of the pool that a text gives. -/
def size (text : List Char) : Except Fault Int :=
  let expr := lower (strip text)
  if expr = chance then .ok 0
  else if expr.isEmpty || !expr.all isSumChar then .error (.refused (.notASum expr))
  else evaluate expr .start 0 (terms expr)

end DicePool.Pool
