import DicePool.Json.Order
import DicePool.Number.Numeral

/-!
# Metrics — counters and histograms

Counters are numbers by name.  A histogram puts each observation into the first bucket whose bound it
does not exceed, or into the overflow bucket of the last bound, and keeps the sum and the number of
its observations.  `flatten` turns both into one list of numbers by name.

A measurement that cannot be read as a number fails, and by then its counter or histogram has been set
up: it shows up with zeros.
-/

namespace DicePool

/-- Why a measurement fails. -/
inductive MeasureError where
  /-- The text is no whole number. -/
  | numeral (e : NumeralError)
  /-- A value of this kind is never a number. -/
  | notANumber (kind : String)
  /-- The number is not finite. -/
  | infinite
  /-- The number is undefined. -/
  | undefined
  /-- The value cannot be compared with a bound. -/
  | incomparable (e : Json.Incomparable)
  /-- There is no bound. -/
  | noBounds
deriving DecidableEq, Repr

/-- The text of the failure. -/
def MeasureError.message : MeasureError → String
  | .numeral e => e.message
  | .notANumber kind =>
    s!"int() argument must be a string, a bytes-like object or a real number, not '{kind}'"
  | .infinite => "cannot convert float infinity to integer"
  | .undefined => "cannot convert float NaN to integer"
  | .incomparable e => e.message
  | .noBounds => "list index out of range"

/-- A value as a whole number: fractions are cut off and texts are read. -/
def wholeOf : Json → Except MeasureError Int
  | .int n => .ok n
  | .bool b => .ok (if b then 1 else 0)
  | .float x =>
    if x.isNaN then .error .undefined
    else if x.isInf then .error .infinite
    else .ok (Number.Exact.ofBits x.toBits).truncate
  | .str s => (Numeral.readWhole s.toList).mapError .numeral
  | v => .error (.notANumber v.kind)

/-- Observations of one quantity. -/
structure Histogram where
  /-- How many fell into each bucket that was hit. -/
  buckets : Named Int := []
  /-- The sum of what was observed. -/
  sum : Int := 0
  /-- How many were observed. -/
  count : Int := 0
deriving Inhabited

namespace Histogram

/-- The label that a word and a bound make. -/
def label (word : String) (bound : Json) : Except MeasureError String :=
  match bound.shown with
  | .ok text => .ok (word ++ text)
  | .error e => .error (.numeral e)

/-- The label of the bucket that a value falls into. -/
def bucketOf (value : Json) : List Json → Except MeasureError String
  | [] => .error .noBounds
  | bound :: bounds =>
    match value.compare? .atMost bound with
    | .error e => .error (.incomparable e)
    | .ok true => label "le_" bound
    | .ok false => if bounds.isEmpty then label "gt_" bound else bucketOf value bounds

/-- Counts one observation in a bucket. -/
def hit (h : Histogram) (label : String) : Histogram :=
  { h with buckets := h.buckets.put label (h.buckets.getD label 0 + 1) }

/-- Adds one observation to the sum. -/
def total (h : Histogram) (n : Int) : Histogram :=
  { h with sum := h.sum + n, count := h.count + 1 }

/-- One observation of a histogram; on failure it keeps what was done so far. -/
def observe (h : Histogram) (value : Json) (bounds : List Json) :
    Except MeasureError Unit × Histogram :=
  match bucketOf value bounds with
  | .error e => (.error e, h)
  | .ok label =>
    match wholeOf value with
    | .error e => (.error e, h.hit label)
    | .ok n => (.ok (), (h.hit label).total n)

/-- What a histogram contributes to the flat list. -/
def flatten (h : Histogram) (name : String) : Named Int :=
  h.buckets.map (fun (label, n) => (s!"histo.{name}.{label}", n))
    ++ [(s!"histo.{name}.sum", h.sum), (s!"histo.{name}.count", h.count)]

end Histogram

/-- Counters and histograms by name. -/
structure Metrics where
  /-- The counters. -/
  counters : Named Int := []
  /-- The histograms. -/
  histograms : Named Histogram := []
deriving Inhabited

namespace Metrics

/-- The bounds of a histogram where no others are given. -/
def defaultBounds : List Int := [1, 2, 5, 10, 20, 50, 100, 250, 500, 1000, 2000, 5000]

/-- The value of a counter; one that was never counted stands at zero. -/
def get (m : Metrics) (name : String) : Int :=
  m.counters.getD name 0

/-- Adds to a counter. -/
def add (m : Metrics) (name : String) (n : Int) : Metrics :=
  { m with counters := m.counters.put name (m.get name + n) }

/-- Counts once. -/
def increment (m : Metrics) (name : String) : Metrics :=
  m.add name 1

/-- Adds a value to a counter. -/
def addValue (m : Metrics) (name : String) (value : Json) : Except MeasureError Unit × Metrics :=
  match wholeOf value with
  | .ok n => (.ok (), m.add name n)
  | .error e => (.error e, m.add name 0)

/-- Observes a value under a name. -/
def observeValue (m : Metrics) (name : String) (value : Json) (bounds : List Json) :
    Except MeasureError Unit × Metrics :=
  let (outcome, h) := (m.histograms.getD name {}).observe value bounds
  (outcome, { m with histograms := m.histograms.put name h })

/-- Observes a number under a name, with the default bounds. -/
def observe (m : Metrics) (name : String) (n : Int) : Metrics :=
  (m.observeValue name (.int n) (defaultBounds.map .int)).2

/-- All numbers by name; where two share a name the later one stands. -/
def flatten (m : Metrics) : Named Int :=
  (m.histograms.flatMap fun (name, h) => h.flatten name).foldl
    (fun out (name, n) => out.put name n) m.counters

end Metrics

end DicePool
