import DicePool.Digest.Sha2
import DicePool.Json.Printer
import DicePool.Roll.Record
import DicePool.Text.Hex

/-!
# Roll/Audit — the fingerprint of a roll

The payload of a roll tells everything about it as JSON.  Its canonical text, compact and sorted, is
hashed with SHA-256.  Only whole numbers of 64 bits can be told, signed or unsigned.
-/

namespace DicePool

/-- A number outside the range that can be told: below `-2 ^ 63` or from `2 ^ 64` on. -/
structure OutOfRange where
deriving DecidableEq, Repr

/-- The text of the failure. -/
def OutOfRange.message (_ : OutOfRange) : String :=
  "Integer exceeds 64-bit range"

/-- Whether a number can be told. -/
def inAuditRange (n : Int) : Bool :=
  -0x8000000000000000 ≤ n && n < 0x10000000000000000

/-- The fingerprint of a text. -/
def fingerprint (text : String) : String :=
  Text.ofBytes (Sha2.sha256 text.toUTF8.toList)

namespace Json

mutual

/-- Whether every whole number in a value can be told. -/
def isAuditable : Json → Bool
  | .int n => inAuditRange n
  | .arr items => areItemsAuditable items
  | .obj fields => areFieldsAuditable fields
  | _ => true

/-- Whether the items of a list can be told. -/
def areItemsAuditable : List Json → Bool
  | [] => true
  | v :: rest => v.isAuditable && areItemsAuditable rest

/-- Whether the fields of an object can be told. -/
def areFieldsAuditable : List (String × Json) → Bool
  | [] => true
  | (_, v) :: rest => v.isAuditable && areFieldsAuditable rest

end

theorem areItemsAuditable_map {α : Type} (f : α → Json) (l : List α) :
    areItemsAuditable (l.map f) = l.all fun x => (f x).isAuditable := by
  induction l with
  | nil => rfl
  | cons x l ih => simp [areItemsAuditable, ih]

end Json

namespace Record

/-- A roll with its request as JSON. -/
def audit (r : Record) (request : Option Request) : Json :=
  .obj (r.fields ++ (request.map fun q => ("request", q.payload)).toList)

/-- The fingerprint of a roll. -/
def digest (r : Record) (request : Option Request) : Except OutOfRange String :=
  let told := r.audit request
  if told.isAuditable then .ok (fingerprint (told.print .canonical)) else .error {}

end Record

namespace Result

/-- The canonical text of a roll with its request. -/
def auditText (r : Result) (request : Option Request) : String :=
  (r.record.audit (request.map Request.record)).print .canonical

/-- The numbers that are told. -/
def numbers (r : Result) (request : Option Request) : List Int :=
  r.dice.flatMap (fun d => d.value.count :: d.trigger.toList)
    ++ [r.successes, r.explodedCount] ++ (request.map (·.poolSize)).toList

/-- The fingerprint of a roll. -/
def digest (r : Result) (request : Option Request) : Except OutOfRange String :=
  if (r.numbers request).all inAuditRange then .ok (fingerprint (r.auditText request))
  else .error {}

end Result

/-! ## Rolls made here read as their records -/

theorem Pips.isAuditable_toJson (p : Pips) : p.toJson.isAuditable = inAuditRange p.count := by
  cases p with
  | number n => rfl
  | truth b => cases b <;> rfl

theorem Die.isAuditable_record (d : Die) :
    d.record.payload.isAuditable = (d.value.count :: d.trigger.toList).all inAuditRange := by
  cases h : d.trigger <;>
    simp [Record.Die.payload, Die.record, Json.isAuditable, Json.areFieldsAuditable,
      Pips.isAuditable_toJson, Json.ofOption, h]

theorem Result.isAuditable_audit (r : Result) (q : Option Request) :
    (r.record.audit (q.map Request.record)).isAuditable = (r.numbers q).all inAuditRange := by
  have hd : Json.areItemsAuditable (r.record.dice.map Record.Die.payload)
      = (r.dice.flatMap fun d => d.value.count :: d.trigger.toList).all inAuditRange := by
    rw [Result.record, List.map_map, Json.areItemsAuditable_map, List.all_flatMap]
    simp only [Function.comp_apply, Die.isAuditable_record]
  cases q <;>
    simp [Record.audit, Record.fields, Json.isAuditable, Json.areFieldsAuditable, hd,
      Result.numbers] <;>
    simp [Result.record, Request.record, Json.isAuditable, Json.areFieldsAuditable,
      Record.Request.payload, Record.Request.fields]

/-- **A roll made here and its record have the same fingerprint.** -/
theorem Result.digest_record (r : Result) (q : Option Request) :
    r.record.digest (q.map Request.record) = r.digest q := by
  simp only [Record.digest, Result.digest, Result.isAuditable_audit, Result.auditText]

end DicePool
