import DicePool.Bot.Roll
import DicePool.Proofs.Text.Words

/-!
# Proofs/Bot/Options — the options of a roll as values and as a text

The form of a roll takes options in whatever order they are given, and what is not given falls back.
`check_of_givenBy` says what it makes of options that are given as values of their own kinds: the same
options again, unless the text of the modifiers is too long. Their text is read as the words of the
pool and then those of the modifiers (`words_lower_text`).
-/

namespace DicePool

/-! ## Forms -/

namespace Shape

theorem checkFields_cons_of_get? {name : String} {fallback : Option Json} {v : Json} {s : Shape}
    {rest : List (String × Option Json × Shape)} {given : Named Json}
    (h : given.get? name = some v) :
    checkFields ((name, fallback, s) :: rest) given
      = both (fun v vs => (name, v) :: vs) (inside (.field name) (check s v))
          (checkFields rest given) := by
  simp [checkFields, h]

theorem checkFields_cons_of_fallback {name : String} {fallback : Json} {s : Shape}
    {rest : List (String × Option Json × Shape)} {given : Named Json}
    (h : given.get? name = none) :
    checkFields ((name, some fallback, s) :: rest) given
      = both (fun v vs => (name, v) :: vs) (inside (.field name) (.ok fallback))
          (checkFields rest given) := by
  simp [checkFields, h]

/-- **A field that falls back is checked as if its value had been given**, if that value is
accepted. -/
theorem checkFields_cons_of_getD {name : String} {fallback v : Json} {s : Shape}
    {rest : List (String × Option Json × Shape)} {given : Named Json}
    (hfallback : check s fallback = .ok fallback) (h : given.getD name fallback = v) :
    checkFields ((name, some fallback, s) :: rest) given
      = both (fun v vs => (name, v) :: vs) (inside (.field name) (check s v))
          (checkFields rest given) := by
  subst h
  rw [Named.getD]
  cases hget : given.get? name with
  | none => rw [checkFields_cons_of_fallback hget, Option.getD_none, hfallback]
  | some v => exact checkFields_cons_of_get? hget

/-- **Where all fields fall back, nothing need be given.** -/
theorem checkFields_nil {fields : List (String × Option Json × Shape)}
    (h : ∀ f ∈ fields, f.2.1.isSome) :
    checkFields fields [] = .ok (fields.map fun f => (f.1, f.2.1.getD .null)) := by
  induction fields with
  | nil => rw [checkFields, List.map_nil]
  | cons f fields ih =>
    obtain ⟨name, fallback, s⟩ := f
    rw [List.forall_mem_cons] at h
    obtain ⟨v, rfl⟩ := Option.isSome_iff_exists.1 h.1
    rw [checkFields_cons_of_fallback (Named.get?_nil name), ih h.2]
    rfl

end Shape

namespace RollOptions

open Text

/-! ## Values -/

/-- The options as values, one for each field of the form. -/
def values (o : RollOptions) : Named Json :=
  [("pool", .str o.pool), ("modifiers", Json.strOrNull o.words), ("rote", .bool o.rote),
   ("nine_again", .bool o.nineAgain), ("eight_again", .bool o.eightAgain),
   ("no_explode", .bool o.noExplode)]

/-- **The values of options read back.** -/
theorem ofValues_values (o : RollOptions) : ofValues o.values = o := by
  change { o with words := (Json.strOrNull o.words).str? } = o
  rw [Json.str?_strOrNull]

/-- Values give options: each is of its own kind, and what is not set need not be given. -/
structure GivenBy (o : RollOptions) (given : Named Json) : Prop where
  /-- The pool must be given. -/
  pool : given.get? "pool" = some (.str o.pool)
  /-- The text of the modifiers may be null. -/
  words : given.getD "modifiers" .null = Json.strOrNull o.words
  /-- A modifier that is not set may be absent. -/
  rote : given.getD "rote" (.bool false) = .bool o.rote
  /-- So may the next, … -/
  nineAgain : given.getD "nine_again" (.bool false) = .bool o.nineAgain
  /-- … the next, … -/
  eightAgain : given.getD "eight_again" (.bool false) = .bool o.eightAgain
  /-- … and the last. -/
  noExplode : given.getD "no_explode" (.bool false) = .bool o.noExplode

theorem givenBy_values (o : RollOptions) : o.GivenBy o.values := by
  constructor <;> rfl

/-- How long the text of the modifiers is. -/
def wordsLength (o : RollOptions) : Nat := (o.words.getD "").length

/-- The longest text of modifiers that the form accepts. -/
def maxWordsLength : Nat := 100

/-- The fields of the form: a text, a short text that may be null, and four truth values. -/
theorem fields_form : form.fields =
    [("pool", none, .text none),
     ("modifiers", some .null, .nullable (.text (some maxWordsLength))),
     ("rote", some (.bool false), .truth), ("nine_again", some (.bool false), .truth),
     ("eight_again", some (.bool false), .truth), ("no_explode", some (.bool false), .truth)] := rfl

theorem check_strOrNull (words : Option String) :
    Shape.check (.nullable (.text (some maxWordsLength))) (Json.strOrNull words)
      = if maxWordsLength < (words.getD "").length then complain .stringTooLong
        else .ok (Json.strOrNull words) := by
  cases words with
  | none => simp [Shape.check, Json.strOrNull, Json.ofOption]
  | some w => simp [Shape.check, Json.strOrNull, Json.ofOption, checkText]

/-- **The form accepts options as they are given, unless the text of the modifiers is too long.** -/
theorem check_of_givenBy {o : RollOptions} {given : Named Json} (h : o.GivenBy given) :
    form.check given =
      if maxWordsLength < o.wordsLength then .error [⟨[.field "modifiers"], .stringTooLong⟩]
      else .ok o.values := by
  have hpool (s : String) : Shape.check (.text none) (.str s) = .ok (.str s) := by
    simp [Shape.check, checkText]
  have hnull : Shape.check (.nullable (.text (some maxWordsLength))) .null = .ok .null := by
    simp [Shape.check]
  have htruth (b : Bool) : Shape.check .truth (.bool b) = .ok (.bool b) := by
    simp [Shape.check, checkTruth]
  rw [Form.check, fields_form, Shape.checkFields_cons_of_get? h.pool,
    Shape.checkFields_cons_of_getD hnull h.words,
    Shape.checkFields_cons_of_getD (htruth false) h.rote,
    Shape.checkFields_cons_of_getD (htruth false) h.nineAgain,
    Shape.checkFields_cons_of_getD (htruth false) h.eightAgain,
    Shape.checkFields_cons_of_getD (htruth false) h.noExplode, Shape.checkFields, check_strOrNull,
    hpool, htruth, htruth, htruth, htruth, ← wordsLength]
  split <;> rfl

theorem check_of_givenBy_of_le {o : RollOptions} {given : Named Json} (h : o.GivenBy given)
    (hshort : o.wordsLength ≤ maxWordsLength) : form.check given = .ok o.values := by
  rw [check_of_givenBy h, if_neg (Nat.not_lt.2 hshort)]

theorem check_values_eq_ok_iff (o : RollOptions) :
    form.check o.values = .ok o.values ↔ o.wordsLength ≤ maxWordsLength := by
  rw [check_of_givenBy o.givenBy_values]
  split
  next hlong => simp [Nat.not_le.2 hlong]
  next hshort => simp [Nat.not_lt.1 hshort]

/-! ## Text -/

/-- Texts with a blank between them are read one after another. -/
theorem words_lower_intercalate (l : List String) :
    Text.words (lower (" ".intercalate l).toList)
      = l.flatMap fun t => Text.words (lower t.toList) := by
  have htoList : " ".toList = [' '] := rfl
  rw [String.toList_intercalate, htoList]
  induction l with
  | nil => rfl
  | cons t l ih =>
    rw [List.flatMap_cons]
    cases l with
    | nil => simp
    | cons t' l =>
      rw [List.map_cons, List.map_cons, List.intercalate_cons_cons, List.append_assoc,
        List.singleton_append, lower_append_blank _ (by decide), words_append_blank _ (by decide),
        ← List.map_cons, ih]

/-- **The words of the text are those of the pool and then those of the modifiers.** -/
theorem words_lower_text (o : RollOptions) : Text.words (lower o.text.toList) =
    Text.words (lower o.pool.toList) ++ Text.words (lower (o.words.getD "").toList) := by
  -- what is empty has no words, so it may as well be kept
  have hkept (l : List String) :
      (l.filter (· ≠ "")).flatMap (fun t => Text.words (lower t.toList))
        = l.flatMap fun t => Text.words (lower t.toList) := by
    induction l with
    | nil => rfl
    | cons t l ih =>
      by_cases ht : t = ""
      · simpa [ht, lower, lower.go] using ih
      · rw [List.filter_cons_of_pos (by simpa using ht), List.flatMap_cons, List.flatMap_cons, ih]
  rw [text, words_lower_intercalate, hkept, List.flatMap_cons]
  cases o.words with
  | none => rfl
  | some w => simp

end RollOptions

end DicePool
