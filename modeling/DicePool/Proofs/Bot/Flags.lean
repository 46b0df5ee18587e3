import DicePool.Proofs.Bot.Options
import DicePool.Proofs.Bot.Running
import DicePool.Proofs.Pool.RollText

/-!
# Proofs/Bot/Flags — modifiers as options and as words

A modifier may be set by an option of its own, or be named by a word after the pool. What is rolled
depends on which modifiers come together in the two ways (`SetBy`), and on nothing else about them:
main statement `roll_of_setBy_iff`, for a modifier that is spelled out in place of its option, and
for any two ways to divide the modifiers up.

Only the words are compared (`exists_requestOf_of_setBy_iff`). That a word at the end of the text
leaves the earlier words alone is `words_lower_append_of_open`, and needs a blank in front of it.
-/

namespace DicePool

open Text

/-! ## Clearing a modifier -/

namespace Modifiers

/-- Clears a modifier. -/
def erase (s : Modifiers) : Modifier → Modifiers
  | .rote => { s with rote := false }
  | .nineAgain => { s with nineAgain := false }
  | .eightAgain => { s with eightAgain := false }
  | .tenAgain => s
  | .noExplode => { s with noExplode := false }

theorem isSet_erase (s : Modifiers) (a m : Modifier) :
    (s.erase a).isSet m ↔ s.isSet m ∧ m ≠ a := by
  cases a <;> cases m <;> simp [erase, isSet]

end Modifiers

/-! ## Words at the end -/

namespace Text

/-- Nothing of a text is left open: it ends with a blank, unless it is empty. -/
def IsOpen (t : List Char) : Prop := ∀ c, t.getLast? = some c → isBlank c

/-- **What is written after a blank leaves the words before it alone.** -/
theorem words_lower_append_of_open {t : List Char} (h : IsOpen t) (u : List Char) :
    words (lower (t ++ u)) = words (lower t) ++ words (lower u) := by
  rcases List.eq_nil_or_concat t with rfl | ⟨s, b, rfl⟩
  · rfl
  · have hb : isBlank b := h b (by simp)
    rw [List.concat_eq_append, List.append_assoc, List.singleton_append, lower_append_blank s hb,
      lower_append_blank s hb, words_append_blank _ hb, words_append_blank _ hb]
    simp [lower, lower.go]

/-- Blanks at the end are no words. -/
theorem words_lower_append_blanks (s : List Char) {r : List Char} (hr : ∀ c ∈ r, isBlank c) :
    words (lower (s ++ r)) = words (lower s) := by
  rw [words_lower, words_append_blanks s hr, words_lower]

end Text

/-- A word for a modifier is one word. -/
theorem Modifier.words_of_ofWord? {w : List Char} (h : (Modifier.ofWord? w).isSome) :
    words w = [w] := by
  have hall : ∀ a ∈ Modifier.aliases, words a.1.toList = [a.1.toList] := by decide +kernel
  rw [Modifier.ofWord?, Option.isSome_map, List.find?_isSome] at h
  obtain ⟨a, ha, heq⟩ := h
  rw [← eq_of_beq heq]
  exact hall a ha

/-! ## Options -/

namespace RollOptions

/-- Whether a modifier is set by an option, or named by one of the words. -/
def SetBy (o : RollOptions) (F : List (List Char)) (m : Modifier) : Prop :=
  o.isSet m ∨ ∃ w ∈ F, Modifier.ofWord? w = some m

instance (o : RollOptions) (F : List (List Char)) (m : Modifier) : Decidable (o.SetBy F m) :=
  inferInstanceAs (Decidable (_ ∨ _))

/-- The text is some words, and then words for modifiers. -/
structure Reads (o : RollOptions) (P F : List (List Char)) : Prop where
  /-- The words come in this order. -/
  words_eq : Text.words (lower o.text.toList) = P ++ F
  /-- The latter are for modifiers. -/
  flags : ∀ w ∈ F, (Modifier.ofWord? w).isSome

/-- **Options make the same request as others that differ from them in how their modifiers are
set.** -/
theorem exists_requestOf_of_setBy_iff {limit : Int} {o o' : RollOptions} {P F F' : List (List Char)}
    {q : Request} (h : o.Reads P F) (h' : o'.Reads P F')
    (hsame : ∀ m, m ≠ .tenAgain → (o.SetBy F m ↔ o'.SetBy F' m))
    (hq : Pool.requestOf limit o.text.toList = .ok q) :
    ∃ q', Pool.requestOf limit o'.text.toList = .ok q' ∧
      q'.withModifiers o'.toModifiers = q.withModifiers o.toModifiers := by
  obtain ⟨P₀, G, rfl, hasks⟩ := Pool.exists_asks_of_append h.words_eq h.flags hq
  let q' : Request := ⟨.ofList ((G ++ F').filterMap Modifier.ofWord?), q.poolSize⟩
  have hasks' : Pool.Asks limit P₀ (G ++ F') q' := {
    pool_ne_nil := hasks.pool_ne_nil
    poolComesTo := hasks.poolComesTo
    poolSize_le := hasks.poolSize_le
    flags := List.forall_mem_append.2 ⟨(List.forall_mem_append.1 hasks.flags).1, h'.flags⟩
    isSet_iff := fun m => by rw [Modifiers.isSet_ofList, List.mem_filterMap, and_comm] }
  have hunion : q'.toModifiers.union o'.toModifiers = q.toModifiers.union o.toModifiers := by
    refine Modifiers.eq_of_isSet fun m => Bool.eq_iff_iff.2 ?_
    rw [Modifiers.isSet_union, Modifiers.isSet_union, hasks'.isSet_iff, hasks.isSet_iff]
    by_cases hm : m = .tenAgain
    · subst hm
      simp [Modifiers.isSet]
    · simp only [ne_eq, hm, not_false_eq_true, true_and, List.mem_append, or_and_right, exists_or,
        or_assoc]
      exact or_congr_right (or_comm.trans ((hsame m hm).symm.trans or_comm))
  have hwords : Text.words (lower o'.text.toList) = P₀ ++ (G ++ F') := by
    rw [h'.words_eq, List.append_assoc]
  refine ⟨q', Pool.requestOf_eq_ok_iff.2 ⟨P₀, G ++ F', hwords, hasks'⟩, ?_⟩
  rw [Request.withModifiers, Request.withModifiers, hunion]

/-- The options with a modifier cleared, and a word at the end of the text of the modifiers, after
some gap. -/
def spellOut (o : RollOptions) (m : Modifier) (gap word : String) : RollOptions :=
  { o with toModifiers := o.toModifiers.erase m, words := some (o.words.getD "" ++ gap ++ word) }

/-- Blanks that set a word apart from the text of the modifiers; without such a text none are
needed. -/
structure Parts (o : RollOptions) (gap : String) : Prop where
  /-- There are only blanks, … -/
  blank : ∀ c ∈ gap.toList, isBlank c
  /-- … and there are enough. -/
  isOpen : IsOpen (o.words.getD "" ++ gap).toList

/-- **A word that is spelled out comes last.** -/
theorem words_lower_text_spellOut {o : RollOptions} {m : Modifier} {gap word : String}
    (hparts : o.Parts gap) (hword : Modifier.ofWord? (lower word.toList) = some m) :
    Text.words (lower (o.spellOut m gap word).text.toList)
      = Text.words (lower o.text.toList) ++ [lower word.toList] := by
  have hold : Text.words (lower (o.words.getD "" ++ gap).toList)
      = Text.words (lower (o.words.getD "").toList) := by
    rw [String.toList_append, words_lower_append_blanks _ hparts.blank]
  have hlast : Text.words (lower word.toList) = [lower word.toList] :=
    Modifier.words_of_ofWord? (by rw [hword, Option.isSome_some])
  rw [words_lower_text, words_lower_text, List.append_assoc, ← hold, ← hlast,
    ← words_lower_append_of_open hparts.isOpen, ← String.toList_append]
  rfl

/-- **Spelling a modifier out sets the same modifiers.** -/
theorem setBy_spellOut_iff {o : RollOptions} {m : Modifier} {gap word : String}
    (hset : o.isSet m) (hword : Modifier.ofWord? (lower word.toList) = some m)
    (F : List (List Char)) (m' : Modifier) :
    o.SetBy F m' ↔ (o.spellOut m gap word).SetBy (F ++ [lower word.toList]) m' := by
  have hcleared : (o.spellOut m gap word).isSet m' ↔ o.isSet m' ∧ m' ≠ m := Modifiers.isSet_erase ..
  simp only [SetBy, hcleared, List.mem_append, List.mem_singleton, or_and_right, exists_or,
    exists_eq_left, hword, Option.some.injEq]
  by_cases heq : m' = m
  · subst heq
    simp [hset]
  · simp [heq, Ne.symm heq]

end RollOptions

namespace Bot

open BotM Pool

variable {σ : Type} [Source σ]

/-- What is rolled depends on the request alone. -/
theorem runOn_roll_congr {inv : Invocation} {o o' : RollOptions} {settings : Settings}
    {s : Session σ} {q q' : Request} (hsettings : ((settingsOf inv).runOn s).1 = .ok settings)
    (h : requestOf settings.maxPool o.text.toList = .ok q)
    (h' : requestOf settings.maxPool o'.text.toList = .ok q')
    (hsame : q'.withModifiers o'.toModifiers = q.withModifiers o.toModifiers) :
    (roll inv o').runOn s = (roll inv o).runOn s := by
  rw [runOn_roll hsettings, runOn_roll hsettings, h, h']
  dsimp only
  rw [hsame]

/-- **Whether modifiers are set by options or named by words cannot be told from a roll** whose text
is accepted: the reply, the fault, the dice, the metrics and the journal are the same. That holds if
a modifier is cleared and spelled out at the end, which the form accepts as long as the text of the
modifiers is short enough, and it holds of any options with the same pool that set the same modifiers
together. -/
theorem roll_of_setBy_iff {inv : Invocation} {options : RollOptions} {settings : Settings}
    {q : Request} {s : Session σ} (hsettings : ((settingsOf inv).runOn s).1 = .ok settings)
    (hrequest : requestOf settings.maxPool options.text.toList = .ok q) :
    (∀ m gap word, options.isSet m → Modifier.ofWord? (lower word.toList) = some m →
      options.Parts gap →
        let spelled := options.spellOut m gap word
        ¬spelled.isSet m ∧
        (RollOptions.form.check spelled.values = .ok spelled.values ↔
          ((options.words.getD "") ++ gap ++ word).length ≤ 100) ∧
        .ofValues spelled.values = spelled ∧
        (roll inv spelled).runOn s = (roll inv options).runOn s) ∧
    ∀ options' P F F', options.Reads P F → options'.Reads P F' →
      (∀ m, m ≠ .tenAgain → (options.SetBy F m ↔ options'.SetBy F' m)) →
        (roll inv options').runOn s = (roll inv options).runOn s := by
  have hdivided : ∀ options' P F F', options.Reads P F → options'.Reads P F' →
      (∀ m, m ≠ .tenAgain → (options.SetBy F m ↔ options'.SetBy F' m)) →
        (roll inv options').runOn s = (roll inv options).runOn s := by
    intro options' P F F' hreads hreads' hsame
    obtain ⟨q', hrequest', heq⟩ :=
      RollOptions.exists_requestOf_of_setBy_iff hreads hreads' hsame hrequest
    exact runOn_roll_congr hsettings hrequest hrequest' heq
  refine ⟨fun m gap word hset hword hparts => ?_, hdivided⟩
  obtain ⟨P, F, hws, hasks⟩ := requestOf_eq_ok_iff.1 hrequest
  refine ⟨fun h => ((Modifiers.isSet_erase _ m m).1 h).2 rfl,
    RollOptions.check_values_eq_ok_iff _, RollOptions.ofValues_values _, ?_⟩
  refine hdivided _ P F (F ++ [lower word.toList]) ⟨hws, hasks.flags⟩ ⟨?_, ?_⟩ fun m' _ =>
    RollOptions.setBy_spellOut_iff hset hword F m'
  · rw [RollOptions.words_lower_text_spellOut hparts hword, hws, List.append_assoc]
  · rw [List.forall_mem_append, List.forall_mem_singleton, hword]
    exact ⟨hasks.flags, rfl⟩

/-- A rote action with nine-again on one die: rote is an option in the first roll, is spelled out in
the second, and is named twice and before nine-again in the third. -/
theorem roll_of_setBy_iff_rote :
    let s : Session Script := {
      table := { source := .ofList [.pips (.number 3), .pips (.number 9), .pips (.number 2)] } }
    let inv : Invocation := { name := "roll", userId := "u1", settings := some {}, known := [] }
    let options : RollOptions := { pool := "1", words := some "9again", rote := true }
    let spelled : RollOptions := { pool := "1", words := some "9again Rote" }
    let divided : RollOptions := { pool := "1 ROTE", words := some "rote 9-again" }
    ((settingsOf inv).runOn s).1 = .ok {} ∧
      requestOf 100 options.text.toList = .ok { nineAgain := true, poolSize := 1 } ∧
      (roll inv spelled).runOn s = (roll inv options).runOn s ∧
      (roll inv divided).runOn s = (roll inv options).runOn s := by
  intro s inv options spelled divided
  have hsettings : ((settingsOf inv).runOn s).1 = .ok {} := rfl
  have hrequest : requestOf 100 options.text.toList
      = .ok { nineAgain := true, poolSize := 1 } := by decide +kernel
  obtain ⟨hspelled, hdivided⟩ := @roll_of_setBy_iff _ _ inv options {} _ s hsettings hrequest
  have hlast : (options.words.getD "" ++ " ").toList.getLast? = some ' ' := by decide +kernel
  have hparts : options.Parts " " :=
    ⟨List.all_eq_true.1 (by decide), fun c hc => Option.some.inj (hlast.symm.trans hc) ▸ by decide⟩
  have hreads : options.Reads [['1']] ["9again".toList] :=
    ⟨by decide +kernel, by decide +kernel⟩
  have hreads' : divided.Reads [['1']] ["rote".toList, "rote".toList, "9-again".toList] :=
    ⟨by decide +kernel, by decide +kernel⟩
  refine ⟨hsettings, hrequest, ?_, ?_⟩
  · exact (hspelled .rote " " "Rote" rfl (by decide +kernel) hparts).2.2.2
  · refine hdivided divided _ _ _ hreads hreads' fun m _ => ?_
    cases m <;> decide +kernel

end Bot

end DicePool
