import DicePool.Proofs.Roll.Line

/-!
# Proofs/Roll/Label — the size of a pool, asked for and counted

A line about a pool says how many dice were rolled: as many as were asked for, if it knows the request, and
else as many as lie on the table without a cause. The two are the same number, however many dice were rolled
again or added (`Runs.initialCount`). Main statement `Result.render_labels_agree`: knowing the request adds
its modifiers to the line and changes nothing else.
-/

namespace DicePool

/-- **The dice without a cause are those that were asked for**, and a chance die is one. -/
theorem Request.Runs.initialCount {q : Request} {limit : Int} {dice : List Die}
    (h : q.Runs limit [] dice) : (q.result dice).initialCount = q.opening := by
  rw [Result.initialCount, result_dice]
  simpa using countP_origin (runs_iff_causes.1 h).1 .initial

/-! ## Lines with modifiers and without -/

/-- The beginning of a line about a pool, up to where its modifiers stand. -/
def poolHead (who pool : String) : String :=
  who ++ " rolled " ++ pool ++ " dice"

/-- What is put into a line for modifiers. -/
def modifiersText (modifiers : List String) : String :=
  if modifiers = [] then "" else " (" ++ ", ".intercalate modifiers ++ ")"

theorem bracketed_eq (modifiers : List String) : bracketed modifiers = modifiersText modifiers := by
  cases modifiers <;> rfl

/-- **Modifiers stand behind the size of the pool**, and the rest of the line does without them. -/
theorem exists_poolLine_eq (who pool successes : String) (dice : List String) (isExceptional : Bool) :
    ∃ rest, ∀ modifiers, poolLine who pool modifiers successes dice isExceptional
      = poolHead who pool ++ modifiersText modifiers ++ rest := by
  refine ⟨s!" and got {successes}: " ++ ", ".intercalate dice
    ++ if isExceptional then " Exceptional success!" else "", fun modifiers => ?_⟩
  simp [poolLine, poolHead, bracketed_eq, toString, String.append_assoc]

namespace Result

variable {r : Result} {q : Request}

/-- A chance die is told alike whether its request is known or not. -/
theorem render_of_isChance (h : r.isChance) (request : Option Request) (mention : Option String) :
    r.render request none mention = r.render none none mention := by
  simp only [render, h, if_true]

/-- The label that is counted is the one that was asked for. -/
theorem poolText_none (hcount : (r.initialCount : Int) = q.poolSize) :
    r.poolText none none = .ok (toString q.poolSize) := by
  rw [poolText, ← hcount]
  rfl

/-- **A pool that is told with its request is told without it**, but for the modifiers, if as many dice have
no cause as were asked for. -/
theorem exists_render_of_pool (hpool : r.isChance = false) (hcount : (r.initialCount : Int) = q.poolSize)
    {mention : Option String} {line : String} (h : r.render (some q) none mention = .ok line) :
    let head := poolHead ((mention.filter (· ≠ "")).getD anybody) (toString q.poolSize)
    ∃ rest, line = head ++ modifiersText q.describe ++ rest ∧
      r.render none none mention = .ok (head ++ rest) := by
  intro head
  cases hdice : r.dice.mapM Die.text with
  | error e =>
    rw [render, hdice] at h
    cases h
  | ok dice =>
    cases hwrite : Numeral.write q.poolSize with
    | error e =>
      rw [render, hdice, hpool, poolText, hwrite] at h
      cases h
    | ok pool =>
      cases hsuccesses : Numeral.write r.successes with
      | error e =>
        rw [render, hdice, hpool, poolText, hwrite, hsuccesses] at h
        cases h
      | ok successes =>
        obtain rfl := Numeral.toString_of_write hwrite
        obtain ⟨rest, hrest⟩ := exists_poolLine_eq ((mention.filter (· ≠ "")).getD anybody)
          (toString q.poolSize) (successWords successes (r.successes = 1)) dice r.isExceptional
        rw [render, hdice, hpool, poolText, hwrite, hsuccesses] at h
        refine ⟨rest, (Except.ok.inj h).symm.trans (hrest q.describe), ?_⟩
        rw [render, hdice, hpool, poolText_none hcount, hsuccesses]
        exact congrArg Except.ok ((hrest []).trans (by simp [modifiersText, head]))

end Result

open Request

variable {σ : Type} [Source σ]

/-- **A line says the same of a roll whether its request is known or not** — for every request, source and
limit: of a chance die it is the same line; of a pool the same size stands in both, whatever was rolled again
or added, and the line that knows the request has its modifiers behind the word after it, in brackets, if it
has any, and is the same in all else. -/
theorem Result.render_labels_agree {q : Request} {limit : Int} {s s' : σ} {r : Result}
    (hr : (resolve q limit).playOn s = (.ok r, s')) (mention : Option String) :
    (q.poolSize ≤ 0 → r.render (some q) none mention = r.render none none mention) ∧
      (0 < q.poolSize → (r.initialCount : Int) = q.poolSize ∧
        ∀ line, r.render (some q) none mention = .ok line →
          let head := poolHead ((mention.filter (· ≠ "")).getD anybody) (toString q.poolSize)
          ∃ rest, line = head ++ modifiersText q.describe ++ rest ∧
            r.render none none mention = .ok (head ++ rest)) := by
  obtain ⟨dice, hruns, -, -, rfl⟩ := resolve_playOn_eq_ok_iff_runs.1 hr
  refine ⟨fun hchance => render_of_isChance ?_ (some q) mention, fun hpool => ?_⟩
  · rw [result_isChance]
    exact decide_eq_true hchance
  · have hchance : q.isChance = false := decide_eq_false (Int.not_le.2 hpool)
    have hcount : ((q.result dice).initialCount : Int) = q.poolSize := by
      rw [hruns.initialCount, opening, hchance]
      exact Int.toNat_of_nonneg (Int.le_of_lt hpool)
    exact ⟨hcount, fun line hline =>
      exists_render_of_pool ((q.result_isChance dice).trans hchance) hcount hline⟩

/-- Two dice under the rote quality, nines adding dice, of which one is rolled again and two are added; and a
chance die for which the rote quality was asked as well. -/
theorem Result.render_labels_agree_rote :
    let q : Request := { poolSize := 2, rote := true, nineAgain := true }
    let faces := [9, 3, 10, 2, 1].map fun n => Face.pips (.number n)
    let r : Result := {
      dice := [⟨.number 9, .initial, none⟩, ⟨.number 3, .initial, none⟩,
        ⟨.number 10, .roteReroll, some 1⟩, ⟨.number 2, .explosion, some 0⟩,
        ⟨.number 1, .explosion, some 2⟩]
      successes := 2
      explodedCount := 2 }
    let line := "You rolled 2 dice (rote, 9-again) and got 2 successes: 9, 3, [10], (2), (1)"
    let chance : Request := { poolSize := -1, rote := true }
    let ten : Result := { dice := [⟨.number 10, .initial, none⟩], successes := 1, isChance := true }
    ((resolve q 2).playOn (Script.ofList faces) = (.ok r, ⟨5, []⟩) ∧ 0 < q.poolSize ∧
        r.initialCount = 2 ∧ ∃ rest, line = "You rolled 2 dice" ++ " (rote, 9-again)" ++ rest ∧
          r.render none none none = .ok ("You rolled 2 dice" ++ rest)) ∧
      (resolve chance 0).playOn (Script.ofList [.pips (.number 10)]) = (.ok ten, ⟨1, []⟩) ∧
        chance.poolSize ≤ 0 ∧ ten.render (some chance) none none = ten.render none none none := by
  intro q faces r line chance ten
  have hplay : (resolve q 2).playOn (Script.ofList faces) = (.ok r, ⟨5, []⟩) :=
    resolve_playOn_eq_ok_iff_runs.2
      ⟨r.dice, runs_iff_causes.2 (by decide), by decide, rfl, by decide⟩
  have hten : (resolve chance 0).playOn (Script.ofList [.pips (.number 10)]) = (.ok ten, ⟨1, []⟩) :=
    resolve_playOn_eq_ok_iff_runs.2
      ⟨ten.dice, runs_iff_causes.2 (by decide), by decide, rfl, by decide⟩
  have hline : r.render (some q) none none = .ok line := by decide +kernel
  obtain ⟨hcount, hlines⟩ := (render_labels_agree hplay none).2 (by decide)
  refine ⟨⟨hplay, by decide, Int.ofNat_inj.1 hcount, hlines line hline⟩, hten, by decide, ?_⟩
  exact (render_labels_agree hten none).1 (by decide)

end DicePool
