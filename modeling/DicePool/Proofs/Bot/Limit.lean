import DicePool.Bot.Help
import DicePool.Proofs.Bot.Running
import DicePool.Proofs.Pool.Refusal

/-!
# Proofs/Bot/Limit — the limit that the help tells, and the one that rolls keep to

The help tells a limit on pools in a line of its own (`tellsLimit_iff`), and a roll of a plain number of
dice is refused above the limit of its settings (`refusesMany_iff`). Main statement
`help_tells_limit_of_rolls_iff`: the two are the same as long as the invocation has settings. Without any,
a roll looks for settings around it and the help does not, so that they agree only if those that are found
set the usual limit (`help_tells_another_limit`).
-/

namespace DicePool

namespace Text

/-- **A run of digits spells a number of no more digits.** -/
theorem digitsValue_lt (ds : List Char) : digitsValue ds < Nat.pow 10 ds.length := by
  induction ds using List.reverseRecOn with
  | nil => decide
  | append_singleton ds c ih =>
    have hdigit : (digitValue? c).getD 0 < 10 := by
      cases h : digitValue? c with
      | none => decide
      | some d => exact digitValue?_lt h
    have hpow : Nat.pow 10 (ds.length + 1) = Nat.pow 10 ds.length * 10 := rfl
    rw [digitsValue_append_singleton, List.length_append, List.length_singleton, hpow]
    omega

end Text

namespace Pool

open Text

/-! ## Plain numbers -/

/-- The text is a plain whole number: digits, with a sign in front or without, and no more of them than
are read. -/
inductive IsPlain : List Char → Int → Prop
  | digits {ds : List Char} : ds ≠ [] → (∀ c ∈ ds, isDigit c) → ds.length ≤ Numeral.maxDigits →
      IsPlain ds (digitsValue ds)
  | signed {c : Char} {p : Sign} {ds : List Char} : Sign.ofChar? c = some p → ds ≠ [] →
      (∀ c ∈ ds, isDigit c) → ds.length ≤ Numeral.maxDigits →
      IsPlain (c :: ds) (p.apply (digitsValue ds))

variable {text : List Char} {k limit : Int}

theorem isSign_of_ofChar? {c : Char} {p : Sign} (h : Sign.ofChar? c = some p) : c = '+' ∨ c = '-' := by
  by_contra hne
  rw [not_or] at hne
  rw [Sign.ofChar?_eq_none_iff.2 hne] at h
  cases h

theorem spells_digits {ds : List Char} (hne : ds ≠ []) (hds : ∀ c ∈ ds, isDigit c) :
    Spells ds [.number ds] := by
  simpa using Spells.number hne hds rfl .nil

/-- A plain number is a sum of itself. -/
theorem IsPlain.comesTo (h : IsPlain text k) : ComesTo text k := by
  cases h with
  | digits hne hds hlength =>
    refine ⟨⟨none, text, []⟩, spells_digits hne hds, List.forall_mem_singleton.2 hlength, ?_⟩
    simp [Sentence.value, Sentence.summands, Sign.apply]
  | @signed c p ds hp hne hds hlength =>
    refine ⟨⟨some p, ds, []⟩, .sign hp (spells_digits hne hds),
      List.forall_mem_singleton.2 hlength, ?_⟩
    simp [Sentence.value, Sentence.summands]

theorem IsPlain.forall_mem (h : IsPlain text k) : ∀ c ∈ text, isDigit c ∨ c = '+' ∨ c = '-' := by
  cases h with
  | digits _ hds => exact fun c hc => .inl (hds c hc)
  | signed hp _ hds =>
    exact List.forall_mem_cons.2 ⟨.inr (isSign_of_ofChar? hp), fun c hc => .inl (hds c hc)⟩

/-- A plain number can be written. -/
theorem IsPlain.write (h : IsPlain text k) : Numeral.write k = .ok (toString k) := by
  refine Numeral.write_of_lt ?_
  cases h with
  | digits _ _ hlength => exact Numeral.lt_pow_maxDigits (digitsValue_lt text) hlength
  | @signed c p ds _ _ _ hlength =>
    have hlt := Numeral.lt_pow_maxDigits (digitsValue_lt ds) hlength
    cases p <;> simpa [Sign.apply] using hlt

theorem RollText.tooManyDice_eq {pool : String} (h : Numeral.write k = .ok pool) :
    RollText.tooManyDice k limit = match Numeral.write limit with
      | .ok limit => .refused (.tooManyDice pool limit)
      | .error e => .numeral e := by
  unfold RollText.tooManyDice
  generalize Numeral.write limit = written
  cases written <;> rw [h]

/-- **A plain number asks for as many dice, unless it is above the limit.** -/
theorem requestOf_of_isPlain (h : IsPlain text k) :
    requestOf limit text = if limit < k then .error (RollText.tooManyDice k limit)
      else .ok { poolSize := k } := by
  have hne := h.comesTo.ne_nil
  have hwords := words_lower_eq_singleton hne h.forall_mem
  have hcomes : PoolComesTo [text] k :=
    .inr ⟨List.forall_mem_singleton.2 h.forall_mem, by rw [joinWith_singleton]; exact h.comesTo⟩
  have hnb : ∀ w ∈ [text], w ≠ [] ∧ ∀ c ∈ w, isBlank c = false := fun w hw =>
    mem_words (hwords ▸ hw)
  have hword : ∀ w ∈ [text], RollText.isPoolWord w := fun w hw => hcomes.isPoolWord hw (hnb w hw).1
  have hsplit : RollText.split text = .ok ⟨[text], []⟩ :=
    RollText.split_eq_ok_iff.2 ⟨hwords, by simp, hword, by simp⟩
  have hsize : size (joinWith [' '] [text]) = .ok k := (size_joinWith_eq_ok_iff hword hnb).2 hcomes
  have halone : ([text].contains chance && [text] != [chance]) = false := by
    rw [Bool.and_eq_false_iff, bne_eq_false_iff_eq]
    by_cases hmem : chance ∈ [text]
    · exact .inr (hcomes.eq_of_mem hmem)
    · exact .inl (by simpa using hmem)
  rw [requestOf, hsplit]
  dsimp only
  rw [RollText.request, halone, if_neg Bool.false_ne_true, RollText.poolText, hsize]
  rfl

end Pool

namespace Bot

open BotM Pool Text

variable {σ : Type} {inv : Invocation} {s : Session σ} {n : Int}

/-! ## What the help tells -/

/-- What stands before the limit in its line. -/
def limitLead : String := "• /roll pool:<n> rolls n ten-sided dice (up to "

/-- The line that tells the limit on pools. -/
def limitLine (limit : String) : String :=
  limitLead ++ limit ++ ")."

/-- The limit stands in the second line on rolling, and nowhere else. -/
theorem rollingLines_eq (limit : String) :
    rollingLines limit = "Rolling:" :: limitLine limit :: (rollingLines "").drop 2 := rfl

/-- The other lines that the help may have. -/
def plainLines : List String :=
  "Rolling:" :: (rollingLines "").drop 2 ++ helpLines "" [] none

/-- A reply tells a limit on pools. -/
def TellsLimit (reply : Reply) (n : Int) : Prop :=
  (limitLine (toString n)).toList ∈ reply.content.toList.splitOn '\n'

/-- Whether rolling is explained. -/
def Explains (known : List String) (topic : Option String) : Prop :=
  (topic = none ∨ topic = some "roll") ∧ "roll" ∈ known

instance (known : List String) (topic : Option String) : Decidable (Explains known topic) :=
  inferInstanceAs (Decidable (_ ∧ _))

/-- **The limit stands in a line of its own**, if rolling is explained. -/
theorem mem_helpLines_iff {limit line : String} {known : List String} {topic : Option String}
    (hline : line ∉ plainLines) :
    line ∈ helpLines limit known topic ↔ Explains known topic ∧ line = limitLine limit := by
  simp only [plainLines, helpLines, List.mem_append, List.mem_cons, List.mem_ite_nil_right,
    List.not_mem_nil, and_false, true_or, true_and, or_false, not_or] at hline
  obtain ⟨⟨hfirst, hmore⟩, ⟨⟨hname, -⟩, hmodifiers⟩, hexamples⟩ := hline
  have hrolling : line ∈ rollingLines limit ↔ line = limitLine limit := by
    rw [rollingLines_eq, List.mem_cons, List.mem_cons, or_iff_right hfirst, or_iff_left hmore]
  simp only [helpLines, List.mem_append, List.mem_ite_nil_right, List.mem_cons, List.not_mem_nil,
    or_false, false_or, and_false, hrolling, hname, hmodifiers, hexamples, Explains]

/-- The other lines are no beginning of that line, and are not broken. -/
theorem of_mem_plainLines : ∀ line ∈ plainLines,
    '\n' ∉ line.toList ∧ ¬limitLead.toList.isPrefixOf line.toList := by
  decide +kernel

theorem limitLine_notMem_plainLines (limit : String) : limitLine limit ∉ plainLines := by
  refine fun h => (of_mem_plainLines _ h).2 ?_
  rw [limitLine, String.append_assoc, String.toList_append, List.isPrefixOf_iff_prefix]
  exact List.prefix_append _ _

theorem limitLine_injective {m n : Int} (h : limitLine (toString m) = limitLine (toString n)) :
    m = n := by
  have hend : ∀ c ∈ ").".toList.head?, ¬Numeral.isNumeralChar c := by
    rintro c ⟨⟩
    decide
  have hlist := congrArg String.toList h
  simp only [limitLine, String.toList_append, List.append_assoc] at hlist
  exact (Numeral.toString_append_inj hend hend (List.append_cancel_left hlist)).1

/-- No line of the help is broken. -/
theorem newline_notMem_of_mem_helpLines {n : Int} {known : List String} {topic : Option String}
    {line : String} (h : line ∈ helpLines (toString n) known topic) : '\n' ∉ line.toList := by
  by_cases hplain : line ∈ plainLines
  · exact (of_mem_plainLines line hplain).1
  · obtain ⟨-, rfl⟩ := (mem_helpLines_iff hplain).1 h
    have hnumeral : '\n' ∉ (toString n).toList := fun hmem =>
      absurd (Numeral.isNumeralChar_of_mem_toString hmem) (by decide)
    have hlead : '\n' ∉ limitLead.toList := by decide +kernel
    have hend : '\n' ∉ ").".toList := by decide +kernel
    rw [limitLine, String.toList_append, String.toList_append, List.mem_append, List.mem_append]
    exact fun h => h.elim (fun h => h.elim hlead hnumeral) hend

/-- How the help ends. -/
theorem runOn_help (inv : Invocation) (topic : Option String) (s : Session σ) :
    ((help inv topic).runOn s).1 = ((Numeral.write (helpLimit inv.settings)).map fun limit =>
      { content := "\n".intercalate (helpLines limit inv.known (topicOf topic))
        ephemeral := true : Reply }).mapError .numeral := by
  unfold help
  rw [runOn_bind_of_ok (runOn_count _ _), helpText]
  cases Numeral.write (helpLimit inv.settings) <;> rfl

/-- **The help tells the limit of the settings, or else the usual one**, if it explains rolling, and no
other. -/
theorem tellsLimit_iff {topic : Option String} {reply : Reply}
    (h : ((help inv topic).runOn s).1 = .ok reply) :
    TellsLimit reply n ↔ Explains inv.known (topicOf topic) ∧ n = helpLimit inv.settings := by
  rw [runOn_help] at h
  cases hwrite : Numeral.write (helpLimit inv.settings) with
  | error e =>
    rw [hwrite] at h
    cases h
  | ok limit =>
    rw [hwrite] at h
    obtain rfl := Except.ok.inj h
    obtain rfl := Numeral.toString_of_write hwrite
    have hbroken : ∀ line ∈ (helpLines (toString (helpLimit inv.settings)) inv.known
        (topicOf topic)).map String.toList, '\n' ∉ line :=
      List.forall_mem_map.2 fun line => newline_notMem_of_mem_helpLines
    have hne : helpLines (toString (helpLimit inv.settings)) inv.known (topicOf topic) ≠ [] := by
      simp [helpLines]
    rw [TellsLimit, String.toList_intercalate]
    change _ ∈ List.splitOn '\n' (['\n'].intercalate _) ↔ _
    rw [List.splitOn_intercalate '\n' hbroken (by simpa using hne), List.mem_map]
    simp only [String.toList_inj, exists_eq_right]
    rw [mem_helpLines_iff (limitLine_notMem_plainLines _)]
    exact and_congr_right fun _ => ⟨limitLine_injective, fun hn => by rw [hn]⟩

/-! ## What rolls keep to -/

/-- An outcome is the refusal of too many dice. -/
def RefusesMany (outcome : Except Fault Reply) : Prop :=
  ∃ pool limit, outcome
    = .ok { content := "❌ " ++ (TextError.tooManyDice pool limit).message, ephemeral := true }

variable [Source σ]

/-- Rolls keep to a limit: a plain number of dice is refused just in case it is above. -/
def KeepsTo (inv : Invocation) (s : Session σ) (n : Int) : Prop :=
  ∀ (options : RollOptions) (k : Int), options.words = none → IsPlain options.pool.toList k →
    (RefusesMany ((roll inv options).runOn s).1 ↔ n < k)

/-- **A roll that is answered is answered to all.** -/
theorem not_ephemeral_of_answerRoll {settings : Settings} {q : Request} {reply : Reply}
    (h : ((answerRoll inv settings q).runOn s).1 = .ok reply) : reply.ephemeral = false := by
  rcases hcast : cast inv settings q s with ⟨e | r, s'⟩
  · rw [runOn_answerRoll_of_error hcast] at h
    cases h
  · rw [runOn_answerRoll hcast] at h
    cases hdigest : r.digest (some q) with
    | error e =>
      rw [hdigest] at h
      cases h
    | ok digest =>
      rw [hdigest] at h
      dsimp only at h
      cases hrender : r.render (some q) none (mention inv.userId) with
      | error e =>
        rw [hrender] at h
        cases h
      | ok line =>
        rw [hrender] at h
        obtain rfl := Except.ok.inj h
        rfl

theorem text_of_words_eq_none {options : RollOptions} (hwords : options.words = none)
    (hpool : options.pool ≠ "") : options.text = options.pool := by
  simp [RollOptions.text, hwords, hpool]

/-- **A plain number is refused as too many dice if it is above the limit that the settings set**, unless
that cannot be written, and not otherwise. -/
theorem refusesMany_iff {settings : Settings} {options : RollOptions} {k : Int}
    (hsettings : ((settingsOf inv).runOn s).1 = .ok settings) (hwords : options.words = none)
    (hpool : IsPlain options.pool.toList k) :
    RefusesMany ((roll inv options).runOn s).1 ↔
      settings.maxPool < k ∧ ∃ limit, Numeral.write settings.maxPool = .ok limit := by
  have hne : options.pool ≠ "" := fun h => hpool.comesTo.ne_nil (by rw [h]; rfl)
  rw [runOn_roll hsettings, text_of_words_eq_none hwords hne, requestOf_of_isPlain hpool]
  by_cases hlarge : settings.maxPool < k
  · rw [if_pos hlarge, and_iff_right hlarge, RollText.tooManyDice_eq hpool.write]
    cases hwrite : Numeral.write settings.maxPool with
    | error e =>
      refine iff_of_false ?_ (by simp)
      rintro ⟨pool, limit, h⟩
      cases h
    | ok limit =>
      exact iff_of_true ⟨toString k, limit,
        congrArg Prod.fst (runOn_refuse inv options.pool (.tooManyDice (toString k) limit) s)⟩ ⟨limit, rfl⟩
  · rw [if_neg hlarge]
    refine iff_of_false ?_ fun h => hlarge h.1
    rintro ⟨pool, limit, h⟩
    exact absurd (not_ephemeral_of_answerRoll h) (by simp)

/-- Rolls keep to the limit that the settings set, if it can be written. -/
theorem keepsTo_of_settings {settings : Settings}
    (hsettings : ((settingsOf inv).runOn s).1 = .ok settings)
    (hwrite : ∃ limit, Numeral.write settings.maxPool = .ok limit) :
    KeepsTo inv s settings.maxPool := fun _ _ hwords hpool =>
  (refusesMany_iff hsettings hwords hpool).trans (and_iff_left hwrite)

/-- Without settings nothing is rolled. -/
theorem not_refusesMany_of_error {options : RollOptions} {e : Fault}
    (hsettings : ((settingsOf inv).runOn s).1 = .error e) :
    ¬RefusesMany ((roll inv options).runOn s).1 := by
  have hrun : ((roll inv options).runOn s).1 = .error e := by
    rw [roll, runOn_bind, show (settingsOf inv).runOn s = (.error e, s) from
      Prod.ext hsettings (runOn_settingsOf_snd inv s)]
  rintro ⟨pool, limit, h⟩
  rw [hrun] at h
  cases h

/-- **Rolls that keep to the usual limit have settings that set it.** -/
theorem maxPool_of_keepsTo (h : KeepsTo inv s defaultLimit) :
    ∃ settings, ((settingsOf inv).runOn s).1 = .ok settings ∧ settings.maxPool = defaultLimit := by
  have hplain (pool : String) (k : Nat) (hne : pool.toList ≠ []) (hds : pool.toList.all isDigit)
      (hlength : pool.toList.length ≤ Numeral.maxDigits) (hk : digitsValue pool.toList = k) :
      IsPlain pool.toList k := hk ▸ .digits hne (List.all_eq_true.1 hds) hlength
  have hmost := hplain "100" 100 (by decide) (by decide +kernel) (by decide) (by decide +kernel)
  have hmore := hplain "101" 101 (by decide) (by decide +kernel) (by decide) (by decide +kernel)
  have hkeeps := h { pool := "100" } 100 rfl hmost
  have hrefuses := h { pool := "101" } 101 rfl hmore
  cases hsettings : ((settingsOf inv).runOn s).1 with
  | error e => exact absurd (hrefuses.2 (by decide)) (not_refusesMany_of_error hsettings)
  | ok settings =>
    rw [refusesMany_iff hsettings rfl hmost] at hkeeps
    rw [refusesMany_iff hsettings rfl hmore] at hrefuses
    obtain ⟨hle, hwrite⟩ := hrefuses.2 (by decide)
    have hge : ¬settings.maxPool < 100 := fun hlt => absurd (hkeeps.1 ⟨hlt, hwrite⟩) (by decide)
    refine ⟨settings, rfl, ?_⟩
    rw [defaultLimit]
    omega

/-- **What the help tells is what rolls keep to as long as there are settings**; without any, just in case
those that a roll finds set the usual limit. -/
theorem help_tells_limit_of_rolls_iff {topic : Option String} {reply : Reply}
    (hhelp : ((help inv topic).runOn s).1 = .ok reply) (htells : TellsLimit reply n) :
    KeepsTo inv s n ↔ (inv.settings = none → ∃ settings,
      Settings.load [] s.around = .ok settings ∧ settings.maxPool = defaultLimit) := by
  obtain rfl := ((tellsLimit_iff hhelp).1 htells).2
  have hwrite : ∃ limit, Numeral.write (helpLimit inv.settings) = .ok limit := by
    rw [runOn_help] at hhelp
    cases hwrite : Numeral.write (helpLimit inv.settings) with
    | ok limit => exact ⟨limit, rfl⟩
    | error e =>
      rw [hwrite] at hhelp
      cases hhelp
  cases hsettings : inv.settings with
  | some settings =>
    rw [hsettings] at hwrite
    exact iff_of_true (keepsTo_of_settings (settingsOf_of_some hsettings s) hwrite) (by simp)
  | none =>
    have hfound (settings : Settings) : ((settingsOf inv).runOn s).1 = .ok settings ↔
        Settings.load [] s.around = .ok settings := by
      rw [settingsOf_of_none hsettings]
      cases Settings.load [] s.around <;> simp [Except.mapError]
    simp only [← hfound, true_imp_iff]
    constructor
    · exact maxPool_of_keepsTo
    · rintro ⟨settings, hload, hlimit⟩
      rw [hsettings] at hwrite
      have hkeeps := keepsTo_of_settings hload (hlimit ▸ hwrite)
      rwa [hlimit] at hkeeps

/-- With settings, the help tells the limit that they set, and rolls keep to it. -/
theorem help_tells_limit_of_rolls_thirty :
    let s : Session Script := { table := { source := .ofList [] } }
    let inv : Invocation :=
      { name := "help", userId := "u1", settings := some { maxPool := 30 }, known := ["help", "roll"] }
    (∃ reply, ((help inv none).runOn s).1 = .ok reply ∧ TellsLimit reply 30) ∧ KeepsTo inv s 30 := by
  intro s inv
  have hhelp : ((help inv none).runOn s).1 = .ok
      { content := "\n".intercalate (helpLines "30" ["help", "roll"] none), ephemeral := true } := by
    rw [runOn_help, Numeral.write_of_lt (Numeral.lt_pow_maxDigits (k := 2) (by decide) (by decide))]
    rfl
  have htells := (tellsLimit_iff hhelp).2 ⟨by decide, rfl⟩
  exact ⟨⟨_, hhelp, htells⟩, (help_tells_limit_of_rolls_iff hhelp htells).2 (by simp [inv])⟩

/-- A variable that sets the limit. -/
def thirtyAround : Environment where
  vars := [("DICE_MAX_POOL", "30")]

theorem maxPool_of_thirtyAround : (Settings.load [] thirtyAround).map (·.maxPool) = .ok 30 := by
  have hload : Settings.load [] thirtyAround
      = Settings.ofSources [[], [], [("dice_max_pool", .str "30")], []] := rfl
  have hmerged : Settings.merged [[], [], [("dice_max_pool", .str "30")], []]
      = [("dice_max_pool", .str "30")] := rfl
  have hlimit : Shape.check (.whole (some 1)) (.str "30") = .ok (.int 30) := by
    have hwhole : Spelling.whole ['3', '0'] = .ok 30 := rfl
    simp [Shape.check, checkWhole, wholeOfValue, wholeOfText, hwhole, bind, Except.bind, pure,
      Except.pure]
  rw [hload, Settings.ofSources, hmerged]
  simp [Settings.form, Form.check, Form.fields, Shape.checkFields, hlimit, Named.get?_cons, both,
    inside, Except.mapError, Settings.ofValues, Except.map, Json.int?]

/-- **Without settings, the help does not tell the limit that rolls keep to**, where a variable sets it. -/
theorem help_tells_another_limit :
    let s : Session Script := { table := { source := .ofList [] }, around := thirtyAround }
    let inv : Invocation := { name := "help", userId := "u1", known := ["help", "roll"] }
    (∃ reply, ((help inv none).runOn s).1 = .ok reply ∧ TellsLimit reply 100)
      ∧ ((roll inv { pool := "31" }).runOn s).1
        = .ok { content := "❌ Too many dice: 31 (max 30).", ephemeral := true } := by
  intro s inv
  have hhelp : ((help inv none).runOn s).1 = .ok
      { content := "\n".intercalate (helpLines "100" ["help", "roll"] none), ephemeral := true } := by
    rw [runOn_help, Numeral.write_of_lt (Numeral.lt_pow_maxDigits (k := 3) (by decide) (by decide))]
    rfl
  refine ⟨⟨_, hhelp, (tellsLimit_iff hhelp).2 ⟨by decide, rfl⟩⟩, ?_⟩
  obtain ⟨settings, hload, hmax⟩ : ∃ settings, Settings.load [] thirtyAround = .ok settings
      ∧ settings.maxPool = 30 := by
    have hmap := maxPool_of_thirtyAround
    cases hload : Settings.load [] thirtyAround with
    | error e =>
      rw [hload] at hmap
      cases hmap
    | ok settings =>
      rw [hload] at hmap
      exact ⟨settings, rfl, Except.ok.inj hmap⟩
  have hsettings : ((settingsOf inv).runOn s).1 = .ok settings := by
    rw [settingsOf_of_none rfl, hload]
    rfl
  have hrefused : requestOf 30 (RollOptions.text { pool := "31" }).toList
      = .error (.refused (.tooManyDice "31" "30")) := by
    decide +kernel
  have hmessage : "❌ " ++ (TextError.tooManyDice "31" "30").message
      = "❌ Too many dice: 31 (max 30)." := by
    decide +kernel
  rw [runOn_roll hsettings, hmax, hrefused, ← hmessage]
  exact congrArg Prod.fst (runOn_refuse inv _ (.tooManyDice "31" "30") s)

end Bot

end DicePool
