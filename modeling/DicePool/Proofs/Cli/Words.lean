import DicePool.Cli.Run
import DicePool.Proofs.Bot.Options
import DicePool.Proofs.Number.Reading
import DicePool.Proofs.Pool.RollText
import Mathlib.Data.List.Nodup

/-!
# Proofs/Cli/Words — the words of a command line that rolls

Options are converted in the order in which they come, but what is found under their names does not
depend on it (`get?_values`). Main statement `resolve_rollLine`: a command line that seeds the dice and
rolls leads to the command that rolls, with the options that it spells, unless the seed has more digits
than are read.
-/

namespace DicePool.Cli

/-! ## Reading words -/

/-- A word spells an option, which no word turns off. -/
structure Grammar.Spells (g : Grammar) (word : String) (p : Param) : Prop where
  /-- The word does not end the options. -/
  ne_end : word ≠ "--"
  /-- It is an option … -/
  isOption : isOption word = true
  /-- … without a value. -/
  cut_eq : cut word = (word, none)
  /-- It is spelled like this option. -/
  find?_eq : g.find? word = some p
  /-- The option has no other spelling. -/
  offSpelling_eq : p.offSpelling = ""

variable {g : Grammar} {word : String} {p : Param}

theorem Grammar.Spells.parseFrom_value (h : g.Spells word p) (htakes : p.takesValue = true)
    (value : String) (rest : List String) : parseFrom g none (word :: value :: rest)
      = (parseFrom g none rest).map (·.withGiven p.name value) := by
  rw [parseFrom.eq_def]
  simp [h.ne_end, h.isOption, h.cut_eq, h.find?_eq, htakes, parseFrom]

theorem Grammar.Spells.parseFrom_flag (h : g.Spells word p) (htakes : p.takesValue = false)
    (rest : List String) : parseFrom g none (word :: rest)
      = (parseFrom g none rest).map (·.withGiven p.name onText) := by
  have hon : word ≠ "" := fun hnil => by simpa [hnil, Cli.isOption] using h.isOption
  rw [parseFrom.eq_def]
  simp [h.ne_end, h.isOption, h.cut_eq, h.find?_eq, htakes, h.offSpelling_eq, hon]

namespace Parsed

variable {parsed : Parsed} {name text : String}

theorem last?_eq_none (h : ∀ t, (name, t) ∉ parsed.given) : parsed.last? name = none := by
  rw [last?, Option.map_eq_none_iff, List.find?_eq_none]
  intro q hq hname
  obtain rfl : q.1 = name := of_decide_eq_true hname
  exact h q.2 (List.mem_reverse.1 hq)

/-- An option that is given in one way only has that text. -/
theorem last?_eq_some (hmem : (name, text) ∈ parsed.given)
    (hall : ∀ t, (name, t) ∈ parsed.given → t = text) : parsed.last? name = some text := by
  rw [last?]
  cases hfind : parsed.given.reverse.find? (·.1 = name) with
  | none =>
    rw [List.find?_eq_none] at hfind
    exact absurd (decide_eq_true rfl) (hfind _ (List.mem_reverse.2 hmem))
  | some q =>
    obtain rfl : q.1 = name := by simpa using List.find?_some hfind
    exact congrArg some (hall q.2 (List.mem_reverse.1 (List.mem_of_find?_eq_some hfind)))

end Parsed

/-! ## Values -/

theorem mem_conversionOrder_iff {params : List Param} (hdistinct : (params.map (·.name)).Nodup)
    (parsed : Parsed) {q : Param} : q ∈ conversionOrder params parsed ↔ q ∈ params := by
  unfold conversionOrder
  simp only [List.mem_append, List.mem_filterMap, List.mem_filter, Bool.not_eq_true',
    List.contains_eq_mem, decide_eq_false_iff_not]
  constructor
  · rintro (⟨name, -, hfind⟩ | ⟨hq, -⟩)
    · exact List.mem_of_find?_eq_some hfind
    · exact hq
  · intro hq
    by_cases hname : q.name ∈ (parsed.given.map (·.1)).eraseDups
    · refine .inl ⟨q.name, hname, ?_⟩
      cases hfind : params.find? (·.name = q.name) with
      | none =>
        rw [List.find?_eq_none] at hfind
        exact absurd (decide_eq_true rfl) (hfind q hq)
      | some q' =>
        have hsame : q'.name = q.name := by simpa using List.find?_some hfind
        rw [List.inj_on_of_nodup_map hdistinct (List.mem_of_find?_eq_some hfind) hq hsame]
    · exact .inr ⟨hq, hname⟩

theorem mapM_eq_ok_map {α β ε : Type} {f : α → Except ε β} {h : α → β} {l : List α}
    (hf : ∀ a ∈ l, f a = .ok (h a)) : l.mapM f = .ok (l.map h) := by
  induction l with
  | nil => rfl
  | cons a l ih =>
    rw [List.forall_mem_cons] at hf
    rw [List.mapM_cons, hf.1, ih hf.2]
    rfl

/-- **The values of options are found under their names**, in whatever order they were given. -/
theorem get?_values {params : List Param} (hdistinct : (params.map (·.name)).Nodup)
    {parsed : Parsed} {valueFor : Param → Json}
    (h : ∀ q ∈ params, valueOf parsed q = .ok (valueFor q)) :
    ∃ values, Cli.values params parsed = .ok values ∧
      ∀ q ∈ params, values.get? q.name = some (valueFor q) := by
  have hvalues : Cli.values params parsed
      = .ok ((conversionOrder params parsed).map fun q => (q.name, valueFor q)) :=
    mapM_eq_ok_map fun q hq => by
      rw [h q ((mem_conversionOrder_iff hdistinct parsed).1 hq)]
      rfl
  refine ⟨_, hvalues, fun q hq => ?_⟩
  have hfound : ∀ l : List Param, (∀ q' ∈ l, q' ∈ params) → q ∈ l →
      Named.get? (l.map fun q => (q.name, valueFor q)) q.name = some (valueFor q) := by
    intro l hl hmem
    induction l with
    | nil => cases hmem
    | cons q' l ih =>
      rw [List.forall_mem_cons] at hl
      rw [List.map_cons, Named.get?_cons]
      split
      next hname => rw [List.inj_on_of_nodup_map hdistinct hq hl.1 hname]
      next hname => exact ih hl.2 ((List.mem_cons.1 hmem).resolve_left fun heq => hname (heq ▸ rfl))
  exact hfound _ (fun q' => (mem_conversionOrder_iff hdistinct parsed).1)
    ((mem_conversionOrder_iff hdistinct parsed).2 hq)

/-! ## The options of a roll -/

/-- The name of the option that sets a modifier; dice explode on ten anyway. -/
def flagName : Modifier → String
  | .rote => "rote"
  | .nineAgain => "nine_again"
  | .eightAgain => "eight_again"
  | .tenAgain => ""
  | .noExplode => "no_explode"

/-- The word that sets a modifier. -/
def flagWord : Modifier → String
  | .rote => "--rote"
  | .nineAgain => "--nine-again"
  | .eightAgain => "--eight-again"
  | .tenAgain => ""
  | .noExplode => "--no-explode"

/-- The words for a roll: the pool, the text of the modifiers if there is one, and flags. -/
def rollWords (pool : String) (written : Option String) (flags : List Modifier) : List String :=
  ["--pool", pool] ++ (written.toList.flatMap fun w => ["--modifiers", w]) ++ flags.map flagWord

/-- What the words for a roll give. -/
def rollGiven (pool : String) (written : Option String) (flags : List Modifier) :
    List (String × String) :=
  [("pool", pool)] ++ (written.toList.map fun w => ("modifiers", w))
    ++ flags.map fun m => (flagName m, onText)

/-- The options that the words for a roll spell. -/
def rollOptions (pool : String) (written : Option String) (flags : List Modifier) : RollOptions :=
  { Modifiers.ofList flags with pool, words := written }

/-- The grammar of the words for a roll. -/
def rollGrammar : Grammar := ⟨Param.ofForm RollOptions.form, true⟩

/-- An option that takes a text. -/
def textParam (name spelling help : String) : Param :=
  { name, spelling, kind := .text, fallback := .null, help }

/-- A flag, which is off where it is not given. -/
def flagParam (name spelling help : String) : Param :=
  { name, spelling, kind := .flag, fallback := .bool false, help }

theorem ofForm_rollForm : Param.ofForm RollOptions.form =
    [textParam "pool" "--pool" "Dice pool: a number, a sum like 3+2-1, or 'chance'",
     textParam "modifiers" "--modifiers" "Optional modifiers: rote, 9again, 8again, no10again",
     flagParam "rote" "--rote" "Rote quality: re-roll failed dice once",
     flagParam "nine_again" "--nine-again" "Re-roll 9s and 10s",
     flagParam "eight_again" "--eight-again" "Re-roll 8s, 9s and 10s",
     flagParam "no_explode" "--no-explode" "Do not re-roll 10s"] := by
  rfl

theorem spells_flag {m : Modifier} (hm : m ≠ .tenAgain) :
    ∃ help, rollGrammar.Spells (flagWord m) (flagParam (flagName m) (flagWord m) help) := by
  cases m with
  | tenAgain => exact absurd rfl hm
  | rote | nineAgain | eightAgain | noExplode =>
    exact ⟨_, by decide, by decide, by rfl, by rfl, rfl⟩

theorem parseFrom_flags {flags : List Modifier} (hflags : .tenAgain ∉ flags) :
    parseFrom rollGrammar none (flags.map flagWord)
      = .ok { given := flags.map fun m => (flagName m, onText) } := by
  induction flags with
  | nil => rfl
  | cons m flags ih =>
    rw [List.mem_cons, not_or] at hflags
    obtain ⟨help, hspells⟩ := spells_flag (Ne.symm hflags.1)
    rw [List.map_cons, hspells.parseFrom_flag rfl, ih hflags.2]
    rfl

theorem parse_rollWords (pool : String) (written : Option String) {flags : List Modifier}
    (hflags : .tenAgain ∉ flags) : parse rollGrammar (rollWords pool written flags)
      = .ok { given := rollGiven pool written flags } := by
  have hpool : ∃ help, rollGrammar.Spells "--pool" (textParam "pool" "--pool" help) :=
    ⟨_, by decide, by decide, by rfl, by rfl, rfl⟩
  have hwritten : ∃ help,
      rollGrammar.Spells "--modifiers" (textParam "modifiers" "--modifiers" help) :=
    ⟨_, by decide, by decide, by rfl, by rfl, rfl⟩
  obtain ⟨_, hpool⟩ := hpool
  obtain ⟨_, hwritten⟩ := hwritten
  cases written with
  | none =>
    change parseFrom rollGrammar none ("--pool" :: pool :: flags.map flagWord) = _
    rw [hpool.parseFrom_value rfl, parseFrom_flags hflags]
    rfl
  | some w =>
    change parseFrom rollGrammar none
      ("--pool" :: pool :: "--modifiers" :: w :: flags.map flagWord) = _
    rw [hpool.parseFrom_value rfl, hwritten.parseFrom_value rfl, parseFrom_flags hflags]
    rfl

theorem mem_rollGiven_iff {pool name text : String} {written : Option String}
    {flags : List Modifier} : (name, text) ∈ rollGiven pool written flags ↔
      name = "pool" ∧ text = pool ∨ name = "modifiers" ∧ written = some text ∨
        (∃ m ∈ flags, flagName m = name) ∧ text = onText := by
  simp [rollGiven, eq_comm (a := onText), eq_comm (b := name)]
  tauto

variable {pool : String} {written : Option String} {flags : List Modifier}

/-- The options of modifiers are told apart by their names, and from the others. -/
theorem flagName_injective : ∀ {m m' : Modifier}, flagName m = flagName m' → m = m' := by
  intro m m'
  cases m <;> cases m' <;> decide

theorem flagName_ne (m : Modifier) : flagName m ≠ "pool" ∧ flagName m ≠ "modifiers" := by
  cases m <;> decide

/-- **A flag is on just in case its modifier is listed.** -/
theorem valueOf_flag {m : Modifier} (hm : m ≠ .tenAgain) (word help : String) :
    valueOf { given := rollGiven pool written flags } (flagParam (flagName m) word help)
      = .ok (.bool ((Modifiers.ofList flags).isSet m)) := by
  have hmem (text : String) :
      (flagName m, text) ∈ rollGiven pool written flags ↔ m ∈ flags ∧ text = onText := by
    rw [mem_rollGiven_iff]
    simp only [flagName_ne m, false_and, false_or, and_congr_left_iff]
    exact fun _ => ⟨fun ⟨m', hm', hname⟩ => flagName_injective hname ▸ hm', fun h => ⟨m, h, rfl⟩⟩
  have hset : (Modifiers.ofList flags).isSet m = decide (m ∈ flags) :=
    Bool.eq_iff_iff.2 (by rw [Modifiers.isSet_ofList, and_iff_left hm, decide_eq_true_eq])
  by_cases hlisted : m ∈ flags
  · have hlast : Parsed.last? { given := rollGiven pool written flags } (flagName m) = some onText :=
      Parsed.last?_eq_some ((hmem _).2 ⟨hlisted, rfl⟩) fun t ht => ((hmem t).1 ht).2
    simp [valueOf, flagParam, hlast, hset, hlisted, Kind.convert, Except.mapError]
  · have hlast : Parsed.last? { given := rollGiven pool written flags } (flagName m) = none :=
      Parsed.last?_eq_none fun t ht => hlisted ((hmem t).1 ht).1
    simp [valueOf, flagParam, hlast, hset, hlisted, Kind.convertValue, Except.mapError]

theorem valueOf_pool (spelling help : String) :
    valueOf { given := rollGiven pool written flags } (textParam "pool" spelling help)
      = .ok (.str pool) := by
  have hlast : Parsed.last? { given := rollGiven pool written flags } "pool" = some pool := by
    refine Parsed.last?_eq_some (mem_rollGiven_iff.2 (.inl ⟨rfl, rfl⟩)) fun t ht => ?_
    rcases mem_rollGiven_iff.1 ht with ⟨-, rfl⟩ | ⟨hname, -⟩ | ⟨⟨m, -, hname⟩, -⟩
    · rfl
    · exact absurd hname (by decide)
    · exact absurd hname (flagName_ne m).1
  simp [valueOf, textParam, hlast, Kind.convert, Except.mapError]

theorem valueOf_written (spelling help : String) :
    valueOf { given := rollGiven pool written flags } (textParam "modifiers" spelling help)
      = .ok (Json.strOrNull written) := by
  have hmem (text : String) :
      ("modifiers", text) ∈ rollGiven pool written flags ↔ written = some text := by
    rw [mem_rollGiven_iff]
    constructor
    · rintro (⟨hname, -⟩ | ⟨-, h⟩ | ⟨⟨m, -, hname⟩, -⟩)
      · exact absurd hname (by decide)
      · exact h
      · exact absurd hname (flagName_ne m).2
    · exact fun h => .inr (.inl ⟨rfl, h⟩)
  cases written with
  | none =>
    have hlast : Parsed.last? { given := rollGiven pool none flags } "modifiers" = none :=
      Parsed.last?_eq_none fun t ht => absurd ((hmem t).1 ht) (by simp)
    simp [valueOf, textParam, hlast, Kind.convertValue, Except.mapError, Json.strOrNull, Json.ofOption]
  | some w =>
    have hlast : Parsed.last? { given := rollGiven pool (some w) flags } "modifiers" = some w :=
      Parsed.last?_eq_some ((hmem w).2 rfl) fun t ht => (Option.some.inj ((hmem t).1 ht)).symm
    simp [valueOf, textParam, hlast, Kind.convert, Except.mapError, Json.strOrNull, Json.ofOption]

/-- **The values that the words for a roll give are those of its options.** -/
theorem valueOf_rollWords : ∀ q ∈ Param.ofForm RollOptions.form,
    valueOf { given := rollGiven pool written flags } q
      = .ok (((rollOptions pool written flags).values.get? q.name).getD .null) := by
  rw [ofForm_rollForm]
  simp only [List.forall_mem_cons, List.not_mem_nil, false_implies, implies_true, and_true]
  exact ⟨valueOf_pool _ _, valueOf_written _ _, valueOf_flag (m := .rote) (by decide) _ _,
    valueOf_flag (m := .nineAgain) (by decide) _ _, valueOf_flag (m := .eightAgain) (by decide) _ _,
    valueOf_flag (m := .noExplode) (by decide) _ _⟩

/-- **The words for a roll give its options**, to whatever reads them by name. -/
theorem values_rollWords : ∃ given,
    Cli.values (Param.ofForm RollOptions.form) { given := rollGiven pool written flags } = .ok given ∧
      (rollOptions pool written flags).GivenBy given := by
  have hdistinct : ((Param.ofForm RollOptions.form).map (·.name)).Nodup := by
    rw [ofForm_rollForm]
    decide
  obtain ⟨given, hvalues, hget⟩ := get?_values hdistinct (@valueOf_rollWords pool written flags)
  rw [ofForm_rollForm] at hget
  simp only [List.forall_mem_cons, List.not_mem_nil, false_implies, implies_true, and_true] at hget
  obtain ⟨hpool, hwritten, hrote, hnine, height, hnone⟩ := hget
  exact ⟨given, hvalues, hpool, congrArg (·.getD .null) hwritten,
    congrArg (·.getD (.bool false)) hrote, congrArg (·.getD (.bool false)) hnine,
    congrArg (·.getD (.bool false)) height, congrArg (·.getD (.bool false)) hnone⟩

/-! ## Walking down the tree -/

/-- The command line that seeds the dice and rolls. -/
def rollLine (seed pool : String) (written : Option String) (flags : List Modifier) : List String :=
  ["--seed", seed, "roll"] ++ rollWords pool written flags

/-- The place where a command line begins. -/
def root : Station := ⟨[], true, [seedParam]⟩

/-- The place of the command that rolls. -/
def rollStation : Station := leafStation ["roll"] (Bot.rollCommand : Command (Handler Twister))

/-- The tree of the commands that there are. -/
def botApp : App (Handler Twister) :=
  [("help", .leaf Bot.helpCommand), ("roll", .leaf Bot.rollCommand)]

theorem build_commands : App.build Bot.commands = .ok botApp := by
  have hnone : App.fault? (App.ofRegistry (Bot.commands : Registry (Handler Twister))) = none := by
    decide +kernel
  rw [App.build, hnone]
  rfl

/-- Words that are parsed and ask for no help are as good as the values that they give. -/
theorem Station.read_of_parse {s : Station} {commands words : List String} {parsed : Parsed}
    (hbare : s.bare? = none) (hparse : parse s.grammar words = .ok parsed)
    (hhelp : parsed.asksHelp = false) : s.read commands words
      = ((Cli.values s.params parsed).mapError s.valueHalt).map fun v => (v, parsed.rest) := by
  unfold Station.read
  rw [hbare, hparse]
  simp only [Except.mapError, bind, Except.bind, pure, Except.pure, hhelp]
  cases Cli.values s.params parsed <;> rfl

/-- The root reads a seed if it is a number with few enough digits. -/
theorem read_root (commands : List String) (seed : String) (rest : List String) :
    root.read commands ("--seed" :: seed :: "roll" :: rest)
      = match Numeral.readWhole seed.toList with
        | .ok n => .ok ([("seed", .int n)], "roll" :: rest)
        | .error _ => .error (root.valueHalt ⟨"--seed", notValid (quote seed) "integer"⟩) := by
  have hspells : root.grammar.Spells "--seed" seedParam :=
    ⟨by decide, by decide, by rfl, by rfl, rfl⟩
  have hroll : parseFrom root.grammar none ("roll" :: rest) = .ok { rest := "roll" :: rest } := by
    rw [parseFrom.eq_def]
    rfl
  have hparse : parse root.grammar ("--seed" :: seed :: "roll" :: rest)
      = .ok { given := [("seed", seed)], rest := "roll" :: rest } := by
    rw [parse, hspells.parseFrom_value rfl, hroll]
    rfl
  have hvalue : valueOf { given := [("seed", seed)], rest := "roll" :: rest } seedParam
      = (Kind.convert seed .whole).mapError fun refusal => ⟨"--seed", refusal⟩ := rfl
  have hvalues : Cli.values [seedParam] { given := [("seed", seed)], rest := "roll" :: rest }
      = (valueOf { given := [("seed", seed)], rest := "roll" :: rest } seedParam).map
        fun v => [("seed", v)] := by
    rw [Cli.values, show conversionOrder [seedParam] _ = [seedParam] from rfl, List.mapM_cons,
      List.mapM_nil]
    cases valueOf { given := [("seed", seed)], rest := "roll" :: rest } seedParam <;> rfl
  rw [Station.read_of_parse (by rfl) hparse rfl, show root.params = [seedParam] from rfl, hvalues,
    hvalue, Kind.convert]
  cases Numeral.readWhole seed.toList <;> rfl

theorem readLeaf_rollWords (hflags : .tenAgain ∉ flags) : ∃ given,
    rollStation.readLeaf (rollWords pool written flags) = .ok given ∧
      (rollOptions pool written flags).GivenBy given := by
  obtain ⟨given, hvalues, hgiven⟩ := @values_rollWords pool written flags
  have hread : rollStation.read [] (rollWords pool written flags) = .ok (given, []) := by
    rw [Station.read_of_parse (s := rollStation) (by rfl) (parse_rollWords pool written hflags) rfl]
    rw [show rollStation.params = Param.ofForm RollOptions.form from rfl, hvalues]
    rfl
  refine ⟨given, ?_, hgiven⟩
  rw [Station.readLeaf, hread]
  rfl

section

variable {η : Type} {app : App η} {words : List String}

/-- Words that the root cannot read lead nowhere. -/
theorem App.resolve_of_error {halt : Halt} (hne : words ≠ [])
    (h : root.read app.names words = .error halt) : app.resolve words = .error halt := by
  have hgroup : root.readGroup app words = .error halt := by
    unfold Station.readGroup
    rw [h, if_neg (by simpa using hne)]
    rfl
  change root.readGroup app words >>= _ = _
  rw [hgroup]
  rfl

/-- The name of a command leads to it, and the words behind the name are read there. -/
theorem App.resolve_of_leaf {rest : List String} {name : String} {c : Command η}
    {given : Named Json} (hne : words ≠ []) (h : root.read app.names words = .ok (given, name :: rest))
    (hget : Named.get? app name = some (.leaf c)) : app.resolve words
      = ((leafStation [name] c).readLeaf rest).map fun values =>
        ⟨(given.get? "seed").bind Json.int?, c, values⟩ := by
  have hgroup : root.readGroup app words = .ok (given, name, .leaf c, rest) := by
    unfold Station.readGroup
    rw [h, if_neg (by simpa using hne)]
    simp only [bind, Except.bind, pure, Except.pure, hget]
  change root.readGroup app words >>= _ = _
  rw [hgroup]
  simp only [bind, Except.bind]
  cases (leafStation [name] c).readLeaf rest <;> rfl

end

/-- **A command line that seeds the dice and rolls leads to the command that rolls**, with the options
that it spells; a seed with too many digits leads nowhere. -/
theorem resolve_rollLine (hflags : .tenAgain ∉ flags) (seed : Int) :
    (seed.natAbs < Nat.pow 10 Numeral.maxDigits → ∃ given,
      botApp.resolve (rollLine (toString seed) pool written flags)
          = .ok ⟨some seed, Bot.rollCommand, given⟩ ∧
        (rollOptions pool written flags).GivenBy given) ∧
    (Nat.pow 10 Numeral.maxDigits ≤ seed.natAbs → ∃ text,
      botApp.resolve (rollLine (toString seed) pool written flags) = .error (.usage text)) := by
  have hread : root.read botApp.names (rollLine (toString seed) pool written flags) = _ :=
    read_root botApp.names (toString seed) (rollWords pool written flags)
  rw [Numeral.readWhole_toString] at hread
  have hne : rollLine (toString seed) pool written flags ≠ [] := List.cons_ne_nil _ _
  constructor
  · intro hshort
    obtain ⟨given, hleaf, hgiven⟩ := @readLeaf_rollWords pool written _ hflags
    rw [if_pos hshort] at hread
    refine ⟨given, ?_, hgiven⟩
    rw [App.resolve_of_leaf hne hread rfl]
    exact congrArg (Except.map _) hleaf
  · intro hlong
    rw [if_neg (Nat.not_lt.2 hlong)] at hread
    exact ⟨_, App.resolve_of_error hne hread⟩

end DicePool.Cli
