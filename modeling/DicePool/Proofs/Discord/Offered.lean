import DicePool.Discord.Payload
import DicePool.Proofs.Command.Registry
import DicePool.Proofs.Discord.Options
import Mathlib.Data.List.Perm.Subperm

/-!
# Proofs/Discord/Offered — what is offered is what is answered

Commands are offered by what `payload` lists of a registry: names, subcommands, options with their
types. A user picks one of them and fills in some of its options, and an interaction arrives that says
so. Main statement `payload_is_answered`: whatever was registered, and in which order, what arrives
finds the command that was registered last under just that name and subcommand — it is the one whose
options were offered — and gives it just the values that were filled in.
-/

namespace DicePool

/-! ## Forms -/

/-- **A form that is made of listed fields has a field of each name once.** -/
theorem Form.nodup_names_of_ofFields {listed : List FormField} {form : Form}
    (h : Form.ofFields listed = .ok form) : (form.map (·.name)).Nodup := by
  have hput : ∀ (l : List FormField) (fields : Named FormField),
      (fields.names.Nodup ∧ ∀ p ∈ fields, p.1 = p.2.name) →
        (l.foldl (fun fields f => Named.put fields f.name f) fields).names.Nodup ∧
          ∀ p ∈ l.foldl (fun fields f => Named.put fields f.name f) fields, p.1 = p.2.name := by
    intro l
    induction l with
    | nil => exact fun _ hfields => hfields
    | cons f l ih =>
      rintro fields ⟨hnodup, hnames⟩
      refine ih _ ⟨Named.nodup_names_put hnodup, fun p hp => ?_⟩
      rcases Named.mem_of_mem_put hp with hold | rfl
      · exact hnames p hold
      · rfl
  obtain ⟨hnodup, hnames⟩ := hput listed [] ⟨List.nodup_nil, by simp⟩
  unfold Form.ofFields at h
  dsimp only at h
  split at h
  next => cases h
  next =>
    obtain rfl := Except.ok.inj h
    rw [List.map_map]
    rwa [Named.names, List.map_congr_left hnames] at hnodup

namespace Discord

theorem nodup_names_optionSpecs {form : Form} (h : (form.map (·.name)).Nodup) :
    ((optionSpecs form).map (·.name)).Nodup := by
  have hperm : (optionSpecs form).Perm (form.map OptionSpec.ofField) := List.filter_append_perm _ _
  refine (hperm.map (·.name)).nodup_iff.2 ?_
  rw [List.map_map]
  exact h

/-- **No option is offered as a subcommand.** -/
theorem code_ne_one_of_mem_optionSpecs {form : Form} {o : OptionSpec} (h : o ∈ optionSpecs form) :
    o.type.code ≠ 1 := by
  have hofShape : ∀ s : Shape, (OptionType.ofShape s).code ≠ 1 := by
    intro s
    cases s <;> simp [OptionType.ofShape, OptionType.code]
  have hmem : o ∈ form.map OptionSpec.ofField := by
    rcases List.mem_append.1 h with h | h <;> exact (List.mem_filter.1 h).1
  obtain ⟨f, -, rfl⟩ := List.mem_map.1 hmem
  exact hofShape f.shape

/-! ## Choices -/

/-- What may be chosen of a command: each subcommand with its options, or the options alone. -/
def CommandSpec.choices (c : CommandSpec) : List (Option String × List OptionSpec) :=
  match c.offer with
  | .options l => [(none, l)]
  | .subcommands l => l.map fun s => (some s.name, s.options)

/-- Options that are filled in, in any order. -/
abbrev Filled := List (OptionSpec × Json)

namespace Filled

/-- The values by name. -/
def values (filled : Filled) : Named Json :=
  filled.map fun p => (p.1.name, p.2)

/-- The options as they are sent, each with its type and its value. -/
def sent (filled : Filled) : List (Named Json) :=
  filled.map fun p =>
    [("name", .str p.1.name), ("type", .int p.1.type.code), ("value", p.2)]

/-- The command that is sent: options are told as they are, or inside a subcommand; a list that is
empty may be left out. -/
def command (filled : Filled) (name : String) (sub : Option String) (leavesOut : Bool) :
    CommandData where
  name := some name
  options := match sub with
    | none => if leavesOut && filled.isEmpty then none else some filled.sent
    | some sub => some [[("name", .str sub), ("type", .int OptionType.subcommand.code)]
        ++ if leavesOut && filled.isEmpty then [] else [("options", .arr (filled.sent.map .obj))]]

variable {filled : Filled} {i : Interaction} {name : String} {leavesOut : Bool}

/-- **The values that were filled in are the options that are taken**, if each was filled in once. -/
theorem foldl_addOption_sent (h : filled.values.names.Nodup) :
    filled.sent.foldl Interaction.addOption [] = filled.values := by
  refine Interaction.foldl_addOption_eq ?_ h
  rw [sent, values, List.forall₂_map_left_iff, List.forall₂_map_right_iff]
  exact List.forall₂_same.2 fun p _ => ⟨rfl, rfl⟩

/-- Options that are told as they are begin with no subcommand. -/
theorem leading?_sent (h : ∀ p ∈ filled, p.1.type.code ≠ 1) :
    Interaction.leading? filled.sent = none := by
  cases filled with
  | nil => rfl
  | cons p filled =>
    have hcode := h p List.mem_cons_self
    simp [sent, Interaction.leading?, Named.get?_cons, Json.isNumber_int, hcode]

/-- **What is sent without a subcommand has none, and gives the values.** -/
theorem of_command_none (hi : i.data = some (filled.command name none leavesOut))
    (hcode : ∀ p ∈ filled, p.1.type.code ≠ 1) (h : filled.values.names.Nodup) :
    i.subcommand = none ∧ i.options = .ok filled.values := by
  have hlisted : i.listed = filled.sent := by
    rw [Interaction.listed, hi]
    cases filled <;> cases leavesOut <;> rfl
  have hleading : Interaction.leading? i.listed = none := hlisted ▸ leading?_sent hcode
  refine ⟨by rw [Interaction.subcommand, hleading]; rfl, Interaction.options_eq_ok_iff.2 ?_⟩
  refine ⟨filled.sent, ?_, (foldl_addOption_sent h).symm⟩
  rw [Interaction.Gives, hleading]
  exact hlisted.symm

/-- **What is sent with a subcommand has just that one, and gives the values.** -/
theorem of_command_some {sub : String} (hi : i.data = some (filled.command name (some sub) leavesOut))
    (h : filled.values.names.Nodup) :
    i.subcommand = some sub ∧ i.options = .ok filled.values := by
  obtain ⟨o, hlisted, htype, hname, hoptions⟩ : ∃ o, i.listed = [o] ∧
      o.get? "type" = some (.int 1) ∧ o.get? "name" = some (.str sub) ∧
        Interaction.Lists (o.getD "options" .null) filled.sent := by
    rw [Interaction.listed, hi]
    refine ⟨_, rfl, rfl, rfl, ?_⟩
    cases hempty : leavesOut && filled.isEmpty with
    | false => exact .inr rfl
    | true =>
      obtain rfl : filled = [] := List.isEmpty_iff.1 (Bool.and_eq_true_iff.1 hempty).2
      exact .inl ⟨rfl, rfl⟩
  have hleading : Interaction.leading? i.listed = some o := by
    simp [hlisted, Interaction.leading?, htype, Json.isNumber_int]
  refine ⟨by simp [Interaction.subcommand, hleading, hname], Interaction.options_eq_ok_iff.2 ?_⟩
  refine ⟨filled.sent, ?_, (foldl_addOption_sent h).symm⟩
  rw [Interaction.Gives, hleading]
  exact hoptions

end Filled

/-! ## Answers -/

variable {η : Type}

/-- **What may be chosen of an offer are the options of a command that the registry lists.** -/
theorem exists_of_mem_choices {r : Registry η} {e : CommandSpec} (he : e ∈ payload r)
    {choice : Option String × List OptionSpec} (hchoice : choice ∈ e.choices) :
    ∃ c ∈ r.commands, c.name = e.name ∧ c.sub? = choice.1 ∧ optionSpecs c.form = choice.2 := by
  obtain ⟨⟨name, group⟩, hgroup, hspec⟩ := List.mem_filterMap.1 he
  have hall : ∀ c ∈ group, c ∈ r.commands ∧ c.name = name := fun c => Registry.of_mem_byName hgroup
  change CommandSpec.ofGroup name group = some e at hspec
  unfold CommandSpec.ofGroup at hspec
  split at hspec
  next s subs hsubs =>
    obtain rfl := Option.some.inj hspec
    simp only [CommandSpec.choices, List.map_map] at hchoice
    obtain ⟨c, hc, rfl⟩ := List.mem_map.1 hchoice
    obtain ⟨hmem, hsub⟩ := List.mem_filter.1 (hsubs ▸ hc)
    exact ⟨c, (hall c hmem).1, (hall c hmem).2, Command.sub?_of_isSub hsub, rfl⟩
  next c cs hsubs =>
    obtain rfl := Option.some.inj hspec
    obtain rfl := List.mem_singleton.1 hchoice
    have hc := hall c List.mem_cons_self
    have hsub : ¬c.isSub := List.filter_eq_nil_iff.1 hsubs c List.mem_cons_self
    exact ⟨c, hc.1, hc.2, Command.sub?_of_not_isSub hsub, rfl⟩
  next => cases hspec

/-- **What is offered is what is answered** — of whatever was registered, in whatever order and however
often, as long as no name has a colon in it: an interaction that picks something from an offer and
fills in some of its options finds the command that was registered last under just that name and
subcommand, which is the one whose options were offered, and gives it just the values that were filled
in. -/
theorem payload_is_answered {cs : List (Command η)} (hnames : ∀ c ∈ cs, ':' ∉ c.name.toList)
    (hforms : ∀ c ∈ cs, ∃ listed, Form.ofFields listed = .ok c.form) {e : CommandSpec}
    (he : e ∈ payload (.ofList cs)) {sub : Option String} {offered : List OptionSpec}
    (hchoice : (sub, offered) ∈ e.choices) {filled : Filled}
    (hfilled : (filled.map (·.1)).Subperm offered) {leavesOut : Bool} {i : Interaction}
    (hi : i.data = some (filled.command e.name sub leavesOut)) :
    ∃ c, Registry.last? cs e.name sub = some c ∧ optionSpecs c.form = offered ∧
      i.subcommand = sub ∧ (Registry.ofList cs).find? e.name i.subcommand = some c ∧
      i.options = .ok filled.values := by
  obtain ⟨c, hc, hname, hsub, hoffered⟩ := exists_of_mem_choices he hchoice
  obtain ⟨hlast, hfind⟩ := Registry.last?_of_mem_commands hnames hc
  obtain rfl : c.sub? = sub := hsub
  obtain rfl : optionSpecs c.form = offered := hoffered
  rw [hname] at hlast hfind
  obtain ⟨listed, hform⟩ := hforms c (Registry.of_mem_commands hc).1
  have hmem : ∀ p ∈ filled, p.1 ∈ optionSpecs c.form := fun p hp =>
    hfilled.subset (List.mem_map_of_mem hp)
  have hvalues : filled.values.names.Nodup := by
    have hnodup := nodup_names_optionSpecs (Form.nodup_names_of_ofFields hform)
    obtain ⟨l, hperm, hsublist⟩ := hfilled
    rw [Named.names, Filled.values, List.map_map]
    have hpermNames := hperm.map (·.name)
    rw [List.map_map] at hpermNames
    exact hpermNames.nodup_iff.1 (hnodup.sublist (hsublist.map _))
  have hsent : i.subcommand = c.sub? ∧ i.options = .ok filled.values := by
    cases hchosen : c.sub? with
    | none =>
      rw [hchosen] at hi
      exact Filled.of_command_none hi
        (fun p hp => code_ne_one_of_mem_optionSpecs (hmem p hp)) hvalues
    | some sub =>
      rw [hchosen] at hi
      exact Filled.of_command_some hi hvalues
  refine ⟨c, hlast, rfl, hsent.1, ?_, hsent.2⟩
  rw [hsent.1]
  exact hfind

/-- A subcommand that was registered twice, beside a command of its name and a subcommand with a colon
in its own: the later one answers, with the one option that was filled in. -/
theorem payload_is_answered_registered_twice :
    let command (sub : Option String) (fields : Form) (n : Nat) : Command Nat :=
      ⟨"dice", "", fields, sub, [], n⟩
    let old : Form := [⟨"old", .truth, none, none⟩]
    let new : Form := [⟨"sides", .whole none, some (.int 10), none⟩, ⟨"size", .text none, none, none⟩]
    let cs := [command none old 1, command (some "pool") old 2, command (some "pool:") old 3,
      command (some "pool") new 4]
    let size : OptionSpec := ⟨"size", "size", .text, true⟩
    let sides : OptionSpec := ⟨"sides", "sides", .whole, false⟩
    let e : CommandSpec := ⟨"dice", "", .subcommands
      [⟨"pool", "", [size, sides]⟩, ⟨"pool:", "", [⟨"old", "old", .truth, true⟩]⟩]⟩
    let filled : Filled := [(sides, .int 6)]
    let i : Interaction := {
      id := "1", kind := 2, token := "t", applicationId := "a"
      data := some (filled.command "dice" (some "pool") true)
      guildId := none, channelId := none, member := none, user := none }
    (∀ c ∈ cs, ':' ∉ c.name.toList) ∧ (∀ c ∈ cs, ∃ listed, Form.ofFields listed = .ok c.form) ∧
      e ∈ payload (.ofList cs) ∧ (some "pool", [size, sides]) ∈ e.choices ∧
      (filled.map (·.1)).Subperm [size, sides] ∧
      ((Registry.ofList cs).find? "dice" i.subcommand).map (·.handler) = some 4 ∧
      i.options = .ok [("sides", .int 6)] := by
  intro command old new cs size sides e filled i
  have hnames : ∀ c ∈ cs, ':' ∉ c.name.toList := by decide
  have hforms : ∀ c ∈ cs, ∃ listed, Form.ofFields listed = .ok c.form := by
    simp only [cs, List.forall_mem_cons]
    exact ⟨⟨old, rfl⟩, ⟨old, rfl⟩, ⟨old, rfl⟩, ⟨new, rfl⟩, by simp⟩
  have he : e ∈ payload (.ofList cs) := by decide +kernel
  have hchoice : (some "pool", [size, sides]) ∈ e.choices := by decide
  have hfilled : (filled.map (·.1)).Subperm [size, sides] :=
    List.Sublist.subperm (by decide)
  obtain ⟨c, hlast, -, -, hfind, hoptions⟩ :=
    payload_is_answered hnames hforms he hchoice hfilled (i := i) rfl
  have hc : (Registry.last? cs "dice" (some "pool")).map (·.handler) = some 4 := by decide
  rw [hlast] at hc
  exact ⟨hnames, hforms, he, hchoice, hfilled, hfind ▸ hc, hoptions⟩

end Discord

end DicePool
