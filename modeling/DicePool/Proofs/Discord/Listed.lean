import DicePool.Proofs.Command.Groups
import DicePool.Proofs.Discord.Offered

/-!
# Proofs/Discord/Listed — what is listed of a registry

`payload` lists a command for each name, with all that its name leads to. Main statement
`lists_payload`: whatever was registered, and in which order, each name is listed once, where it first
came, and leads to its subcommands, each of them once, or to a command that is none; and each of these has
an option for every field, the required ones first, of the command that was registered last for it.
-/

namespace DicePool.Discord

variable {η : Type}

/-! ## Options -/

/-- Options that are those of a form. -/
structure ListsFields (options : List OptionSpec) (form : Form) : Prop where
  /-- There is one for each field. -/
  perm : options.Perm (form.map OptionSpec.ofField)
  /-- Those that must be given come first. -/
  requiredFirst : options.Pairwise fun o p => p.required → o.required
  /-- Otherwise they stand as the fields do. -/
  inOrder : ∀ required, options.filter (·.required == required)
    = (form.filter (·.isRequired == required)).map OptionSpec.ofField

/-- **No option is lost or doubled when the required ones are put first**, and they keep their order. -/
theorem listsFields_optionSpecs (form : Form) : ListsFields (optionSpecs form) form where
  perm := List.filter_append_perm _ _
  requiredFirst := by
    rw [optionSpecs, List.pairwise_append]
    refine ⟨?_, ?_, fun o ho _ _ _ => (List.mem_filter.1 ho).2⟩
    · exact List.pairwise_of_forall_mem_list fun o ho _ _ _ => (List.mem_filter.1 ho).2
    · refine List.pairwise_of_forall_mem_list fun _ _ p hp hrequired => ?_
      exact absurd hrequired (by simpa using (List.mem_filter.1 hp).2)
  inOrder required := by
    have hmap : (form.filter (·.isRequired == required)).map OptionSpec.ofField
        = (form.map OptionSpec.ofField).filter (·.required == required) := by
      rw [List.filter_map]
      rfl
    rw [hmap, optionSpecs, List.filter_append, List.filter_filter, List.filter_filter]
    cases required <;> simp

/-! ## Names and what they lead to -/

/-- What is listed of commands. -/
structure Lists (listed : List CommandSpec) (cs : List (Command η)) : Prop where
  /-- There is one for each name, in the order in which the names first came. -/
  names : listed.map (·.name) = Registry.namesOf cs
  /-- Each offers what its name leads to, with the options of the command that was registered last. -/
  choices : ∀ e ∈ listed,
    Registry.Routes (fun options c => ListsFields options c.form) cs e.name e.choices

/-- **A group is listed as what it leads to**, unless it is empty. -/
theorem CommandSpec.exists_ofGroup (name : String) {group : List (Command η)} (h : group ≠ []) :
    ∃ e, CommandSpec.ofGroup name group = some e ∧ e.name = name ∧
      e.choices = (Registry.shown group).map fun c => (c.sub?, optionSpecs c.form) := by
  unfold CommandSpec.ofGroup
  split
  next s subs hsubs =>
    refine ⟨_, rfl, rfl, ?_⟩
    rw [Registry.shown_of_cons hsubs, ← hsubs]
    refine (List.map_map ..).trans (List.map_congr_left fun c hc => ?_)
    rw [Command.sub?_of_isSub (List.mem_filter.1 hc).2]
    rfl
  next c group hsubs =>
    refine ⟨_, rfl, rfl, ?_⟩
    have hsub : ¬c.isSub := List.filter_eq_nil_iff.1 hsubs c List.mem_cons_self
    rw [Registry.shown_of_nil hsubs, List.map_singleton, Command.sub?_of_not_isSub hsub]
    rfl
  next => exact absurd rfl h

/-- **Each name is listed once, and leads to what was registered last**, whatever was registered, in
whatever order and however often, as long as no name has a colon in it. -/
theorem lists_payload {cs : List (Command η)} (hnames : ∀ c ∈ cs, ':' ∉ c.name.toList) :
    Lists (payload (.ofList cs)) cs := by
  have hpayload : payload (.ofList cs) = (Registry.namesOf cs).filterMap fun name =>
      CommandSpec.ofGroup name ((Registry.ofList cs).commands.filter (·.name == name)) := by
    rw [payload, Registry.byName_ofList hnames, List.filterMap_map]
    rfl
  have hgroup : ∀ name ∈ Registry.namesOf cs, ∃ e,
      CommandSpec.ofGroup name ((Registry.ofList cs).commands.filter (·.name == name)) = some e ∧
        e.name = name ∧
          Registry.Routes (fun options c => ListsFields options c.form) cs e.name e.choices := by
    intro name hname
    obtain ⟨e, he, rfl, hchoices⟩ := CommandSpec.exists_ofGroup name
      (Registry.filter_commands_ne_nil hnames hname)
    refine ⟨e, he, rfl, ?_⟩
    rw [hchoices]
    exact Registry.routes_map_shown hnames (fun c => listsFields_optionSpecs c.form) hname
  obtain ⟨hlisted, hchoices⟩ := map_filterMap_eq hgroup
  rw [hpayload]
  exact ⟨hlisted, hchoices⟩

end DicePool.Discord
