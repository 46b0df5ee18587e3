import DicePool.Proofs.Cli.Agreement
import DicePool.Proofs.Discord.Listed
import DicePool.Proofs.Text.Identifiers

/-!
# Proofs/Cli/Tree — a command line has the commands that are listed

The tree of a command line is made of the same groups as what is listed of a registry, but on its own, and
not at all if one of the options cannot be declared. Main statement `listed_and_run`: where it is made, it
has the names that are listed, each of which leads to the same subcommands, and the words that spell a name
and a subcommand run the command that was registered last for them.
-/

namespace DicePool.Cli

variable {η : Type}

/-! ## What a tree has -/

/-- The commands that a name leads to in a tree. -/
def Node.routes : Node η → List (Option String × Command η)
  | .leaf c => [(none, c)]
  | .group members => members.map fun p => (some p.1, p.2)

theorem Node.eq_leaf_of_mem_routes {node : Node η} {c : Command η} (h : (none, c) ∈ node.routes) :
    node = .leaf c := by
  cases node with
  | leaf d => simpa [routes, eq_comm] using h
  | group members => simp [routes] at h

theorem Node.exists_group_of_mem_routes {node : Node η} {sub : String} {c : Command η}
    (h : (some sub, c) ∈ node.routes) : ∃ members, node = .group members ∧ (sub, c) ∈ members := by
  cases node with
  | leaf d => simp [routes] at h
  | group members => exact ⟨members, rfl, by simpa [routes] using h⟩

/-- **No subcommand is lost when they are put into a group**, if none of them comes twice. -/
theorem Node.routes_group {subs : List (Command η)} (hsubs : ∀ c ∈ subs, c.isSub)
    (hnodup : (subs.map Command.sub?).Nodup) :
    (Node.group (subs.foldl (fun l c => l.put (c.subcommand.getD "") c) [])).routes
      = subs.map fun c => (c.sub?, c) := by
  have hsub : ∀ c ∈ subs, c.sub? = some (c.subcommand.getD "") := fun c hc =>
    Command.sub?_of_isSub (hsubs c hc)
  have hmembers : (Named.names (subs.map fun c => (c.subcommand.getD "", c))).Nodup := by
    rw [List.map_congr_left hsub] at hnodup
    rw [Named.names, List.map_map]
    exact List.Nodup.of_map some (by rwa [List.map_map])
  have hput := Named.foldl_put_eq_append (l := []) hmembers
  rw [List.foldl_map] at hput
  rw [hput, Node.routes, List.nil_append, List.map_map]
  exact List.map_congr_left fun c hc => by rw [hsub c hc]; rfl

/-- **A group becomes a node with what it leads to**, unless it is empty, if it has no subcommand twice. -/
theorem Node.exists_ofGroup {group : List (Command η)} (h : group ≠ [])
    (hnodup : ((Registry.shown group).map Command.sub?).Nodup) : ∃ node,
      Node.ofGroup group = some node ∧
        node.routes = (Registry.shown group).map fun c => (c.sub?, c) := by
  unfold Node.ofGroup
  split
  next s subs hsubs =>
    rw [Registry.shown_of_cons hsubs] at hnodup ⊢
    exact ⟨_, rfl, routes_group (fun c hc => (List.mem_filter.1 (hsubs ▸ hc)).2) hnodup⟩
  next c group hsubs =>
    have hsub : ¬c.isSub := List.filter_eq_nil_iff.1 hsubs c List.mem_cons_self
    refine ⟨_, rfl, ?_⟩
    rw [Registry.shown_of_nil hsubs, List.map_singleton, Command.sub?_of_not_isSub hsub]
    rfl
  next => exact absurd rfl h

/-- A tree that has what was registered. -/
structure App.Holds (app : App η) (cs : List (Command η)) : Prop where
  /-- It has each name once, in the order in which the names first came. -/
  names : app.names = Registry.namesOf cs
  /-- Each has what it leads to, with the command that was registered last. -/
  routes : ∀ p ∈ app, Registry.Routes Eq cs p.1 p.2.routes

/-- **The tree of a registry has what was registered**, as long as no name has a colon in it. -/
theorem App.holds_ofRegistry {cs : List (Command η)} (hnames : ∀ c ∈ cs, ':' ∉ c.name.toList) :
    (App.ofRegistry (.ofList cs)).Holds cs := by
  have htree : App.ofRegistry (.ofList cs) = (Registry.namesOf cs).filterMap fun name =>
      (Node.ofGroup ((Registry.ofList cs).commands.filter (·.name == name))).map (name, ·) := by
    rw [App.ofRegistry, Registry.byName_ofList hnames, List.filterMap_map]
    rfl
  have hgroup : ∀ name ∈ Registry.namesOf cs, ∃ p : String × Node η,
      (Node.ofGroup ((Registry.ofList cs).commands.filter (·.name == name))).map (name, ·) = some p ∧
        p.1 = name ∧ Registry.Routes Eq cs p.1 p.2.routes := by
    intro name hname
    obtain ⟨node, hnode, hroutes⟩ := Node.exists_ofGroup
      (Registry.filter_commands_ne_nil hnames hname)
      (Registry.map_sub?_shown hnames hname ▸ Registry.nodup_branches cs name)
    refine ⟨(name, node), by rw [hnode]; rfl, rfl, ?_⟩
    rw [hroutes]
    exact Registry.routes_map_shown hnames (fun _ => rfl) hname
  obtain ⟨hlisted, hroutes⟩ := map_filterMap_eq hgroup
  rw [htree]
  exact ⟨hlisted, hroutes⟩

section

variable {app : App η} {cs : List (Command η)} {name : String} {sub : Option String} {c : Command η}

/-- **A tree leads to the commands that are reached**, and to no others. -/
theorem App.Holds.reaches_iff (h : app.Holds cs) : Registry.Reaches cs name sub c
    ↔ ∃ node, (name, node) ∈ app ∧ (sub, c) ∈ node.routes := by
  constructor
  · rintro ⟨hname, hsub, hlast⟩
    rw [← h.names] at hname
    obtain ⟨⟨name, node⟩, hnode, rfl⟩ := List.mem_map.1 hname
    have hroutes := h.routes _ hnode
    rw [← hroutes.branches] at hsub
    obtain ⟨⟨sub, d⟩, hroute, rfl⟩ := List.mem_map.1 hsub
    obtain ⟨d', hlast', rfl⟩ := hroutes.last _ hroute
    obtain rfl := Option.some.inj (hlast'.symm.trans hlast)
    exact ⟨node, hnode, hroute⟩
  · rintro ⟨node, hnode, hroute⟩
    have hroutes := h.routes _ hnode
    obtain ⟨d, hlast, rfl⟩ := hroutes.last _ hroute
    exact ⟨h.names ▸ Named.mem_names hnode, hroutes.branches ▸ List.mem_map_of_mem hroute, hlast⟩

/-! ## Options that can be declared -/

theorem App.mem_commands_iff :
    c ∈ app.commands ↔ ∃ name node sub, (name, node) ∈ app ∧ (sub, c) ∈ node.routes := by
  rw [App.commands, List.mem_flatMap, Prod.exists]
  refine exists_congr fun name => exists_congr fun node => ?_
  rw [exists_and_left]
  refine and_congr_right fun _ => ?_
  cases node <;> simp [Node.routes]

/-- **A tree is made just in case all its options can be declared.** -/
theorem App.exists_build_iff {r : Registry η} : (∃ app, App.build r = .ok app)
    ↔ ∀ c ∈ (App.ofRegistry r).commands, ∀ f ∈ c.form, (Param.ofField f).fault? = none := by
  have hfault : (App.ofRegistry r).fault? = none
      ↔ ∀ c ∈ (App.ofRegistry r).commands, ∀ f ∈ c.form, (Param.ofField f).fault? = none := by
    rw [App.fault?, List.findSome?_eq_none_iff]
    constructor
    · exact fun h c hc f hf => h _ (List.mem_flatMap.2 ⟨c, hc, List.mem_map_of_mem hf⟩)
    · intro h p hp
      obtain ⟨c, hc, hp⟩ := List.mem_flatMap.1 hp
      obtain ⟨f, hf, rfl⟩ := List.mem_map.1 hp
      exact h c hc f hf
  rw [← hfault, App.build]
  split
  next h => exact iff_of_true ⟨_, rfl⟩ h
  next h => exact iff_of_false (by rintro ⟨_, ⟨⟩⟩) (by simp [h])

end

/-! ## Walking down a tree -/

/-- The words that spell a name: the name as it is, unless it looks like an option, or behind `--`. -/
inductive Spell : List String → String → Prop where
  /-- The name as it is. -/
  | plain {name : String} (h : isOption name = false) : Spell [name] name
  /-- The name behind the end of the options. -/
  | ended (name : String) : Spell ["--", name] name

/-- The words that spell a name, with a subcommand if there is one. -/
inductive Call : List String → String → Option String → Prop where
  /-- A command that is no subcommand. -/
  | command {words : List String} {name : String} (h : Spell words name) : Call words name none
  /-- A subcommand. -/
  | subcommand {words more : List String} {name sub : String} (h : Spell words name)
    (hsub : Spell more sub) : Call (words ++ more) name (some sub)

theorem Spell.parse {g : Grammar} {words : List String} {name : String} (h : Spell words name)
    (hg : g.interspersed = false) (rest : List String) :
    Cli.parse g (words ++ rest) = .ok { rest := name :: rest } := by
  rw [Cli.parse]
  cases h with
  | plain hname =>
    have hend : name ≠ "--" := by
      rintro rfl
      cases hname
    rw [List.cons_append, List.nil_append, parseFrom]
    · simp [hname, hg]
    · exact hend
  | ended =>
    rw [List.cons_append, parseFrom.eq_def]
    rfl

/-- **The words that spell a name lead to what it stands for**, and the words behind them are left. -/
theorem Spell.readGroup {α : Type} {s : Station} {members : Named α} {words : List String}
    {name : String} (h : Spell words name) {a : α} (hget : members.get? name = some a)
    (hgroup : s.isGroup = true) (hbare : s.bare? = none) {given : Named Json}
    (hgiven : ∀ rest, Cli.values s.params { rest } = .ok given) (rest : List String) :
    s.readGroup members (words ++ rest) = .ok (given, name, a, rest) := by
  have hparse : Cli.parse s.grammar (words ++ rest) = .ok { rest := name :: rest } :=
    h.parse (by rw [Station.grammar, hgroup]; rfl) rest
  have hne : (words ++ rest).isEmpty = false := by
    cases h <;> rfl
  unfold Station.readGroup
  rw [Station.read_of_parse hbare hparse rfl, hgiven, hne]
  simp only [Except.mapError, Except.map, bind, Except.bind, pure, Except.pure, hget]
  rfl

/-- What is read at a group stands in it. -/
theorem Station.mem_of_readGroup {α : Type} {s : Station} {members : Named α} {words rest : List String}
    {given : Named Json} {name : String} {a : α}
    (h : s.readGroup members words = .ok (given, name, a, rest)) : (name, a) ∈ members := by
  unfold Station.readGroup at h
  split at h
  next => cases h
  obtain ⟨⟨values, words⟩, -, h⟩ := Pool.bind_eq_ok_iff.1 h
  dsimp only at h
  split at h
  next => cases h
  next first words =>
    split at h
    next b hget =>
      cases h
      exact Named.mem_of_get? hget
    next =>
      split at h
      next =>
        obtain ⟨-, -, h⟩ := Pool.bind_eq_ok_iff.1 h
        cases h
      next => cases h

section

variable {app : App η} {cs : List (Command η)} {name : String} {sub : Option String} {c : Command η}

/-- **The words that spell a name and a subcommand lead to the command that was registered last for
them**, and the words behind them are read there. -/
theorem App.Holds.resolve_append (h : app.Holds cs) (hreach : Registry.Reaches cs name sub c)
    {words : List String} (hcall : Call words name sub) (rest : List String) :
    app.resolve (words ++ rest) = ((leafStation (name :: sub.toList) c).readLeaf rest).map
      fun values => ⟨none, c, values⟩ := by
  obtain ⟨node, hnode, hroute⟩ := h.reaches_iff.1 hreach
  have hnodup : app.names.Nodup := h.names ▸ Registry.nodup_namesOf cs
  have hget := (Named.get?_eq_some_iff_mem hnodup).2 hnode
  have hroot : ∀ {words : List String}, Spell words name → ∀ rest,
      root.readGroup app (words ++ rest) = .ok ([("seed", .null)], name, node, rest) :=
    fun hwords rest => hwords.readGroup hget rfl rfl (fun _ => rfl) rest
  cases hcall with
  | command hwords =>
    obtain rfl := Node.eq_leaf_of_mem_routes hroute
    change root.readGroup app _ >>= _ = _
    rw [hroot hwords]
    cases hleaf : (leafStation [name] c).readLeaf rest <;>
      simp [bind, Except.bind, pure, Except.pure, Except.map, hleaf, Named.get?_cons, Json.int?]
  | @subcommand _ more _ sub hwords hmore =>
    obtain ⟨members, rfl, hmember⟩ := Node.exists_group_of_mem_routes hroute
    have hmembers : members.names.Nodup := by
      have hbranches := (h.routes _ hnode).branches ▸ Registry.nodup_branches cs name
      rw [Node.routes, List.map_map] at hbranches
      exact List.Nodup.of_map some (by rwa [Named.names, List.map_map])
    have hgroup := hmore.readGroup ((Named.get?_eq_some_iff_mem hmembers).2 hmember)
      (s := ⟨[name], true, []⟩) rfl rfl (fun _ => rfl) rest
    change root.readGroup app _ >>= _ = _
    rw [List.append_assoc, hroot hwords]
    cases hleaf : (leafStation [name, sub] c).readLeaf rest <;>
      simp [bind, Except.bind, pure, Except.pure, Except.map, hgroup, hleaf, Named.get?_cons, Json.int?]

/-- **No words lead elsewhere.** -/
theorem App.Holds.exists_reaches (h : app.Holds cs) {words : List String} {found : Found η}
    (hfound : app.resolve words = .ok found) :
    ∃ name sub, Registry.Reaches cs name sub found.command := by
  change root.readGroup app words >>= _ = _ at hfound
  obtain ⟨⟨given, name, node, rest⟩, hroot, hfound⟩ := Pool.bind_eq_ok_iff.1 hfound
  have hnode := Station.mem_of_readGroup hroot
  cases node with
  | leaf c =>
    obtain ⟨values, -, hfound⟩ := Pool.bind_eq_ok_iff.1 hfound
    cases hfound
    exact ⟨name, none, h.reaches_iff.2 ⟨_, hnode, List.mem_singleton.2 rfl⟩⟩
  | group members =>
    obtain ⟨⟨values, sub, c, rest⟩, hgroup, hfound⟩ := Pool.bind_eq_ok_iff.1 hfound
    obtain ⟨options, -, hfound⟩ := Pool.bind_eq_ok_iff.1 hfound
    cases hfound
    have hmember := Station.mem_of_readGroup hgroup
    exact ⟨name, some sub, h.reaches_iff.2 ⟨_, hnode, List.mem_map_of_mem hmember⟩⟩

end

/-! ## Running -/

/-- Every option can be declared of the commands that names lead to. -/
def Declarable (cs : List (Command η)) : Prop :=
  ∀ name sub c, Registry.Reaches cs name sub c → ∀ f ∈ c.form, (Param.ofField f).fault? = none

theorem App.exists_build_iff_declarable {cs : List (Command η)}
    (hnames : ∀ c ∈ cs, ':' ∉ c.name.toList) :
    (∃ app, App.build (.ofList cs) = .ok app) ↔ Declarable cs := by
  have hreaches : ∀ name sub c, Registry.Reaches cs name sub c
      ↔ ∃ node, (name, node) ∈ App.ofRegistry (.ofList cs) ∧ (sub, c) ∈ node.routes := fun _ _ _ =>
    (App.holds_ofRegistry hnames).reaches_iff
  rw [App.exists_build_iff, Declarable]
  constructor
  · rintro h name sub c hreach
    obtain ⟨node, hnode, hroute⟩ := (hreaches name sub c).1 hreach
    exact h c (App.mem_commands_iff.2 ⟨name, node, sub, hnode, hroute⟩)
  · rintro h c hc
    obtain ⟨name, node, sub, hnode, hroute⟩ := App.mem_commands_iff.1 hc
    exact h name sub c ((hreaches name sub c).2 ⟨node, hnode, hroute⟩)

theorem App.eq_ofRegistry_of_build {app : App η} {r : Registry η} (h : App.build r = .ok app) :
    app = App.ofRegistry r := by
  unfold App.build at h
  dsimp only at h
  split at h
  next => exact (Except.ok.inj h).symm
  next => cases h

/-- Words that run a command, which stands at a path. -/
structure App.Runs (app : App (Handler Twister)) (words path : List String)
    (c : Command (Handler Twister)) : Prop where
  /-- Whatever follows them is read at the command. -/
  reads (rest : List String) : app.resolve (words ++ rest)
    = ((leafStation path c).readLeaf rest).map fun values => ⟨none, c, values⟩
  /-- What is read there goes to its handler, if the options are accepted. -/
  handles {rest known : List String} {values checked : Named Json} {around : Environment}
    {settings : Settings} {entropy : Int} {outcome : Except Fault Reply} {after : Session Twister}
    (hread : (leafStation path c).readLeaf rest = .ok values)
    (hsettings : Settings.load [] around = .ok settings) (hform : c.form.check values = .ok checked)
    (hrun : (c.handler (invocation c settings known) checked).runOn
      { table := table settings none entropy, entropy, around } = (outcome, after)) :
    app.run known around entropy (words ++ rest) = (.ofReply outcome, some after)

/-- **A command line has the commands that are listed, and runs them** — of whatever was registered, in
whatever order and however often, as long as no name has a colon in it. What is listed has each name once,
and for each all that it leads to, with the options of the command that was registered last. The tree is
made if all options can be declared; then it has the same names, each of which leads to the same
subcommands, and whatever words spell a name and a subcommand run the command that was registered last for
them. -/
theorem listed_and_run {cs : List (Command (Handler Twister))}
    (hnames : ∀ c ∈ cs, ':' ∉ c.name.toList) :
    Discord.Lists (Discord.payload (.ofList cs)) cs ∧
      ((∃ app, App.build (.ofList cs) = .ok app) ↔ Declarable cs) ∧
      ∀ app, App.build (.ofList cs) = .ok app → app.Holds cs ∧
        (∀ name sub c, Registry.Reaches cs name sub c → ∀ words, Call words name sub →
          app.Runs words (name :: sub.toList) c) ∧
        ∀ words found, app.resolve words = .ok found →
          ∃ name sub, Registry.Reaches cs name sub found.command := by
  refine ⟨Discord.lists_payload hnames, App.exists_build_iff_declarable hnames, ?_⟩
  rintro app hbuild
  have happ : app.Holds cs := App.eq_ofRegistry_of_build hbuild ▸ App.holds_ofRegistry hnames
  refine ⟨happ, fun name sub c hreach words hcall => ?_, fun words found => happ.exists_reaches⟩
  have hreads := happ.resolve_append hreach hcall
  refine ⟨hreads, ?_⟩
  intro rest known values checked around settings entropy outcome after hread hsettings hform hrun
  have hfound : app.resolve (words ++ rest) = .ok ⟨none, c, values⟩ := by
    rw [hreads, hread]
    rfl
  exact App.run_of_resolve hfound hsettings hform hrun

/-- A subcommand that was registered twice, beside a command of its name: the later one is run, and the
command of its name is neither listed nor run. -/
theorem listed_and_run_registered_twice :
    let command (name : String) (sub : Option String) (form : Form) (text : String) :
        Command (Handler Twister) := ⟨name, "", form, sub, [], fun _ _ => pure { content := text }⟩
    let old : Form := [⟨"sides", .whole none, none, none⟩]
    let new : Form := [⟨"size", .text none, some (.str "big"), none⟩]
    let cs := [command "dice" none old "top", command "dice" (some "pool") old "old",
      command "help" none [] "help", command "dice" (some "pool") new "new"]
    (∀ c ∈ cs, ':' ∉ c.name.toList) ∧
      (Discord.payload (.ofList cs)).map (·.name) = ["dice", "help"] ∧
      ∃ app, App.build (.ofList cs) = .ok app ∧ app.names = ["dice", "help"] ∧
        (app.run [] {} 0 ["dice", "pool"]).1.out = "new\n" := by
  intro command old new cs
  have hcs : ∀ c ∈ cs, ':' ∉ c.name.toList := by decide
  have hnone : App.fault? (App.ofRegistry (.ofList cs)) = none := by decide +kernel
  have hreach : Registry.Reaches cs "dice" (some "pool") (command "dice" (some "pool") new "new") :=
    ⟨by decide, by decide, rfl⟩
  have hcall : Call ["dice", "pool"] "dice" (some "pool") :=
    .subcommand (.plain (by decide)) (.plain (by decide))
  obtain ⟨hlists, -, htree⟩ := listed_and_run hcs
  obtain ⟨app, hbuild⟩ : ∃ app, App.build (.ofList cs) = .ok app := ⟨_, by rw [App.build, hnone]⟩
  obtain ⟨hholds, hruns, -⟩ := htree app hbuild
  have hform : new.check [("size", .str "big")] = .ok [("size", .str "big")] := by
    rw [Form.check, Shape.checkFields.eq_def]
    simp [new, Form.fields, Shape.checkFields, Shape.check, checkText, both, inside, Named.get?_cons,
      Except.mapError]
  have hread : (leafStation ["dice", "pool"] (command "dice" (some "pool") new "new")).readLeaf []
      = .ok [("size", .str "big")] := rfl
  have hrun : app.run [] {} 0 ["dice", "pool"] = (.ofReply (.ok { content := "new" }), some _) :=
    (hruns _ _ _ hreach _ hcall).handles hread Settings.load_nil hform rfl
  refine ⟨hcs, hlists.names, app, hbuild, hholds.names, ?_⟩
  rw [hrun]
  decide

/-- A command with an option that cannot be declared, as its name is two words: it is listed, but there is
no tree, not even for the command beside it. -/
theorem listed_and_not_run :
    let command (name : String) (form : Form) : Command (Handler Twister) :=
      ⟨name, "", form, none, [], fun _ _ => pure { content := name }⟩
    let cs := [command "a" [], command "b" [⟨"a b", .text none, some (.str "x"), none⟩]]
    (∀ c ∈ cs, ':' ∉ c.name.toList) ∧ (Discord.payload (.ofList cs)).map (·.name) = ["a", "b"] ∧
      App.build (.ofList cs) = .error (.nameless "--a b") := by
  intro command cs
  have hcs : ∀ c ∈ cs, ':' ∉ c.name.toList := by decide
  have hname : Text.isIdentifier ['a', ' ', 'b'] = false :=
    Text.isIdentifier_eq_false_of_isBlank (c := ' ') (by decide) (by decide)
  have hparam : (Param.ofField ⟨"a b", .text none, some (.str "x"), none⟩).fault?
      = some (.nameless "--a b") := by
    rw [Param.fault?, if_neg (by decide)]
    change (if !Text.isIdentifier ['a', ' ', 'b'] then _ else _) = _
    rw [hname]
    rfl
  have hfault : App.fault? (App.ofRegistry (.ofList cs)) = some (.nameless "--a b") := by
    change [Param.ofField _].findSome? Param.fault? = _
    rw [List.findSome?_singleton, hparam]
  refine ⟨hcs, (Discord.lists_payload hcs).names, ?_⟩
  rw [App.build, hfault]

end DicePool.Cli
