import DicePool.Proofs.Command.Registry
import Mathlib.Data.List.Induction

/-!
# Proofs/Command/Groups — the commands of each name

A registry takes commands one after the other, some in the place of others, and `byName` groups what is
left in it by name. Where nothing is left out by a colon in a name, all of this can be told from the
commands as they were registered, without a registry: which names there are (`namesOf`), and what each of
them leads to, in order (`Routes`). Main statements: `byName_ofList` for the names, and `routes_map_shown`
for what they lead to.
-/

namespace DicePool

/-! ## Lists in which every member is kept once

Adding a member at the end keeps it if it is new (`eraseDups_concat`); whatever is said of `eraseDups`
follows from that by induction from the end. -/

section EraseDups

variable {α β : Type} [BEq α] [LawfulBEq α] [BEq β] [LawfulBEq β]

theorem eraseDups_concat (l : List α) (a : α) :
    (l ++ [a]).eraseDups = if a ∈ l then l.eraseDups else l.eraseDups ++ [a] := by
  rw [List.eraseDups_append, List.removeAll, List.filter_singleton]
  split
  next h => simp [h]
  next h => simp [h, List.eraseDups_cons]

theorem nodup_eraseDups (l : List α) : l.eraseDups.Nodup := by
  induction l using List.reverseRecOn with
  | nil => exact List.nodup_nil
  | append_singleton l a ih =>
    rw [eraseDups_concat]
    split
    next => exact ih
    next h => exact List.concat_eq_append ▸ ih.concat (mt List.mem_eraseDups.1 h)

/-- **What is made of members that are kept once** is no other than what is made of all of them. -/
theorem eraseDups_map_eraseDups (f : α → β) (l : List α) :
    (l.eraseDups.map f).eraseDups = (l.map f).eraseDups := by
  induction l using List.reverseRecOn with
  | nil => rfl
  | append_singleton l a ih =>
    rw [eraseDups_concat, List.map_append, List.map_singleton, eraseDups_concat]
    split
    next h => rw [ih, if_pos (List.mem_map_of_mem h)]
    next =>
      have hmem : f a ∈ l.eraseDups.map f ↔ f a ∈ l.map f := by
        simp only [List.mem_map, List.mem_eraseDups]
      rw [List.map_append, List.map_singleton, eraseDups_concat, ih]
      exact if_congr hmem rfl rfl

/-- **Keeping members once and choosing among them may change places**, if no two of them are chosen as
the same. -/
theorem eraseDups_filterMap {f : α → Option β} {l : List α}
    (hf : ∀ a ∈ l, ∀ b ∈ l, ∀ v, f a = some v → f b = some v → a = b) :
    (l.filterMap f).eraseDups = l.eraseDups.filterMap f := by
  induction l using List.reverseRecOn with
  | nil => rfl
  | append_singleton l a ih =>
    have hl := ih fun x hx y hy => hf x (List.mem_append_left _ hx) y (List.mem_append_left _ hy)
    rw [List.filterMap_append, eraseDups_concat]
    cases hv : f a with
    | none =>
      have hnone : [a].filterMap f = [] := by simp [hv]
      rw [hnone, List.append_nil, hl]
      split
      next => rfl
      next => rw [List.filterMap_append, hnone, List.append_nil]
    | some v =>
      have hsome : [a].filterMap f = [v] := by simp [hv]
      have hmem : v ∈ l.filterMap f ↔ a ∈ l := by
        rw [List.mem_filterMap]
        refine ⟨?_, fun h => ⟨a, h, hv⟩⟩
        rintro ⟨b, hb, hbv⟩
        rwa [hf a (by simp) b (List.mem_append_left _ hb) v hv hbv]
      rw [hsome, eraseDups_concat, hl]
      by_cases h : a ∈ l
      · rw [if_pos (hmem.2 h), if_pos h]
      · rw [if_neg (mt hmem.1 h), if_neg h, List.filterMap_append, hsome]

end EraseDups

/-- **If each member makes something that tells which member it was made of**, then what is made stands
as the members do. -/
theorem map_filterMap_eq {α β : Type} {f : α → Option β} {g : β → α} {p : β → Prop} {l : List α}
    (h : ∀ a ∈ l, ∃ b, f a = some b ∧ g b = a ∧ p b) :
    (l.filterMap f).map g = l ∧ ∀ b ∈ l.filterMap f, p b := by
  induction l with
  | nil => exact ⟨rfl, by simp⟩
  | cons a l ih =>
    rw [List.forall_mem_cons] at h
    obtain ⟨b, hb, hg, hp⟩ := h.1
    obtain ⟨hmap, hall⟩ := ih h.2
    rw [List.filterMap_cons_some hb, List.map_cons, hg, hmap, List.forall_mem_cons]
    exact ⟨rfl, hp, hall⟩

/-! ## Values that are put -/

namespace Named

variable {α : Type} {name : String} {value : α}

/-- An old name keeps its place, and so does all that is the same of the old value and the new one. -/
theorem map_put_of_mem {β : Type} {l : Named α} {f : String × α → β} (h : name ∈ l.names)
    (hf : ∀ p ∈ l, p.1 = name → f p = f (name, value)) : (l.put name value).map f = l.map f := by
  induction l with
  | nil => cases h
  | cons p l ih =>
    rw [put]
    split
    next hk => rw [List.map_cons, List.map_cons, hf p List.mem_cons_self hk, hk]
    next hk =>
      rw [names_cons, List.mem_cons] at h
      rw [List.map_cons, List.map_cons,
        ih (h.resolve_left (Ne.symm hk)) fun q hq => hf q (List.mem_cons_of_mem _ hq)]

variable {ns : List String} {f : String → α}

theorem names_map (ns : List String) (f : String → α) : names (ns.map fun n => (n, f n)) = ns := by
  rw [names, List.map_map]
  exact List.map_id ns

theorem get?_map_of_mem (h : name ∈ ns) : get? (ns.map fun n => (n, f n)) name = some (f name) := by
  induction ns with
  | nil => cases h
  | cons n ns ih =>
    rw [List.map_cons, get?_cons]
    split
    next hn => rw [hn]
    next hn => exact ih ((List.mem_cons.1 h).resolve_left hn)

/-- **A new value for one of the names that come once changes that one.** -/
theorem put_map_of_mem (hns : ns.Nodup) (h : name ∈ ns) : put (ns.map fun n => (n, f n)) name value
    = ns.map fun n => (n, if n = name then value else f n) := by
  induction ns with
  | nil => cases h
  | cons n ns ih =>
    rw [List.nodup_cons] at hns
    rw [List.map_cons, List.map_cons, put]
    split
    next hn =>
      subst hn
      refine congrArg _ (List.map_congr_left fun m hm => ?_)
      rw [if_neg (ne_of_mem_of_not_mem hm hns.1)]
    next hn => rw [ih hns.2 ((List.mem_cons.1 h).resolve_left (Ne.symm hn))]

end Named

namespace Registry

variable {η : Type}

/-! ## What is told from the commands as they were registered -/

/-- The names of commands, each once, in the order in which they first came. -/
def namesOf (cs : List (Command η)) : List String :=
  (cs.map (·.name)).eraseDups

/-- The subcommands of a name, each once, in the order in which they first came. -/
def subsOf (cs : List (Command η)) (name : String) : List String :=
  ((cs.filter (·.name == name)).filterMap Command.sub?).eraseDups

/-- What a name leads to: to its subcommands if it has any, and else to a command that is none. -/
def branches (cs : List (Command η)) (name : String) : List (Option String) :=
  match subsOf cs name with
  | [] => [none]
  | subs => subs.map some

theorem nodup_namesOf (cs : List (Command η)) : (namesOf cs).Nodup :=
  nodup_eraseDups _

theorem nodup_branches (cs : List (Command η)) (name : String) : (branches cs name).Nodup := by
  unfold branches
  split
  next => exact List.nodup_singleton _
  next => exact (nodup_eraseDups _).map fun _ _ => Option.some.inj

/-- Routes from a name to what stands for commands: there is one for each thing that the name leads to, in
order, and it ends at what stands for the command that was registered last. -/
structure Routes {β : Type} (rel : β → Command η → Prop) (cs : List (Command η)) (name : String)
    (routes : List (Option String × β)) : Prop where
  /-- They are those that the name has. -/
  branches : routes.map (·.1) = branches cs name
  /-- Each ends where it should. -/
  last : ∀ route ∈ routes, ∃ c, last? cs name route.1 = some c ∧ rel route.2 c

/-- A command that a name leads to, as one of its subcommands or as none. -/
structure Reaches (cs : List (Command η)) (name : String) (sub : Option String) (c : Command η) :
    Prop where
  /-- There is the name. -/
  name_mem : name ∈ namesOf cs
  /-- The name leads there. -/
  sub_mem : sub ∈ branches cs name
  /-- The command was registered last for it. -/
  last?_eq : last? cs name sub = some c

/-! ## Groups -/

/-- The groups of commands: for each name those that have it, in order. -/
def groupsOf (cs : List (Command η)) : Named (List (Command η)) :=
  (namesOf cs).map fun name => (name, cs.filter (·.name == name))

theorem filter_name_concat (cs : List (Command η)) (c : Command η) (name : String) :
    (cs ++ [c]).filter (·.name == name)
      = if name = c.name then cs.filter (·.name == c.name) ++ [c] else cs.filter (·.name == name) := by
  rw [List.filter_append, List.filter_singleton]
  by_cases hname : name = c.name
  · simp [hname]
  · simp [hname, beq_eq_false_iff_ne.2 (Ne.symm hname)]

/-- **A command that is put into its group is one command more.** -/
theorem regroup_groupsOf (cs : List (Command η)) (c : Command η) :
    regroup (groupsOf cs) c = groupsOf (cs ++ [c]) := by
  have hnames : namesOf (cs ++ [c])
      = if c.name ∈ cs.map (·.name) then namesOf cs else namesOf cs ++ [c.name] := by
    rw [namesOf, List.map_append, List.map_singleton, eraseDups_concat]
    rfl
  rw [regroup, Named.getD, groupsOf, groupsOf, hnames]
  by_cases hold : c.name ∈ cs.map (·.name)
  · have hmem : c.name ∈ namesOf cs := List.mem_eraseDups.2 hold
    rw [if_pos hold, Named.get?_map_of_mem hmem, Named.put_map_of_mem (nodup_namesOf cs) hmem]
    exact List.map_congr_left fun name _ => by rw [filter_name_concat]; rfl
  · have hnew : c.name ∉ Named.names ((namesOf cs).map fun name =>
        (name, cs.filter (·.name == name))) := by
      rwa [Named.names_map, namesOf, List.mem_eraseDups]
    have hnone : cs.filter (·.name == c.name) = [] :=
      List.filter_eq_nil_iff.2 fun d hd hname => hold (List.mem_map.2 ⟨d, hd, eq_of_beq hname⟩)
    rw [if_neg hold, Named.get?_eq_none_iff.2 hnew, Named.put_of_notMem hnew, List.map_append,
      List.map_singleton, filter_name_concat, if_pos rfl, hnone]
    refine congrArg (· ++ _) (List.map_congr_left fun name hname => ?_)
    rw [filter_name_concat, if_neg (ne_of_mem_of_not_mem (List.mem_eraseDups.1 hname) hold)]

/-- **The groups of a registry are those of what it lists.** -/
theorem byName_eq (r : Registry η) : r.byName = groupsOf r.commands := by
  have hall : ∀ l : List (Command η), l.foldl regroup [] = groupsOf l := by
    intro l
    induction l using List.reverseRecOn with
    | nil => rfl
    | append_singleton l c ih =>
      rw [List.foldl_append, ih, List.foldl_cons, List.foldl_nil, regroup_groupsOf]
  exact hall r.commands

/-- What a group leads to: its subcommands, or its first command if it has none. -/
def shown (group : List (Command η)) : List (Command η) :=
  match group.filter Command.isSub, group with
  | s :: subs, _ => s :: subs
  | [], c :: _ => [c]
  | [], [] => []

theorem shown_of_cons {group subs : List (Command η)} {s : Command η}
    (h : group.filter Command.isSub = s :: subs) : shown group = s :: subs := by
  unfold shown
  rw [h]

theorem shown_of_nil {group : List (Command η)} {c : Command η}
    (h : (c :: group).filter Command.isSub = []) : shown (c :: group) = [c] := by
  unfold shown
  rw [h]

theorem mem_of_mem_shown {group : List (Command η)} {c : Command η} (h : c ∈ shown group) :
    c ∈ group := by
  unfold shown at h
  split at h
  next hsubs => exact List.mem_of_mem_filter (hsubs ▸ h)
  next => exact List.mem_singleton.1 h ▸ List.mem_cons_self
  next => cases h

/-- The commands of a group that are subcommands are those that have one. -/
theorem map_sub?_filter_isSub (group : List (Command η)) :
    (group.filter Command.isSub).map Command.sub? = (group.filterMap Command.sub?).map some := by
  induction group with
  | nil => rfl
  | cons c group ih =>
    by_cases hsub : c.isSub
    · rw [List.filter_cons_of_pos hsub, List.map_cons, ih, Command.sub?_of_isSub hsub,
        List.filterMap_cons_some (Command.sub?_of_isSub hsub), List.map_cons]
    · rw [List.filter_cons_of_neg hsub, ih, List.filterMap_cons_none (Command.sub?_of_not_isSub hsub)]

/-! ## Groups of what was registered -/

theorem mem_names_ofList {cs : List (Command η)} {key : String} :
    key ∈ (ofList cs).names ↔ ∃ c ∈ cs, c.key = key := by
  rw [← not_iff_not, ← Named.get?_eq_none_iff, get?_ofList, List.find?_eq_none]
  simp

section

variable {cs : List (Command η)} (hnames : ∀ c ∈ cs, ':' ∉ c.name.toList)

include hnames

/-- **A registry lists one command for each name and subcommand**, in the order in which these first
came. -/
theorem map_commands_ofList : (ofList cs).commands.map (fun c => (c.name, c.sub?))
    = (cs.map fun c => (c.name, c.sub?)).eraseDups := by
  induction cs using List.reverseRecOn with
  | nil => rfl
  | append_singleton cs c ih =>
    rw [List.forall_mem_append, List.forall_mem_singleton] at hnames
    have hplace : ∀ d ∈ cs, d.key = c.key → (d.name, d.sub?) = (c.name, c.sub?) := fun d hd hkey =>
      Prod.ext_iff.2 ((Command.key_eq_iff (hnames.1 d hd) hnames.2).1 hkey)
    have hmem : (c.name, c.sub?) ∈ cs.map (fun c => (c.name, c.sub?))
        ↔ c.key ∈ (ofList cs).names := by
      rw [mem_names_ofList, List.mem_map]
      refine exists_congr fun d => and_congr_right fun hd => ⟨fun h => ?_, hplace d hd⟩
      exact (Command.key_eq_iff (hnames.1 d hd) hnames.2).2 (Prod.ext_iff.1 h)
    have hstep : ofList (cs ++ [c]) = (ofList cs).put c.key c := by
      rw [ofList, List.foldl_append]
      rfl
    rw [hstep, List.map_append, List.map_singleton, eraseDups_concat, ← ih hnames.1, commands,
      commands, List.map_map, List.map_map]
    by_cases hold : c.key ∈ (ofList cs).names
    · rw [if_pos (hmem.2 hold)]
      refine Named.map_put_of_mem hold fun p hp hkey => ?_
      obtain hnil | ⟨hcs, hp⟩ := mem_foldl_register hp
      · cases hnil
      · exact hplace p.2 hcs (hp.symm.trans hkey)
    · rw [if_neg (mt hmem.1 hold), Named.put_of_notMem hold, List.map_append]
      rfl

/-- **A registry has the names that were registered.** -/
theorem namesOf_commands_ofList : namesOf (ofList cs).commands = namesOf cs := by
  have hfst : ∀ l : List (Command η), l.map (·.name) = (l.map fun c => (c.name, c.sub?)).map (·.1) :=
    fun l => by rw [List.map_map]; rfl
  rw [namesOf, namesOf, hfst, hfst cs, map_commands_ofList hnames, eraseDups_map_eraseDups]

/-- **There is a group for each name that was registered**, with what the registry lists under it. -/
theorem byName_ofList : (ofList cs).byName
    = (namesOf cs).map fun name => (name, (ofList cs).commands.filter (·.name == name)) := by
  rw [byName_eq, groupsOf, namesOf_commands_ofList hnames]

theorem filter_commands_ne_nil {name : String} (hname : name ∈ namesOf cs) :
    (ofList cs).commands.filter (·.name == name) ≠ [] := by
  rw [← namesOf_commands_ofList hnames, namesOf, List.mem_eraseDups] at hname
  obtain ⟨c, hc, rfl⟩ := List.mem_map.1 hname
  exact List.ne_nil_of_mem (List.mem_filter.2 ⟨hc, beq_self_eq_true c.name⟩)

/-- **A group has each subcommand of its name once**, in the order in which they first came. -/
theorem subsOf_ofList (name : String) :
    ((ofList cs).commands.filter (·.name == name)).filterMap Command.sub? = subsOf cs name := by
  let f : String × Option String → Option String := fun p => if p.1 = name then p.2 else none
  have hf : ∀ l : List (Command η), (l.filter (·.name == name)).filterMap Command.sub?
      = (l.map fun c => (c.name, c.sub?)).filterMap f := by
    intro l
    rw [List.filterMap_filter, List.filterMap_map]
    refine List.filterMap_congr fun c _ => ?_
    simp [f]
  have hinj : ∀ p q v, f p = some v → f q = some v → p = q := by
    rintro ⟨n, sub⟩ ⟨m, tub⟩ v hp hq
    simp only [f, Option.ite_none_right_eq_some] at hp hq
    rw [hp.1, hp.2, hq.1, hq.2]
  rw [subsOf, hf, hf cs, map_commands_ofList hnames]
  exact (eraseDups_filterMap fun p _ q _ v => hinj p q v).symm

/-- **What a group leads to is what its name leads to.** -/
theorem map_sub?_shown {name : String} (hname : name ∈ namesOf cs) :
    (shown ((ofList cs).commands.filter (·.name == name))).map Command.sub? = branches cs name := by
  have hsubs := subsOf_ofList hnames name
  have hmap := map_sub?_filter_isSub ((ofList cs).commands.filter (·.name == name))
  rw [hsubs] at hmap
  unfold shown branches
  split
  next s subs hcons =>
    rw [hcons] at hmap
    rw [hmap]
    cases hsubsOf : subsOf cs name with
    | nil => simp [hsubsOf] at hmap
    | cons => rfl
  next c group hnil hgroup =>
    rw [hnil, List.map_nil, eq_comm, List.map_eq_nil_iff] at hmap
    have hsub : ¬c.isSub := List.filter_eq_nil_iff.1 hnil c (hgroup ▸ List.mem_cons_self)
    rw [hmap, List.map_singleton, Command.sub?_of_not_isSub hsub]
  next hgroup => exact absurd hgroup (filter_commands_ne_nil hnames hname)

/-- **What stands for the commands that a group leads to is routed**: it stands for those that were
registered last under the name. -/
theorem routes_map_shown {β : Type} {rel : β → Command η → Prop} {f : Command η → β}
    (hf : ∀ c, rel (f c) c) {name : String} (hname : name ∈ namesOf cs) : Routes rel cs name
      ((shown ((ofList cs).commands.filter (·.name == name))).map fun c => (c.sub?, f c)) where
  branches := by
    rw [List.map_map]
    exact map_sub?_shown hnames hname
  last := by
    rintro _ hroute
    obtain ⟨c, hc, rfl⟩ := List.mem_map.1 hroute
    obtain ⟨hmem, hcname⟩ := List.mem_filter.1 (mem_of_mem_shown hc)
    obtain rfl := eq_of_beq hcname
    exact ⟨c, (last?_of_mem_commands hnames hmem).1, hf c⟩

end

end Registry

end DicePool
