import DicePool.Command.Basic
import DicePool.Proofs.Named
import DicePool.Proofs.Text.Runs
import Mathlib.Data.List.Find

/-!
# Proofs/Command/Registry — what is found of what was registered

A registry is told by the commands that were registered, in order: under a key stands the last one of
that key (`get?_ofList`). As long as no name has a colon in it, a key is a name and a subcommand, and
nothing else (`key_eq_iff`), so that what is found for the two is what was registered last for just
them: main statement `last?_of_mem_commands`.
-/

namespace DicePool

variable {η : Type}

/-! ## Keys -/

namespace Command

/-- The subcommand that the command is, if it is one. -/
def sub? (c : Command η) : Option String :=
  c.subcommand.filter (· ≠ "")

/-- An empty subcommand counts as none. -/
theorem sub?_eq_ite (c : Command η) :
    c.sub? = c.subcommand.bind fun sub => if sub = "" then none else some sub := by
  unfold sub?
  cases c.subcommand with
  | none => rfl
  | some sub => by_cases h : sub = "" <;> simp [Option.filter, h]

theorem sub?_of_isSub {c : Command η} (h : c.isSub) : c.sub? = some (c.subcommand.getD "") := by
  rw [sub?_eq_ite]
  unfold isSub at h
  cases hsub : c.subcommand with
  | none => simp [hsub] at h
  | some sub => simp_all

theorem sub?_of_not_isSub {c : Command η} (h : ¬c.isSub) : c.sub? = none := by
  rw [sub?_eq_ite]
  unfold isSub at h
  cases hsub : c.subcommand with
  | none => rfl
  | some sub => simp_all

theorem commandKey_sub? (c : Command η) (name : String) :
    commandKey name c.sub? = commandKey name c.subcommand := by
  rw [sub?_eq_ite]
  cases c.subcommand with
  | none => rfl
  | some sub => by_cases h : sub = "" <;> simp [commandKey, h]

/-- A key is a name, with what tells the subcommand behind it. -/
theorem toList_key (c : Command η) :
    c.key.toList = c.name.toList ++ c.sub?.elim [] fun sub => ':' :: sub.toList := by
  rw [key, ← commandKey_sub?, sub?_eq_ite]
  cases c.subcommand with
  | none => simp [commandKey]
  | some sub => by_cases h : sub = "" <;> simp [commandKey, h]

/-- **A text with a name in front, up to a colon or the end, is the key of that name with what stands
behind**, as long as names have no colon in them. -/
theorem key_eq_iff_of_toList {c : Command η} (hc : ':' ∉ c.name.toList) {name key : String}
    (hname : ':' ∉ name.toList) {rest : Option String}
    (hkey : key.toList = name.toList ++ rest.elim [] fun t => ':' :: t.toList) :
    c.key = key ↔ c.name = name ∧ c.sub? = rest := by
  have hcolon : ∀ (rest : Option String),
      ∀ x ∈ (rest.elim [] fun t => ':' :: t.toList).head?, ¬(x != ':') := by
    rintro (_ | t) x ⟨⟩
    decide
  rw [← String.toList_inj, toList_key, hkey]
  constructor
  · intro h
    obtain ⟨hnames, hrest⟩ := append_inj_of_runs (p := (· != ':'))
      (fun x hx => bne_iff_ne.2 (ne_of_mem_of_not_mem hx hc))
      (fun x hx => bne_iff_ne.2 (ne_of_mem_of_not_mem hx hname)) (hcolon _) (hcolon _) h
    refine ⟨String.toList_inj.1 hnames, ?_⟩
    revert hrest
    cases c.sub? <;> cases rest <;> simp [String.toList_inj]
  · rintro ⟨rfl, rfl⟩
    rfl

/-- **As long as names have no colon in them, a key tells the name and the subcommand.** -/
theorem key_eq_iff {c d : Command η} (hc : ':' ∉ c.name.toList) (hd : ':' ∉ d.name.toList) :
    c.key = d.key ↔ c.name = d.name ∧ c.sub? = d.sub? :=
  key_eq_iff_of_toList hc hd (toList_key d)

end Command

/-! ## Looking up -/

namespace Registry

/-- **Under a key stands the command that was registered for it last.** -/
theorem get?_foldl_register (cs : List (Command η)) (r : Registry η) (key : String) :
    (cs.foldl register r).get? key = (cs.reverse.find? (·.key == key)).or (r.get? key) := by
  induction cs generalizing r with
  | nil => rfl
  | cons c cs ih =>
    rw [List.foldl_cons, ih, register, Named.get?_put, List.reverse_cons, List.find?_append,
      Option.or_assoc, List.find?_singleton]
    by_cases h : key = c.key
    · simp [h]
    · simp [h, Ne.symm h]

theorem get?_ofList (cs : List (Command η)) (key : String) :
    (ofList cs).get? key = cs.reverse.find? (·.key == key) := by
  rw [ofList, get?_foldl_register, Named.get?_nil, Option.or_none]

/-- **A command that is found at its key is found for its name and subcommand.** -/
theorem find?_of_get?_key {r : Registry η} {c : Command η} (h : r.get? c.key = some c) :
    r.find? c.name c.sub? = some c := by
  rw [find?, Command.commandKey_sub?]
  change (r.get? c.key <|> _) = _
  rw [h]
  rfl

theorem nodup_names_foldl_register (cs : List (Command η)) {r : Registry η}
    (h : r.names.Nodup) : (cs.foldl register r).names.Nodup := by
  induction cs generalizing r with
  | nil => exact h
  | cons c cs ih => exact ih (Named.nodup_names_put h)

theorem mem_foldl_register {cs : List (Command η)} {r : Registry η} {p : String × Command η}
    (h : p ∈ cs.foldl register r) : p ∈ r ∨ (p.2 ∈ cs ∧ p.1 = p.2.key) := by
  induction cs generalizing r with
  | nil => exact .inl h
  | cons c cs ih =>
    rcases ih h with hmem | ⟨hmem, hkey⟩
    · rcases Named.mem_of_mem_put hmem with hr | rfl
      · exact .inl hr
      · exact .inr ⟨List.mem_cons_self, rfl⟩
    · exact .inr ⟨List.mem_cons_of_mem _ hmem, hkey⟩

/-- **What a registry lists was registered, and stands under its key.** -/
theorem of_mem_commands {cs : List (Command η)} {c : Command η}
    (h : c ∈ (ofList cs).commands) : c ∈ cs ∧ (ofList cs).get? c.key = some c := by
  obtain ⟨⟨key, c⟩, hmem, rfl⟩ := List.mem_map.1 h
  rcases mem_foldl_register hmem with hnil | ⟨hcs, hkey⟩
  · cases hnil
  · obtain rfl : key = c.key := hkey
    have hnodup : (ofList cs).names.Nodup :=
      nodup_names_foldl_register cs (r := []) List.nodup_nil
    exact ⟨hcs, (Named.get?_eq_some_iff_mem hnodup).2 hmem⟩

/-- The command that was registered last under a name and as a subcommand. -/
def last? (cs : List (Command η)) (name : String) (sub : Option String) : Option (Command η) :=
  cs.reverse.find? fun c => c.name == name && c.sub? == sub

/-- **Under a name with what stands behind its colon is the last command of just these**, if no name has
a colon in it. -/
theorem get?_ofList_of_toList {cs : List (Command η)} (hnames : ∀ c ∈ cs, ':' ∉ c.name.toList)
    {name key : String} (hname : ':' ∉ name.toList) {rest : Option String}
    (hkey : key.toList = name.toList ++ rest.elim [] fun t => ':' :: t.toList) :
    (ofList cs).get? key = last? cs name rest := by
  rw [get?_ofList, last?]
  refine List.find?_congr fun c hc => ?_
  have hiff := Command.key_eq_iff_of_toList (hnames c (List.mem_reverse.1 hc)) hname hkey
  rw [Bool.eq_iff_iff]
  simpa using hiff

/-- **A command that a registry lists is the last one that was registered under its name and
subcommand**, and is found for them, if no name has a colon in it. -/
theorem last?_of_mem_commands {cs : List (Command η)} (hnames : ∀ c ∈ cs, ':' ∉ c.name.toList)
    {c : Command η} (h : c ∈ (ofList cs).commands) :
    last? cs c.name c.sub? = some c ∧ (ofList cs).find? c.name c.sub? = some c := by
  obtain ⟨hmem, hget⟩ := of_mem_commands h
  refine ⟨?_, find?_of_get?_key hget⟩
  rw [← get?_ofList_of_toList hnames (hnames c hmem) (Command.toList_key c), hget]

/-! ## Groups -/

/-- Puts a command into the group of its name. -/
def regroup (groups : Named (List (Command η))) (c : Command η) : Named (List (Command η)) :=
  groups.put c.name (groups.getD c.name [] ++ [c])

/-- **A command that is put into its group leaves no group with a command of another name.** -/
theorem of_mem_regroup {groups : Named (List (Command η))} {p : Command η → Prop} {c : Command η}
    (h : ∀ g ∈ groups, ∀ d ∈ g.2, p d ∧ d.name = g.1) (hc : p c) :
    ∀ g ∈ regroup groups c, ∀ d ∈ g.2, p d ∧ d.name = g.1 := by
  intro g hg d hd
  rcases Named.mem_of_mem_put hg with hold | rfl
  · exact h g hold d hd
  · rcases List.mem_append.1 hd with hgroup | hnew
    · rw [Named.getD] at hgroup
      cases hget : groups.get? c.name with
      | none => simp [hget] at hgroup
      | some group =>
        rw [hget] at hgroup
        exact h _ (Named.mem_of_get? hget) d hgroup
    · obtain rfl := List.mem_singleton.1 hnew
      exact ⟨hc, rfl⟩

/-- **A group holds commands of its name, all of which the registry lists.** -/
theorem of_mem_byName {r : Registry η} {name : String} {group : List (Command η)}
    (h : (name, group) ∈ r.byName) {c : Command η} (hc : c ∈ group) :
    c ∈ r.commands ∧ c.name = name := by
  have hall : ∀ (l : List (Command η)) (groups : Named (List (Command η))),
      (∀ g ∈ groups, ∀ d ∈ g.2, d ∈ r.commands ∧ d.name = g.1) → (∀ d ∈ l, d ∈ r.commands) →
        ∀ g ∈ l.foldl regroup groups, ∀ d ∈ g.2, d ∈ r.commands ∧ d.name = g.1 := by
    intro l
    induction l with
    | nil => exact fun groups hgroups _ => hgroups
    | cons d l ih =>
      intro groups hgroups hl
      rw [List.forall_mem_cons] at hl
      exact ih _ (of_mem_regroup hgroups hl.1) hl.2
  exact hall r.commands [] (by simp) (fun _ hd => hd) _ h c hc

end Registry

end DicePool
