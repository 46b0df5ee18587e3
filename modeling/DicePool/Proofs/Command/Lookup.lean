import DicePool.Proofs.Command.Registry

/-!
# Proofs/Command/Lookup — which command is found

A lookup makes one key of a name and a subcommand and has the name alone to fall back on. Main statement
`find?_ofList_eq`: as long as the name has no colon in it, what is found is the command that was registered
last for just the two, and else the last one that is no subcommand of that name. A colon in the name makes
it pass for another name with a subcommand (`find?_crosses_at_colon`).
-/

namespace DicePool.Registry

variable {η : Type} {cs : List (Command η)} {name : String} {sub : Option String}

/-- A key is a name, with what was asked for behind a colon. -/
theorem toList_commandKey (name : String) (sub : Option String) : (commandKey name sub).toList
    = name.toList ++ (sub.filter (· ≠ "")).elim [] fun t => ':' :: t.toList := by
  cases sub with
  | none => simp [commandKey]
  | some t => by_cases ht : t = "" <;> simp [commandKey, Option.filter, ht]

/-- A key of a name with a colon in it is the key of what stands in front, with all the rest behind. -/
theorem toList_commandKey_colon (name rest : String) (sub : Option String) :
    (commandKey (name ++ ":" ++ rest) sub).toList
      = name.toList ++ (some (commandKey rest sub)).elim [] fun t => ':' :: t.toList := by
  simp [toList_commandKey]

/-- **The last command that was registered is the one that is named.** -/
theorem of_last?_eq_some {c : Command η} (h : last? cs name sub = some c) :
    c ∈ cs ∧ c.name = name ∧ c.sub? = sub := by
  have hmem := List.mem_of_find?_eq_some h
  have htold := List.find?_some h
  simp only [Bool.and_eq_true, beq_iff_eq] at htold
  exact ⟨List.mem_reverse.1 hmem, htold⟩

/-- **A lookup finds the last command of the name and the subcommand, or else of the name alone** — as long
as no name that was registered has a colon in it, and this one has none, so that a command of another name is
never found. Of a name with a colon in it what stands behind the first one counts as a subcommand, or as the
beginning of one. -/
theorem find?_ofList_eq (hnames : ∀ c ∈ cs, ':' ∉ c.name.toList) (hname : ':' ∉ name.toList)
    (sub : Option String) :
    (ofList cs).find? name sub
        = (last? cs name (sub.filter (· ≠ ""))).or (last? cs name none) ∧
      (∀ c ∈ (ofList cs).find? name sub, c ∈ cs ∧ c.name = name) ∧
      ∀ rest : String, (ofList cs).find? (name ++ ":" ++ rest) sub
        = (last? cs name (some (commandKey rest sub))).or (last? cs name (some rest)) := by
  have halone : (ofList cs).get? name = last? cs name none :=
    get?_ofList_of_toList hnames hname (by simp)
  have hfind : (ofList cs).find? name sub
      = (last? cs name (sub.filter (· ≠ ""))).or (last? cs name none) := by
    rw [find?, Option.orElse_eq_orElse, Option.orElse_eq_or,
      get?_ofList_of_toList hnames hname (toList_commandKey name sub), halone]
  refine ⟨hfind, fun c hc => ?_, fun rest => ?_⟩
  · rw [hfind, Option.mem_def, Option.or_eq_some_iff] at hc
    rcases hc with hlast | ⟨-, hlast⟩
    · exact ⟨(of_last?_eq_some hlast).1, (of_last?_eq_some hlast).2.1⟩
    · exact ⟨(of_last?_eq_some hlast).1, (of_last?_eq_some hlast).2.1⟩
  · have hrest : (ofList cs).get? (name ++ ":" ++ rest) = last? cs name (some rest) :=
      get?_ofList_of_toList hnames hname (by simp)
    rw [find?, Option.orElse_eq_orElse, Option.orElse_eq_or,
      get?_ofList_of_toList hnames hname (toList_commandKey_colon name rest sub), hrest]

/-- A subcommand that was registered twice, beside a command of its name: the later one is found for the two,
and the command of the name for any other subcommand. -/
theorem find?_ofList_eq_registered_twice :
    let command (name : String) (sub : Option String) (label : Nat) : Command Nat :=
      ⟨name, "", [], sub, [], label⟩
    let cs := [command "dice" (some "pool") 0, command "dice" none 1, command "dice" (some "pool") 2]
    (∀ c ∈ cs, ':' ∉ c.name.toList) ∧ ':' ∉ "dice".toList ∧
      (ofList cs).find? "dice" (some "pool") = some (command "dice" (some "pool") 2) ∧
      (ofList cs).find? "dice" (some "coin") = some (command "dice" none 1) := by
  intro command cs
  have hcs : ∀ c ∈ cs, ':' ∉ c.name.toList := by decide
  have hdice : ':' ∉ "dice".toList := by decide
  refine ⟨hcs, hdice, ?_, ?_⟩
  · rw [(find?_ofList_eq hcs hdice (some "pool")).1]
    rfl
  · rw [(find?_ofList_eq hcs hdice (some "coin")).1]
    rfl

/-- **A name with a colon in it finds a command of another name**: one that has what stands behind the colon
as a subcommand. And an empty subcommand is none, so that it takes the place of the command that has none. -/
theorem find?_crosses_at_colon :
    let command (name : String) (sub : Option String) : Command Unit := ⟨name, "", [], sub, [], ()⟩
    (':' ∉ (command "dice" (some "pool")).name.toList ∧
        (ofList [command "dice" (some "pool")]).find? "dice:pool" none
          = some (command "dice" (some "pool"))) ∧
      (ofList [command "dice" none, command "dice" (some "")]).find? "dice" none
        = some (command "dice" (some "")) := by
  intro command
  exact ⟨⟨by decide, rfl⟩, rfl⟩

end DicePool.Registry
