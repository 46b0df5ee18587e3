import DicePool.Named
import Mathlib.Data.List.Nodup

/-!
# Proofs/Named — looking up names

As long as every name comes once, a list of values by name is told by what it holds, in whatever
order (`get?_eq_some_iff_mem`, `get?_of_perm`).
-/

namespace DicePool.Named

variable {α β : Type} {l m : Named α} {name : String} {value : α}

@[simp] theorem names_nil : names ([] : Named α) = [] := rfl

@[simp] theorem names_cons (p : String × α) (l : Named α) : names (p :: l) = p.1 :: l.names := rfl

@[simp] theorem names_append (l m : Named α) : names (l ++ m) = l.names ++ m.names :=
  List.map_append

theorem mem_names (h : (name, value) ∈ l) : name ∈ l.names :=
  List.mem_map.2 ⟨_, h, rfl⟩

/-- What is found under a name stands there. -/
theorem mem_of_get? (h : l.get? name = some value) : (name, value) ∈ l := by
  induction l with
  | nil => cases h
  | cons p l ih =>
    obtain ⟨k, v⟩ := p
    rw [get?_cons] at h
    split at h
    next hk =>
      obtain rfl := Option.some.inj h
      exact hk ▸ List.mem_cons_self
    next => exact List.mem_cons_of_mem _ (ih h)

/-- **Where every name comes once, what is found under a name is what stands there.** -/
theorem get?_eq_some_iff_mem (h : l.names.Nodup) : l.get? name = some value ↔ (name, value) ∈ l := by
  induction l with
  | nil => simp
  | cons p l ih =>
    obtain ⟨k, v⟩ := p
    rw [names_cons, List.nodup_cons] at h
    rw [get?_cons, List.mem_cons, Prod.mk.injEq]
    by_cases hk : name = k
    · subst hk
      have hl : (name, value) ∉ l := fun hmem => h.1 (mem_names hmem)
      simp [hl, eq_comm]
    · simp [hk, ih h.2]

/-- The order of names does not matter. -/
theorem get?_of_perm (h : l.names.Nodup) (hperm : List.Perm l m) (name : String) :
    l.get? name = m.get? name := by
  have hm : m.names.Nodup := (hperm.map _).nodup_iff.1 h
  refine Option.ext fun v => ?_
  rw [get?_eq_some_iff_mem h, get?_eq_some_iff_mem hm, hperm.mem_iff]

theorem get?_map (f : α → β) (l : Named α) (name : String) :
    get? (l.map fun p => (p.1, f p.2)) name = (l.get? name).map f := by
  induction l with
  | nil => rfl
  | cons p l ih =>
    rw [List.map_cons, get?_cons, get?_cons, ih]
    split <;> rfl

/-- **Values that are made of names are found under those names.** -/
theorem get?_filterMap (names : List String) (g : String → Option α) (name : String) :
    get? (names.filterMap fun n => (g n).map fun v => (n, v)) name
      = if name ∈ names then g name else none := by
  induction names with
  | nil => rfl
  | cons n names ih =>
    rw [List.filterMap_cons]
    by_cases hn : name = n
    · subst hn
      cases hg : g name with
      | none => simp [ih, hg]
      | some v => simp [get?_cons]
    · cases hg : g n with
      | none => simp [ih, hn]
      | some v => simp [get?_cons, ih, hn]

/-! ## Putting values -/

theorem get?_append (l m : Named α) (name : String) :
    get? (l ++ m) name = (l.get? name).or (m.get? name) := by
  induction l with
  | nil => rfl
  | cons p l ih =>
    rw [List.cons_append, get?_cons, get?_cons, ih]
    split <;> rfl

theorem get?_eq_none_iff : l.get? name = none ↔ name ∉ l.names := by
  induction l with
  | nil => simp
  | cons p l ih =>
    rw [get?_cons, names_cons, List.mem_cons, not_or]
    by_cases hk : name = p.1
    · simp [hk]
    · simp [hk, ih]

/-- A new name goes to the end. -/
theorem put_of_notMem (h : name ∉ l.names) : l.put name value = l ++ [(name, value)] := by
  induction l with
  | nil => rfl
  | cons p l ih =>
    rw [names_cons, List.mem_cons, not_or] at h
    rw [put, if_neg (Ne.symm h.1), ih h.2, List.cons_append]

/-- An old name keeps its place. -/
theorem names_put_of_mem (h : name ∈ l.names) : (l.put name value).names = l.names := by
  induction l with
  | nil => cases h
  | cons p l ih =>
    rw [put]
    split
    next => rfl
    next hk =>
      rw [names_cons, List.mem_cons] at h
      rw [names_cons, names_cons, ih (h.resolve_left (Ne.symm hk))]

/-- **Every name still comes once when a value is put.** -/
theorem nodup_names_put (h : l.names.Nodup) : (l.put name value).names.Nodup := by
  by_cases hmem : name ∈ l.names
  · rwa [names_put_of_mem hmem]
  · rw [put_of_notMem hmem, names_append]
    exact List.concat_eq_append ▸ h.concat hmem

theorem mem_of_mem_put {p : String × α} (h : p ∈ l.put name value) : p ∈ l ∨ p = (name, value) := by
  induction l with
  | nil => exact .inr (List.mem_singleton.1 h)
  | cons q l ih =>
    rw [put] at h
    split at h
    next hk =>
      rcases List.mem_cons.1 h with rfl | hl
      · exact .inr (by rw [hk])
      · exact .inl (List.mem_cons_of_mem _ hl)
    next =>
      rcases List.mem_cons.1 h with rfl | hl
      · exact .inl List.mem_cons_self
      · exact (ih hl).imp_left (List.mem_cons_of_mem _)

/-- What holds of all names, and of a new one, holds once a value is put. -/
theorem forall_mem_names_put {p : String → Prop} (h : ∀ k ∈ l.names, p k) (hname : p name) :
    ∀ k ∈ (l.put name value).names, p k := by
  by_cases hmem : name ∈ l.names
  · rwa [names_put_of_mem hmem]
  · rw [put_of_notMem hmem, names_append, List.forall_mem_append]
    exact ⟨h, List.forall_mem_singleton.2 hname⟩

/-- **Values that are put under names that are all new and come once are appended.** -/
theorem foldl_put_eq_append (h : names (l ++ m) |>.Nodup) :
    m.foldl (fun out p => out.put p.1 p.2) l = l ++ m := by
  induction m generalizing l with
  | nil => rw [List.foldl_nil, List.append_nil]
  | cons p m ih =>
    have hsplit : l ++ p :: m = l ++ [p] ++ m := by simp
    have hnew : p.1 ∉ l.names := by
      rw [names_append, List.nodup_append] at h
      exact fun hmem => h.2.2 _ hmem _ (by simp) rfl
    rw [List.foldl_cons, put_of_notMem hnew, hsplit]
    exact ih (by rwa [hsplit] at h)

end DicePool.Named
