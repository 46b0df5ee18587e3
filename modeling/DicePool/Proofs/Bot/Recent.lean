import DicePool.Bot.Recent
import Mathlib.Data.Finset.Card
import Mathlib.Data.Finset.Dedup

/-!
# Proofs/Bot/Recent — what a bounded store has forgotten

A store keeps the last use of each key (`latest`), and of those as many as it may hold. Main statement
`get?_keepAll`: the value that was kept last under a key is found just in case fewer other keys were
used since than the store may hold — however often each of them was.
-/

namespace DicePool.Recent

variable {κ α : Type} [DecidableEq κ] {key : κ} {value : α} {size : Nat} {uses : List (κ × α)}

/-- What is kept of uses, the last one in front, if each value was kept as it came. -/
def keepAll (size : Nat) : List (κ × α) → Recent κ α
  | [] => []
  | p :: uses => (keepAll size uses).keep size p.1 p.2

/-- The last use of each key. -/
def latest : List (κ × α) → Recent κ α
  | [] => []
  | p :: uses => p :: (latest uses).filter fun q => q.1 ≠ p.1

/-- The keys of uses. -/
def keys (uses : List (κ × α)) : List κ := uses.map (·.1)

omit [DecidableEq κ] in
@[simp] theorem keys_nil : keys ([] : List (κ × α)) = [] := rfl

omit [DecidableEq κ] in
@[simp] theorem keys_cons (p : κ × α) (uses : List (κ × α)) :
    keys (p :: uses) = p.1 :: keys uses := rfl

/-! ## The last uses -/

omit [DecidableEq κ] in
theorem mem_keys_filter_iff {p : κ → Bool} :
    key ∈ keys (uses.filter fun q => p q.1) ↔ key ∈ keys uses ∧ p key := by
  simp only [keys, List.mem_map, List.mem_filter]
  constructor
  · rintro ⟨q, ⟨hq, hp⟩, rfl⟩
    exact ⟨⟨q, hq, rfl⟩, hp⟩
  · rintro ⟨⟨q, hq, rfl⟩, hp⟩
    exact ⟨q, ⟨hq, hp⟩, rfl⟩

theorem mem_keys_latest_iff : key ∈ keys (latest uses) ↔ key ∈ keys uses := by
  induction uses with
  | nil => rfl
  | cons p uses ih =>
    rw [latest, keys_cons, keys_cons, List.mem_cons, List.mem_cons,
      mem_keys_filter_iff (p := fun k => k ≠ p.1), ih]
    simp only [ne_eq, decide_not, Bool.not_eq_true', decide_eq_false_iff_not]
    tauto

/-- **Each key has one last use.** -/
theorem nodup_keys_latest (uses : List (κ × α)) : (keys (latest uses)).Nodup := by
  induction uses with
  | nil => exact List.nodup_nil
  | cons p uses ih =>
    refine List.nodup_cons.2 ⟨fun hmem => ?_, ih.sublist (List.filter_sublist.map _)⟩
    simpa using (mem_keys_filter_iff (p := fun k => k ≠ p.1)).1 hmem

/-- **There are as many last uses as there are keys.** -/
theorem length_latest (uses : List (κ × α)) :
    (latest uses).length = (keys uses).toFinset.card := by
  have hkeys : (keys (latest uses)).toFinset = (keys uses).toFinset :=
    Finset.ext fun k => by simp only [List.mem_toFinset, mem_keys_latest_iff]
  rw [← hkeys, List.toFinset_card_of_nodup (nodup_keys_latest uses), keys, List.length_map]

/-- **The last uses among newer uses come first**, and then those of the other keys. -/
theorem latest_append (newer older : List (κ × α)) :
    latest (newer ++ older) = latest newer ++ (latest older).filter fun q => q.1 ∉ keys newer := by
  induction newer with
  | nil => simp [latest]
  | cons p newer ih =>
    rw [List.cons_append, latest, latest, ih, List.filter_append, List.filter_filter,
      List.cons_append]
    have hothers : (latest older).filter (fun q => q.1 ≠ p.1 ∧ q.1 ∉ keys newer)
        = (latest older).filter fun q => q.1 ∉ keys (p :: newer) :=
      List.filter_congr fun q _ => by simp
    rw [← hothers]
    simp only [Bool.decide_and]

/-! ## What is kept -/

/-- What was used last is found. -/
theorem get?_keep (h : 0 < size) (l : Recent κ α) (key : κ) (value : α) :
    (l.keep size key value).get? key = some value := by
  obtain ⟨n, rfl⟩ := Nat.exists_eq_succ_of_ne_zero h.ne'
  simp [keep, get?]

/-- Of a cut list, clearing a key leaves no less than one entry below the cut. -/
theorem take_filter_take {l : List (κ × α)} (h : (keys l).Nodup) (n : Nat) :
    ((l.take (n + 1)).filter fun q => q.1 ≠ key).take n
      = (l.filter fun q => q.1 ≠ key).take n := by
  induction l generalizing n with
  | nil => rfl
  | cons p l ih =>
    obtain ⟨hnew, hl⟩ := List.nodup_cons.1 h
    rw [List.take_succ_cons]
    by_cases hp : p.1 = key
    · -- the key comes here, and nowhere after
      have hkeep (m : List (κ × α)) (hm : ∀ q ∈ m, q ∈ l) :
          (m.filter fun q => q.1 ≠ key) = m :=
        List.filter_eq_self.2 fun q hq => decide_eq_true fun hkey =>
          hnew (List.mem_map.2 ⟨q, hm q hq, hkey.trans hp.symm⟩)
      rw [List.filter_cons_of_neg (by simp [hp]), List.filter_cons_of_neg (by simp [hp]),
        hkeep _ fun q => List.mem_of_mem_take, hkeep l fun q => id, List.take_take, Nat.min_self]
    · rw [List.filter_cons_of_pos (by simp [hp]), List.filter_cons_of_pos (by simp [hp])]
      cases n with
      | zero => rfl
      | succ n => rw [List.take_succ_cons, List.take_succ_cons, ih hl]

/-- **What is kept are the last uses**, as many as there is room for. -/
theorem keepAll_eq_take_latest (size : Nat) (uses : List (κ × α)) :
    keepAll size uses = (latest uses).take size := by
  induction uses with
  | nil => exact List.take_nil.symm
  | cons p uses ih =>
    rw [keepAll, keep, ih, latest]
    cases size with
    | zero => rfl
    | succ n => rw [List.take_succ_cons, List.take_succ_cons, take_filter_take (nodup_keys_latest uses)]

theorem get?_eq_none_of_notMem {l : Recent κ α} (h : key ∉ keys l) : l.get? key = none := by
  rw [get?, Option.map_eq_none_iff, List.find?_eq_none]
  exact fun q hq hkey => h (List.mem_map.2 ⟨q, hq, of_decide_eq_true hkey⟩)

/-- A key that was never used is not found. -/
theorem get?_keepAll_of_notMem (h : key ∉ keys uses) : (keepAll size uses).get? key = none := by
  rw [keepAll_eq_take_latest]
  refine get?_eq_none_of_notMem fun hmem => h (mem_keys_latest_iff.1 ?_)
  exact (List.take_sublist _ _).map _ |>.subset hmem

/-- **A value is found until as many other keys were used as there is room for.** -/
theorem get?_keepAll {newer older : List (κ × α)} (hnewer : key ∉ keys newer) :
    (keepAll size (newer ++ (key, value) :: older)).get? key
      = if (keys newer).toFinset.card < size then some value else none := by
  have hlatest : latest (newer ++ (key, value) :: older) = latest newer ++ (key, value)
      :: (((latest older).filter fun q => q.1 ≠ key).filter fun q => q.1 ∉ keys newer) := by
    rw [latest_append, latest, List.filter_cons_of_pos (by simpa using hnewer)]
  have hbefore : key ∉ keys (latest newer) := mem_keys_latest_iff.not.2 hnewer
  rw [keepAll_eq_take_latest, hlatest, ← length_latest]
  split
  next hroom =>
    obtain ⟨n, hn⟩ := Nat.exists_eq_add_of_lt hroom
    have hnone : (latest newer).find? (fun p => p.1 = key) = none :=
      Option.map_eq_none_iff.1 (get?_eq_none_of_notMem hbefore)
    rw [hn, Nat.add_assoc, List.take_length_add_append, List.take_succ_cons, get?, List.find?_append,
      hnone, List.find?_cons_of_pos (by simp)]
    rfl
  next hfull =>
    rw [List.take_append_of_le_length (Nat.not_lt.1 hfull)]
    exact get?_eq_none_of_notMem fun hmem => hbefore ((List.take_sublist _ _).map _ |>.subset hmem)

end DicePool.Recent
