import DicePool.Metrics
import DicePool.Proofs.Named
import DicePool.Proofs.Number.Decimal

/-!
# Proofs/Metrics/Flat — the flat list tells every counter and every histogram

The flat list puts counters and histograms under names of one kind: an entry of a histogram is named
`histo.`, the name of the histogram, and a label. Nothing is lost by that as long as the metrics are
`Legible`: no counter has a name of the second kind, and all buckets have labels that bounds make, so
that the last dot of a name is the one before the label. Then the flat list holds the counters and,
behind them, the entries (`Legible.flatten_eq`), each of which is found under its name
(`Legible.get?_flatten_entryName`).

Metrics stay legible when they count and observe (`Legible.increment`, `Legible.observe`).
-/

namespace DicePool

/-! ## Labels -/

namespace Histogram

/-- The labels of buckets with whole bounds. -/
def IsLabel (label : String) : Prop :=
  ∃ n : Int, label = "le_" ++ toString n ∨ label = "gt_" ++ toString n

variable {label : String}

theorem IsLabel.dot_notMem (h : IsLabel label) : '.' ∉ label.toList := by
  have hnumeral : ∀ n : Int, '.' ∉ (toString n).toList := fun n hc =>
    absurd (Numeral.isNumeralChar_of_mem_toString hc) (by decide)
  obtain ⟨n, rfl | rfl⟩ := h <;>
    · rw [String.toList_append, List.mem_append, not_or]
      exact ⟨by decide, hnumeral n⟩

theorem IsLabel.notMem (h : IsLabel label) : label ∉ ["sum", "count"] := by
  have hfirst : label.toList.head? = some 'l' ∨ label.toList.head? = some 'g' := by
    obtain ⟨n, rfl | rfl⟩ := h
    · exact .inl (by rw [String.toList_append]; rfl)
    · exact .inr (by rw [String.toList_append]; rfl)
  intro hmem
  simp only [List.mem_cons, List.not_mem_nil, or_false] at hmem
  rcases hmem with rfl | rfl <;> revert hfirst <;> decide

/-- The label of a whole bound that can be written. -/
theorem label_int {word : String} {b : Int} (h : ∃ shown, Numeral.write b = .ok shown) :
    Histogram.label word (.int b) = .ok (word ++ toString b) := by
  obtain ⟨shown, hshown⟩ := h
  rw [Histogram.label, Json.shown_int, hshown, Numeral.toString_of_write hshown]

/-- **A whole number falls into a bucket with a label**, if there is any bound and all bounds can be
written. -/
theorem exists_bucketOf_int (n : Int) {bounds : List Int} (hne : bounds ≠ [])
    (hwrite : ∀ b ∈ bounds, ∃ shown, Numeral.write b = .ok shown) :
    ∃ label, bucketOf (.int n) (bounds.map .int) = .ok label ∧ IsLabel label := by
  induction bounds with
  | nil => exact absurd rfl hne
  | cons b bounds ih =>
    rw [List.map_cons, bucketOf, Json.compare?_int]
    cases hle : Json.Comparison.atMost.holds (n ≤ b) (b ≤ n) with
    | true =>
      dsimp only
      exact ⟨_, label_int (hwrite b List.mem_cons_self), b, .inl rfl⟩
    | false =>
      cases bounds with
      | nil =>
        simp only [List.map_nil, List.isEmpty_nil, if_true, label_int (hwrite b List.mem_cons_self)]
        exact ⟨_, rfl, b, .inr rfl⟩
      | cons b' bounds => exact ih (by simp) fun c hc => hwrite c (List.mem_cons_of_mem _ hc)

/-! ## Entries -/

/-- What a histogram tells, by label. -/
def entries (h : Histogram) : Named Int :=
  h.buckets ++ [("sum", h.sum), ("count", h.count)]

/-- The name of an entry in the flat list. -/
def entryName (name label : String) : String :=
  s!"histo.{name}.{label}"

theorem flatten_eq_map (h : Histogram) (name : String) :
    h.flatten name = h.entries.map fun p => (entryName name p.1, p.2) := by
  have hname : ∀ label, "histo." ++ name ++ ("." ++ label) = entryName name label := fun label =>
    (String.append_assoc ..).symm
  rw [flatten, entries, List.map_append, List.map_cons, List.map_cons, ← hname "sum",
    ← hname "count"]
  rfl

theorem names_flatten (h : Histogram) (name : String) :
    (h.flatten name).names = h.entries.names.map (entryName name) := by
  simp [flatten_eq_map, Named.names, Function.comp_def]

theorem toList_entryName (name label : String) :
    (entryName name label).toList
      = "histo.".toList ++ (name.toList ++ '.' :: label.toList) := by
  simp [entryName, toString]

/-- **The last dot of a name stands before the label.** -/
theorem entryName_inj {name name' label label' : String} (h : '.' ∉ label.toList)
    (h' : '.' ∉ label'.toList) (heq : entryName name label = entryName name' label') :
    name = name' ∧ label = label' := by
  have hrun : ∀ {s : String}, '.' ∉ s.toList → ∀ c ∈ s.toList.reverse, (c != '.') = true := by
    intro s hs c hc
    exact bne_iff_ne.2 fun hdot => hs (hdot ▸ List.mem_reverse.1 hc)
  have htext := congrArg String.toList heq
  rw [toList_entryName, toList_entryName] at htext
  have hreversed := congrArg List.reverse (List.append_cancel_left htext)
  simp only [List.reverse_append, List.reverse_cons, List.append_assoc, List.singleton_append]
    at hreversed
  obtain ⟨hlabel, hname⟩ := append_inj_of_runs (hrun h) (hrun h') (by simp) (by simp) hreversed
  exact ⟨String.toList_inj.1 (List.reverse_inj.1 (List.cons.inj hname).2),
    String.toList_inj.1 (List.reverse_inj.1 hlabel)⟩

/-- Every bucket has a label of its own that a bound makes. -/
structure Labelled (h : Histogram) : Prop where
  nodup : h.buckets.names.Nodup
  isLabel : ∀ label ∈ h.buckets.names, IsLabel label

variable {h : Histogram}

theorem Labelled.empty : Labelled {} where
  nodup := List.nodup_nil
  isLabel := by simp

theorem names_entries (h : Histogram) : h.entries.names = h.buckets.names ++ ["sum", "count"] :=
  Named.names_append _ _

theorem Labelled.dot_notMem (hh : h.Labelled) : ∀ label ∈ h.entries.names, '.' ∉ label.toList := by
  rw [names_entries, List.forall_mem_append]
  refine ⟨fun label hmem => (hh.isLabel label hmem).dot_notMem, ?_⟩
  decide

theorem Labelled.nodup_entries (hh : h.Labelled) : h.entries.names.Nodup := by
  rw [names_entries, List.nodup_append]
  refine ⟨hh.nodup, by decide, fun a ha b hb hab => ?_⟩
  exact (hh.isLabel a ha).notMem (hab ▸ hb)

theorem Labelled.hit (hh : h.Labelled) {label : String} (hlabel : IsLabel label) :
    (h.hit label).Labelled where
  nodup := Named.nodup_names_put hh.nodup
  isLabel := Named.forall_mem_names_put hh.isLabel hlabel

theorem Labelled.total (hh : h.Labelled) (n : Int) : (h.total n).Labelled where
  nodup := hh.nodup
  isLabel := hh.isLabel

end Histogram

/-! ## The flat list -/

namespace Metrics

open Histogram

variable {m : Metrics} {name label : String}

/-- What the names of entries of histograms begin with. -/
def IsEntryName (name : String) : Prop :=
  "histo.".toList <+: name.toList

instance (name : String) : Decidable (IsEntryName name) :=
  inferInstanceAs (Decidable (_ <+: _))

theorem isEntryName_entryName (name label : String) : IsEntryName (entryName name label) := by
  rw [IsEntryName, toList_entryName]
  exact List.prefix_append _ _

/-- No counter passes for an entry of a histogram, and every histogram has its labels. -/
structure Legible (m : Metrics) : Prop where
  nodup_counters : m.counters.names.Nodup
  counters : ∀ name ∈ m.counters.names, ¬IsEntryName name
  nodup_histograms : m.histograms.names.Nodup
  histograms : ∀ p ∈ m.histograms, p.2.Labelled

theorem Legible.empty : Legible {} where
  nodup_counters := List.nodup_nil
  counters := by simp
  nodup_histograms := List.nodup_nil
  histograms := by simp

/-- All entries of all histograms. -/
def entries (m : Metrics) : Named Int :=
  m.histograms.flatMap fun p => p.2.flatten p.1

theorem names_entries (m : Metrics) :
    m.entries.names = m.histograms.flatMap fun p => p.2.entries.names.map (entryName p.1) := by
  rw [entries, Named.names, List.map_flatMap]
  exact congrArg m.histograms.flatMap (funext fun p => names_flatten p.2 p.1)

theorem isEntryName_of_mem (h : name ∈ m.entries.names) : IsEntryName name := by
  rw [names_entries] at h
  obtain ⟨p, -, hp⟩ := List.mem_flatMap.1 h
  obtain ⟨a, -, rfl⟩ := List.mem_map.1 hp
  exact isEntryName_entryName p.1 a

theorem Legible.nodup (h : m.Legible) : (m.counters.names ++ m.entries.names).Nodup := by
  rw [List.nodup_append]
  refine ⟨h.nodup_counters, ?_, fun counter hcounter key hkey heq =>
    h.counters counter hcounter (heq ▸ isEntryName_of_mem hkey)⟩
  rw [names_entries, List.nodup_flatMap]
  constructor
  · intro p hp
    have hp' := h.histograms p hp
    refine hp'.nodup_entries.map_on fun a ha b hb hab => ?_
    exact (entryName_inj (hp'.dot_notMem a ha) (hp'.dot_notMem b hb) hab).2
  · refine (List.pairwise_map.1 h.nodup_histograms).imp_of_mem fun {p q} hp hq hpq => ?_
    intro key hkey hkey'
    obtain ⟨a, ha, rfl⟩ := List.mem_map.1 hkey
    obtain ⟨b, hb, hab⟩ := List.mem_map.1 hkey'
    exact hpq (entryName_inj ((h.histograms p hp).dot_notMem a ha)
      ((h.histograms q hq).dot_notMem b hb) hab.symm).1

/-- **Legible metrics are told by their counters and, behind them, their entries.** -/
theorem Legible.flatten_eq (h : m.Legible) : m.flatten = m.counters ++ m.entries := by
  refine Named.foldl_put_eq_append ?_
  rw [Named.names_append]
  exact h.nodup

/-- **A counter is found under its name.** -/
theorem Legible.getD_flatten_of_not_entryName (h : m.Legible) (hname : ¬IsEntryName name) :
    m.flatten.getD name 0 = m.get name := by
  have hentries : m.entries.get? name = none :=
    Named.get?_eq_none_iff.2 fun hmem => hname (isEntryName_of_mem hmem)
  rw [h.flatten_eq, get, Named.getD, Named.getD, Named.get?_append, hentries, Option.or_none]

/-- **An entry of a histogram is found under its name**, and nothing else is. -/
theorem Legible.get?_flatten_entryName (h : m.Legible) (hlabel : '.' ∉ label.toList) :
    m.flatten.get? (entryName name label)
      = (m.histograms.get? name).bind fun hist => hist.entries.get? label := by
  have hnodup : m.flatten.names.Nodup := by
    rw [h.flatten_eq, Named.names_append]
    exact h.nodup
  refine Option.ext fun n => ?_
  rw [Named.get?_eq_some_iff_mem hnodup, h.flatten_eq, List.mem_append, Option.bind_eq_some_iff]
  constructor
  · rintro (hcounter | hentry)
    · exact absurd (isEntryName_entryName name label) (h.counters _ (Named.mem_names hcounter))
    · obtain ⟨p, hp, hentry⟩ := List.mem_flatMap.1 hentry
      rw [flatten_eq_map] at hentry
      obtain ⟨a, ha, heq⟩ := List.mem_map.1 hentry
      obtain ⟨hkey, rfl⟩ := Prod.mk.inj heq
      obtain ⟨rfl, rfl⟩ := entryName_inj
        ((h.histograms p hp).dot_notMem a.1 (Named.mem_names ha)) hlabel hkey
      exact ⟨p.2, (Named.get?_eq_some_iff_mem h.nodup_histograms).2 hp,
        (Named.get?_eq_some_iff_mem (h.histograms p hp).nodup_entries).2 ha⟩
  · rintro ⟨hist, hhist, hn⟩
    have hmem := (Named.get?_eq_some_iff_mem h.nodup_histograms).1 hhist
    have hn' := (Named.get?_eq_some_iff_mem (h.histograms _ hmem).nodup_entries).1 hn
    refine .inr (List.mem_flatMap.2 ⟨_, hmem, ?_⟩)
    rw [flatten_eq_map]
    exact List.mem_map.2 ⟨_, hn', rfl⟩

/-- How many observations a histogram holds. -/
def observed (m : Metrics) (name : String) : Int :=
  (m.histograms.getD name {}).count

theorem Legible.getD_flatten_count (h : m.Legible) (name : String) :
    m.flatten.getD (entryName name "count") 0 = m.observed name := by
  rw [Named.getD, h.get?_flatten_entryName (by decide), observed, Named.getD]
  cases hhist : m.histograms.get? name with
  | none => rfl
  | some hist =>
    have hmem := (Named.get?_eq_some_iff_mem h.nodup_histograms).1 hhist
    have hcount : hist.entries.get? "count" = some hist.count :=
      (Named.get?_eq_some_iff_mem (h.histograms _ hmem).nodup_entries).2 (by simp [Histogram.entries])
    rw [Option.bind_some, hcount]
    rfl

/-! ## Counting and observing -/

/-- **Counting once is seen under the name, and nowhere else.** -/
@[simp] theorem get_increment (m : Metrics) (name other : String) :
    (m.increment name).get other = if other = name then m.get other + 1 else m.get other := by
  simp only [get, increment, add, Named.getD, Named.get?_put]
  split
  next h => rw [h, Option.getD_some]
  next => rfl

@[simp] theorem observed_increment (m : Metrics) (name other : String) :
    (m.increment name).observed other = m.observed other := rfl

theorem histograms_increment (m : Metrics) (name : String) :
    (m.increment name).histograms = m.histograms := rfl

theorem Legible.add (h : m.Legible) (hname : ¬IsEntryName name) (n : Int) :
    (m.add name n).Legible where
  nodup_counters := Named.nodup_names_put h.nodup_counters
  counters := Named.forall_mem_names_put h.counters hname
  nodup_histograms := h.nodup_histograms
  histograms := h.histograms

theorem Legible.increment (h : m.Legible) (hname : ¬IsEntryName name) :
    (m.increment name).Legible :=
  h.add hname 1

/-- Counts once if a condition holds. -/
def incrementIf (m : Metrics) (condition : Bool) (name : String) : Metrics :=
  if condition then m.increment name else m

@[simp] theorem get_incrementIf (m : Metrics) (condition : Bool) (name other : String) :
    (m.incrementIf condition name).get other
      = if condition ∧ other = name then m.get other + 1 else m.get other := by
  cases condition <;> simp [incrementIf]

@[simp] theorem observed_incrementIf (m : Metrics) (condition : Bool) (name other : String) :
    (m.incrementIf condition name).observed other = m.observed other := by
  cases condition <;> rfl

theorem histograms_incrementIf (m : Metrics) (condition : Bool) (name : String) :
    (m.incrementIf condition name).histograms = m.histograms := by
  cases condition <;> rfl

theorem Legible.incrementIf (h : m.Legible) (condition : Bool) (hname : ¬IsEntryName name) :
    (m.incrementIf condition name).Legible := by
  cases condition
  · exact h
  · exact h.increment hname

theorem Legible.getD_histograms (h : m.Legible) (name : String) :
    (m.histograms.getD name {}).Labelled := by
  rw [Named.getD]
  cases hhist : m.histograms.get? name with
  | none => exact Labelled.empty
  | some hist => exact h.histograms _ ((Named.get?_eq_some_iff_mem h.nodup_histograms).1 hhist)

/-- **A whole number is observed in one bucket**, if there is any bound and all bounds can be
written. -/
theorem exists_observeValue_int (m : Metrics) (name : String) (n : Int) {bounds : List Int}
    (hne : bounds ≠ []) (hwrite : ∀ b ∈ bounds, ∃ shown, Numeral.write b = .ok shown) :
    ∃ label, IsLabel label ∧ m.observeValue name (.int n) (bounds.map .int)
      = (.ok (), { m with
        histograms := m.histograms.put name (((m.histograms.getD name {}).hit label).total n) }) := by
  obtain ⟨label, hbucket, hlabel⟩ := exists_bucketOf_int n hne hwrite
  refine ⟨label, hlabel, ?_⟩
  rw [observeValue, Histogram.observe, hbucket]
  rfl

theorem exists_observe (m : Metrics) (name : String) (n : Int) :
    ∃ label, IsLabel label ∧ m.observe name n = { m with
      histograms := m.histograms.put name (((m.histograms.getD name {}).hit label).total n) } := by
  have hwrite : ∀ b ∈ defaultBounds, ∃ shown, Numeral.write b = .ok shown := by
    intro b hb
    have hsmall : ∀ b ∈ defaultBounds, b.natAbs < Nat.pow 10 4 := by decide
    exact ⟨_, Numeral.write_of_lt (Numeral.lt_pow_maxDigits (hsmall b hb) (by decide))⟩
  obtain ⟨label, hlabel, hobserve⟩ :=
    m.exists_observeValue_int name n (show defaultBounds ≠ [] by decide) hwrite
  exact ⟨label, hlabel, congrArg Prod.snd hobserve⟩

/-- Metrics stay legible when a histogram is put that has its labels. -/
theorem Legible.put (h : m.Legible) {hist : Histogram} (hhist : hist.Labelled) :
    ({ m with histograms := m.histograms.put name hist } : Metrics).Legible where
  nodup_counters := h.nodup_counters
  counters := h.counters
  nodup_histograms := Named.nodup_names_put h.nodup_histograms
  histograms p hp := by
    rcases Named.mem_of_mem_put hp with hp | rfl
    · exact h.histograms p hp
    · exact hhist

theorem Legible.observe (h : m.Legible) (name : String) (n : Int) : (m.observe name n).Legible := by
  obtain ⟨label, hlabel, hobserve⟩ := m.exists_observe name n
  rw [hobserve]
  exact h.put (((h.getD_histograms name).hit hlabel).total n)

/-- **An observation is seen in its histogram, and nowhere else.** -/
@[simp] theorem observed_observe (m : Metrics) (name other : String) (n : Int) :
    (m.observe name n).observed other
      = if other = name then m.observed other + 1 else m.observed other := by
  obtain ⟨label, -, hobserve⟩ := m.exists_observe name n
  rw [hobserve, observed, observed, Named.getD, Named.getD, Named.get?_put]
  split
  next h =>
    rw [h]
    rfl
  next => rfl

@[simp] theorem get_observe (m : Metrics) (name other : String) (n : Int) :
    (m.observe name n).get other = m.get other := rfl

end Metrics

end DicePool
