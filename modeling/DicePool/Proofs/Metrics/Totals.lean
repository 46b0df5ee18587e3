import DicePool.Proofs.Metrics.Operations
import Mathlib.Algebra.BigOperators.Group.Finset.Piecewise
import Mathlib.Algebra.Order.Group.Int
import Mathlib.Data.List.DropRight
import Mathlib.Data.Multiset.Filter

/-!
# Proofs/Metrics/Totals — what the flat list says of the operations since the last reset

What stands in the flat list stands for something (`Key`): a counter, a bucket of a histogram, or the
sum or the count of one. Each operation gives an amount to some keys (`Key.amount?`), whatever was done
before it, and what stands under a key is the total of what was given to it (`Key.told`). So the flat
list is a function of the multiset of operations since the last reset: main statement
`flatten_tells_totals`.

One operation moves what stands under a key by just the amount that it gives to it (`get?_carryOut`),
as long as it is `Regular`: then every number falls into one bucket (`exists_takes`), and no counter
passes for an entry of a histogram.
-/

namespace DicePool

/-! ## Buckets -/

namespace Histogram

/-- A bucket with a whole bound. -/
inductive Bucket where
  /-- Of numbers up to the bound. -/
  | atMost (bound : Int)
  /-- Of numbers above the bound. -/
  | above (bound : Int)
deriving DecidableEq

namespace Bucket

/-- The label of a bucket. -/
def label : Bucket → String
  | .atMost b => "le_" ++ toString b
  | .above b => "gt_" ++ toString b

/-- Among bounds, a bucket takes a number if its bound is the least one that the number does not exceed,
or if the number is above its bound, which is the last. -/
def Takes (n : Int) (bounds : List Int) : Bucket → Prop
  | .atMost b => b ∈ bounds ∧ n ≤ b ∧ ∀ c ∈ bounds, n ≤ c → b ≤ c
  | .above b => bounds.getLast? = some b ∧ b < n

instance (n : Int) (bounds : List Int) : (b : Bucket) → Decidable (b.Takes n bounds)
  | .atMost b => inferInstanceAs (Decidable (b ∈ bounds ∧ n ≤ b ∧ ∀ c ∈ bounds, n ≤ c → b ≤ c))
  | .above b => inferInstanceAs (Decidable (bounds.getLast? = some b ∧ b < n))

variable {b b' : Bucket}

theorem isLabel_label (b : Bucket) : IsLabel b.label := by
  cases b with
  | atMost n => exact ⟨n, .inl rfl⟩
  | above n => exact ⟨n, .inr rfl⟩

theorem exists_label {label : String} (h : IsLabel label) : ∃ b : Bucket, b.label = label := by
  obtain ⟨n, rfl | rfl⟩ := h
  exacts [⟨.atMost n, rfl⟩, ⟨.above n, rfl⟩]

/-- **Different buckets have different labels.** -/
theorem label_injective (h : b.label = b'.label) : b = b' := by
  have htext := congrArg String.toList h
  cases b with
  | atMost n =>
    cases b' with
    | atMost m =>
      simp only [label, String.toList_append, List.append_cancel_left_eq] at htext
      rw [Numeral.toString_injective htext]
    | above m => simp [label] at htext
  | above n =>
    cases b' with
    | atMost m => simp [label] at htext
    | above m =>
      simp only [label, String.toList_append, List.append_cancel_left_eq] at htext
      rw [Numeral.toString_injective htext]

variable {n c : Int} {bounds : List Int}

/-- A number up to the first of ascending bounds falls into its bucket. -/
theorem takes_cons_iff_of_le (hle : n ≤ c) (hleast : ∀ d ∈ bounds, c < d) :
    b.Takes n (c :: bounds) ↔ b = .atMost c := by
  constructor
  · intro htakes
    cases b with
    | atMost d =>
      obtain ⟨hmem, -, hall⟩ := htakes
      have hdc : d ≤ c := hall c List.mem_cons_self hle
      rcases List.mem_cons.1 hmem with rfl | hmem
      · rfl
      · exact absurd (hleast d hmem) (Int.not_lt.2 hdc)
    | above d =>
      obtain ⟨hlast, hd⟩ := htakes
      rcases List.mem_cons.1 (List.mem_of_getLast? hlast) with rfl | hmem
      · exact absurd hle (Int.not_le.2 hd)
      · exact absurd (Int.lt_of_le_of_lt hle (hleast d hmem)) (Int.not_lt.2 hd.le)
  · rintro rfl
    refine ⟨List.mem_cons_self, hle, fun d hmem _ => ?_⟩
    rcases List.mem_cons.1 hmem with rfl | hmem
    exacts [Int.le_refl _, (hleast d hmem).le]

/-- A number above the only bound falls into the bucket above it. -/
theorem takes_singleton_iff_of_lt (hlt : c < n) : b.Takes n [c] ↔ b = .above c := by
  cases b with
  | atMost d => simp only [Takes, List.mem_singleton]; grind
  | above d => simp only [Takes, List.getLast?_singleton]; grind

/-- For a number above the first bound, only the others count. -/
theorem takes_cons_cons_iff_of_lt {c' : Int} (hlt : c < n) :
    b.Takes n (c :: c' :: bounds) ↔ b.Takes n (c' :: bounds) := by
  cases b with
  | atMost d =>
    have hne : ∀ {d : Int}, n ≤ d → d ≠ c := fun hd => (Int.lt_of_lt_of_le hlt hd).ne'
    constructor
    · rintro ⟨hmem, hd, hall⟩
      exact ⟨(List.mem_cons.1 hmem).resolve_left (hne hd), hd,
        fun e he => hall e (List.mem_cons_of_mem _ he)⟩
    · rintro ⟨hmem, hd, hall⟩
      exact ⟨List.mem_cons_of_mem _ hmem, hd,
        fun e he hne' => hall e ((List.mem_cons.1 he).resolve_left (hne hne')) hne'⟩
  | above d => simp only [Takes, List.getLast?_cons_cons]

end Bucket

/-- **A number falls into one bucket**, if there is any bound and the bounds ascend. -/
theorem exists_takes (n : Int) {bounds : List Int} (hne : bounds ≠ [])
    (hascend : bounds.Pairwise (· < ·))
    (hwrite : ∀ c ∈ bounds, ∃ shown, Numeral.write c = .ok shown) :
    ∃ b : Bucket, bucketOf (.int n) (bounds.map .int) = .ok b.label
      ∧ ∀ b' : Bucket, b'.Takes n bounds ↔ b' = b := by
  induction bounds with
  | nil => exact absurd rfl hne
  | cons c bounds ih =>
    obtain ⟨hleast, hascend⟩ := List.pairwise_cons.1 hascend
    have hwritten := hwrite c List.mem_cons_self
    rw [List.map_cons, bucketOf, Json.compare?_int]
    by_cases hle : n ≤ c
    · simp only [Json.Comparison.holds, hle, decide_true, label_int hwritten]
      exact ⟨.atMost c, rfl, fun b => Bucket.takes_cons_iff_of_le hle hleast⟩
    · have hlt : c < n := Int.not_le.1 hle
      simp only [Json.Comparison.holds, hle, decide_false]
      cases bounds with
      | nil =>
        simp only [List.map_nil, List.isEmpty_nil, if_true, label_int hwritten]
        exact ⟨.above c, rfl, fun b => Bucket.takes_singleton_iff_of_lt hlt⟩
      | cons c' bounds =>
        obtain ⟨b, hbucket, hunique⟩ := ih (by simp) hascend
          fun d hd => hwrite d (List.mem_cons_of_mem _ hd)
        exact ⟨b, hbucket, fun b' => (Bucket.takes_cons_cons_iff_of_lt hlt).trans (hunique b')⟩

/-- A bucket is found among the entries under its label. -/
theorem get?_entries_label (h : Histogram) (b : Bucket) :
    h.entries.get? b.label = h.buckets.get? b.label := by
  have hother : Named.get? [("sum", h.sum), ("count", h.count)] b.label = none :=
    Named.get?_eq_none_iff.2 b.isLabel_label.notMem
  rw [entries, Named.get?_append, hother, Option.or_none]

/-- No bucket passes for the sum or the count. -/
theorem Labelled.get?_entries {h : Histogram} (hh : h.Labelled) :
    h.entries.get? "sum" = some h.sum ∧ h.entries.get? "count" = some h.count := by
  have hnone : ∀ label ∈ ["sum", "count"], h.buckets.get? label = none := fun label hmem =>
    Named.get?_eq_none_iff.2 fun hbucket => (hh.isLabel label hbucket).notMem hmem
  rw [entries, Named.get?_append, Named.get?_append, hnone "sum" (by simp),
    hnone "count" (by simp)]
  exact ⟨rfl, rfl⟩

end Histogram

namespace Metrics

open Histogram

/-! ## Totals -/

/-- What an entry of the flat list stands for. -/
inductive Key where
  /-- A counter. -/
  | counter (name : String)
  /-- A bucket of a histogram. -/
  | bucket (name : String) (b : Bucket)
  /-- The sum of what was observed. -/
  | sum (name : String)
  /-- How many were observed. -/
  | count (name : String)

namespace Key

/-- The name of the quantity. -/
def name : Key → String
  | .counter name | .bucket name _ | .sum name | .count name => name

/-- The label in a histogram. -/
def label? : Key → Option String
  | .counter _ => none
  | .bucket _ b => some b.label
  | .sum _ => some "sum"
  | .count _ => some "count"

/-- The name of the entry. -/
def text (k : Key) : String :=
  match k.label? with
  | none => k.name
  | some label => entryName k.name label

/-- What an operation gives to a key: what is added to a counter, what is observed to a sum, and one to
the count and to the bucket that takes it. -/
def amount? : Key → Operation Int → Option Int
  | .counter name, .add name' n => if name' = name then some n else none
  | .bucket name b, .observe name' n bounds =>
    if name' = name ∧ b.Takes n bounds then some 1 else none
  | .sum name, .observe name' n _ => if name' = name then some n else none
  | .count name, .observe name' _ _ => if name' = name then some 1 else none
  | _, _ => none

/-- The total of what operations give to a key, if any gives something to it. -/
def told (ops : Multiset (Operation Int)) (k : Key) : Option Int :=
  let amounts := ops.filterMap k.amount?
  if amounts = 0 then none else some amounts.sum

/-- A key does not pass for another one: if it is a counter, its name is none of an entry. -/
def Apart (k : Key) : Prop :=
  ∀ name, k = .counter name → ¬IsEntryName name

variable {k k' : Key} {op : Operation Int} {ops : Multiset (Operation Int)}

theorem dot_notMem_of_label? {label : String} (h : k.label? = some label) : '.' ∉ label.toList := by
  cases k with
  | counter name => cases h
  | bucket name b => exact Option.some.inj h ▸ b.isLabel_label.dot_notMem
  | sum name => exact Option.some.inj h ▸ by decide
  | count name => exact Option.some.inj h ▸ by decide

/-- A key is told by its name and its label. -/
theorem ext (hname : k.name = k'.name) (hlabel : k.label? = k'.label?) : k = k' := by
  have hsum : ∀ b : Bucket, b.label ≠ "sum" := fun b heq => b.isLabel_label.notMem (by simp [heq])
  have hcount : ∀ b : Bucket, b.label ≠ "count" := fun b heq => b.isLabel_label.notMem (by simp [heq])
  cases k <;> cases k' <;> grind [name, label?, Bucket.label_injective]

theorem text_of_label? {label : String} (h : k.label? = some label) :
    k.text = entryName k.name label := by
  rw [text, h]

theorem text_of_none (h : k.label? = none) : k.text = k.name := by
  rw [text, h]

/-- A key that is no counter does not have the text of one. -/
theorem Apart.text_ne (hk : k.Apart) (hnone : k.label? = none) {label : String}
    (hlabel : k'.label? = some label) : k.text ≠ k'.text := by
  intro htext
  have hcounter : k = .counter k.name := by
    cases k with
    | counter name => rfl
    | bucket | sum | count => cases hnone
  rw [text_of_none hnone, text_of_label? hlabel] at htext
  exact hk _ hcounter (htext ▸ isEntryName_entryName _ _)

/-- **Different keys have different texts**, if they do not pass for others. -/
theorem text_inj (hk : k.Apart) (hk' : k'.Apart) (h : k.text = k'.text) : k = k' := by
  cases hlabel : k.label? with
  | none =>
    cases hlabel' : k'.label? with
    | none =>
      rw [text_of_none hlabel, text_of_none hlabel'] at h
      exact ext h (hlabel.trans hlabel'.symm)
    | some label' => exact absurd h (hk.text_ne hlabel hlabel')
  | some label =>
    cases hlabel' : k'.label? with
    | none => exact absurd h.symm (hk'.text_ne hlabel' hlabel)
    | some label' =>
      rw [text_of_label? hlabel, text_of_label? hlabel'] at h
      obtain ⟨hname, rfl⟩ :=
        entryName_inj (dot_notMem_of_label? hlabel) (dot_notMem_of_label? hlabel') h
      exact ext hname (hlabel.trans hlabel'.symm)

theorem told_zero (k : Key) : k.told 0 = none := rfl

theorem told_cons_of_none (h : k.amount? op = none) : k.told (op ::ₘ ops) = k.told ops := by
  rw [told, Multiset.filterMap_cons_none _ _ h, told]

/-- **One operation more is its amount more.** -/
theorem told_cons_of_some {n : Int} (h : k.amount? op = some n) :
    k.told (op ::ₘ ops) = some ((k.told ops).getD 0 + n) := by
  rw [told, Multiset.filterMap_cons_some _ _ _ h, told]
  simp only [Multiset.cons_ne_zero, if_false, Multiset.sum_cons, Int.add_comm n]
  split
  next hzero => rw [hzero, Multiset.sum_zero, Option.getD_none]
  next => rw [Option.getD_some]

end Key

/-! ## What stands under a key -/

/-- What metrics hold for a key. -/
def value? (m : Metrics) : Key → Option Int
  | .counter name => m.counters.get? name
  | .bucket name b => (m.histograms.get? name).bind fun h => h.buckets.get? b.label
  | .sum name => (m.histograms.get? name).map (·.sum)
  | .count name => (m.histograms.get? name).map (·.count)

variable {m : Metrics}

/-- A histogram is found with its labels. -/
theorem Legible.labelled (h : m.Legible) {name : String} {hist : Histogram}
    (hhist : m.histograms.get? name = some hist) : hist.Labelled :=
  h.histograms _ (Named.mem_of_get? hhist)

/-- **What is held for a key stands under its text**, unless a counter passes for something else. -/
theorem Legible.get?_flatten_text (h : m.Legible) {k : Key} (hk : k.Apart) :
    m.flatten.get? k.text = m.value? k := by
  have hfound : ∀ {name label : String} {f : Histogram → Option Int}, '.' ∉ label.toList →
      (∀ hist : Histogram, hist.Labelled → hist.entries.get? label = f hist) →
      m.flatten.get? (entryName name label) = (m.histograms.get? name).bind f := by
    intro name label f hdot hf
    rw [h.get?_flatten_entryName hdot]
    cases hhist : m.histograms.get? name with
    | none => rfl
    | some hist => exact hf hist (h.labelled hhist)
  cases k with
  | counter name =>
    have hentries : m.entries.get? name = none :=
      Named.get?_eq_none_iff.2 fun hmem => hk name rfl (isEntryName_of_mem hmem)
    rw [h.flatten_eq, Named.get?_append]
    exact hentries ▸ Option.or_none
  | bucket name b => exact hfound b.isLabel_label.dot_notMem fun hist _ => hist.get?_entries_label b
  | sum name =>
    rw [value?, Option.map_eq_bind]
    exact hfound (by decide) fun hist hlabelled => hlabelled.get?_entries.1
  | count name =>
    rw [value?, Option.map_eq_bind]
    exact hfound (by decide) fun hist hlabelled => hlabelled.get?_entries.2

/-- What is held does not pass for anything else. -/
theorem Legible.apart (h : m.Legible) {k : Key} {n : Int} (hvalue : m.value? k = some n) :
    k.Apart := by
  rintro name rfl
  exact h.counters name (Named.mem_names (Named.mem_of_get? hvalue))

/-- **All that stands in the flat list stands for something.** -/
theorem Legible.get?_flatten_eq_some_iff (h : m.Legible) {text : String} {n : Int} :
    m.flatten.get? text = some n ↔ ∃ k : Key, k.text = text ∧ m.value? k = some n := by
  constructor
  · intro htext
    rw [h.flatten_eq, Named.get?_append, Option.or_eq_some_iff] at htext
    rcases htext with hcounter | ⟨-, hentry⟩
    · exact ⟨.counter text, rfl, hcounter⟩
    · obtain ⟨p, hp, hmem⟩ := List.mem_flatMap.1 (Named.mem_of_get? hentry)
      rw [flatten_eq_map] at hmem
      obtain ⟨a, ha, heq⟩ := List.mem_map.1 hmem
      obtain ⟨rfl, rfl⟩ := Prod.mk.inj heq
      have hhist := (Named.get?_eq_some_iff_mem h.nodup_histograms).2 hp
      have hlabelled := h.histograms p hp
      rw [Histogram.entries, List.mem_append] at ha
      rcases ha with hbucket | htotal
      · obtain ⟨b, hb⟩ := Bucket.exists_label (hlabelled.isLabel _ (Named.mem_names hbucket))
        refine ⟨.bucket p.1 b, congrArg (entryName p.1) hb, ?_⟩
        rw [value?, hhist, Option.bind_some, hb]
        exact (Named.get?_eq_some_iff_mem hlabelled.nodup).2 hbucket
      · rw [List.mem_cons, List.mem_singleton] at htotal
        rcases htotal with rfl | rfl
        · exact ⟨.sum p.1, rfl, by rw [value?, hhist]; rfl⟩
        · exact ⟨.count p.1, rfl, by rw [value?, hhist]; rfl⟩
  · rintro ⟨k, rfl, hvalue⟩
    rw [h.get?_flatten_text (h.apart hvalue), hvalue]

/-! ## One operation -/

namespace Operation

/-- An operation with other values. -/
def map {α β : Type} (f : α → β) : Operation α → Operation β
  | .add name value => .add name (f value)
  | .observe name value bounds => .observe name (f value) (bounds.map f)
  | .get name => .get name
  | .reset => .reset

/-- The operation forgets everything. -/
def isReset {α : Type} : Operation α → Bool
  | .reset => true
  | _ => false

/-- A counter does not pass for an entry of a histogram, and bounds ascend, one at least, none of them
too long to be written. -/
def Regular : Operation Int → Prop
  | .add name _ => ¬IsEntryName name
  | .observe _ _ bounds => bounds ≠ [] ∧ bounds.Pairwise (· < ·)
    ∧ ∀ b ∈ bounds, b.natAbs < Nat.pow 10 Numeral.maxDigits
  | .get _ => True
  | .reset => True

end Operation

/-- The metrics once an operation is carried out on numbers. -/
def after (m : Metrics) (op : Operation Int) : Metrics :=
  (m.carryOut (op.map .int)).2

variable {op : Operation Int}

/-- **A regular observation counts once in the bucket that takes it**, and adds to the sum and to the
count. -/
theorem exists_carryOut_observe (m : Metrics) {name : String} {n : Int} {bounds : List Int}
    (h : (Operation.observe name n bounds).Regular) :
    ∃ b : Bucket, (∀ b' : Bucket, b'.Takes n bounds ↔ b' = b)
      ∧ m.carryOut ((Operation.observe name n bounds).map .int) = (.ok (), { m with
        histograms := m.histograms.put name (((m.histograms.getD name {}).hit b.label).total n) }) := by
  obtain ⟨hne, hascend, hlong⟩ := h
  obtain ⟨b, hbucket, hunique⟩ := exists_takes n hne hascend
    fun c hc => ⟨_, Numeral.write_of_lt (hlong c hc)⟩
  refine ⟨b, hunique, ?_⟩
  change m.observeValue name (.int n) (bounds.map .int) = _
  rw [observeValue, Histogram.observe, hbucket]
  rfl

/-- **Regular operations succeed.** -/
theorem carryOut_of_regular (m : Metrics) (h : op.Regular) :
    (m.carryOut (op.map .int)).1 = .ok () := by
  cases op with
  | observe name n bounds =>
    obtain ⟨b, -, hrun⟩ := m.exists_carryOut_observe h
    rw [hrun]
  | add | get | reset => rfl

theorem Legible.after (hm : m.Legible) (h : op.Regular) : (m.after op).Legible := by
  cases op with
  | add name n => exact hm.add h n
  | observe name n bounds =>
    obtain ⟨b, -, hrun⟩ := m.exists_carryOut_observe h
    rw [Metrics.after, hrun]
    exact hm.put (((hm.getD_histograms name).hit b.isLabel_label).total n)
  | get name => exact hm
  | reset => exact .empty

/-- What is held for a histogram is what it holds itself, if anything was observed. -/
theorem getD_histograms (m : Metrics) (name : String) :
    (∀ label, (m.histograms.getD name {}).buckets.get? label
        = (m.histograms.get? name).bind fun h => h.buckets.get? label)
      ∧ (m.histograms.getD name {}).sum = ((m.value? (.sum name)).getD 0)
      ∧ (m.histograms.getD name {}).count = ((m.value? (.count name)).getD 0) := by
  rw [Named.getD, value?, value?]
  cases m.histograms.get? name with
  | none => exact ⟨fun _ => rfl, rfl, rfl⟩
  | some hist => exact ⟨fun _ => rfl, rfl, rfl⟩

/-- **An operation moves what is held for a key by what it gives to it.** -/
theorem value?_after (m : Metrics) (h : op.Regular) (hreset : ¬op.isReset) (k : Key) :
    (m.after op).value? k = match k.amount? op with
      | none => m.value? k
      | some n => some ((m.value? k).getD 0 + n) := by
  cases op with
  | add name n =>
    have hafter : m.after (.add name n) = m.add name n := rfl
    rw [hafter]
    cases k with
    | counter other =>
      simp only [value?, Key.amount?, add, Named.get?_put, eq_comm (a := name)]
      split
      next h => rw [h]; rfl
      next => rfl
    | bucket | sum | count => rfl
  | observe name n bounds =>
    obtain ⟨b, htakes, hrun⟩ := m.exists_carryOut_observe h
    rw [after, hrun]
    obtain ⟨hbuckets, hsum, hcount⟩ := m.getD_histograms name
    generalize m.histograms.getD name {} = hist at hbuckets hsum hcount
    by_cases hname : k.name = name
    · cases k with
      | counter other => rfl
      | bucket other b' =>
        obtain rfl : other = name := hname
        simp only [value?, Key.amount?, Named.get?_put, htakes, true_and, if_true, Option.bind_some]
        rw [← hbuckets]
        by_cases hb : b' = b
        · subst hb
          rw [if_pos rfl, total, hit, Named.get?_put, if_pos rfl]
          rfl
        · rw [if_neg hb, total, hit, Named.get?_put, if_neg (mt Bucket.label_injective hb)]
      | sum other =>
        obtain rfl : other = name := hname
        simp only [value?, Key.amount?, Named.get?_put, if_true, Option.map_some, total, hit]
        rw [hsum, value?]
      | count other =>
        obtain rfl : other = name := hname
        simp only [value?, Key.amount?, Named.get?_put, if_true, Option.map_some, total, hit]
        rw [hcount, value?]
    · have hother : name ≠ k.name := Ne.symm hname
      cases k <;> simp_all [value?, Key.amount?, Key.name, Named.get?_put]
  | get name => cases k <;> rfl
  | reset => exact absurd rfl hreset

/-- **So does an observation with the default bounds.** -/
theorem value?_observe (m : Metrics) (name : String) (n : Int) (k : Key) :
    (m.observe name n).value? k = match k.amount? (.observe name n defaultBounds) with
      | none => m.value? k
      | some amount => some ((m.value? k).getD 0 + amount) := by
  have hregular : (Operation.observe name n defaultBounds).Regular := by
    have hsmall : ∀ b ∈ defaultBounds, b.natAbs < Nat.pow 10 4 := by decide
    exact ⟨by decide, by decide, fun b hb => Numeral.lt_pow_maxDigits (hsmall b hb) (by decide)⟩
  exact m.value?_after hregular Bool.noConfusion k

/-! ## Whole runs -/

/-- The operations since the last reset. -/
def sinceReset (ops : List (Operation Int)) : List (Operation Int) :=
  ops.rtakeWhile (!·.isReset)

/-- The metrics once operations are carried out, from none on. -/
def afterAll (ops : List (Operation Int)) : Metrics :=
  ops.foldl after {}

/-- **What is held for a key is the total of what was given to it since the last reset.** -/
theorem value?_afterAll {ops : List (Operation Int)} (h : ∀ op ∈ ops, op.Regular) :
    (afterAll ops).Legible ∧ ∀ k : Key, (afterAll ops).value? k = k.told ↑(sinceReset ops) := by
  induction ops using List.reverseRecOn with
  | nil => exact ⟨.empty, fun k => by cases k <;> rfl⟩
  | append_singleton ops op ih =>
    obtain ⟨hops, hop⟩ := List.forall_mem_append.1 h
    obtain ⟨hlegible, hvalue⟩ := ih hops
    have hregular := List.forall_mem_singleton.1 hop
    have hafter : afterAll (ops ++ [op]) = (afterAll ops).after op := by
      rw [afterAll, List.foldl_append]
      rfl
    rw [hafter]
    refine ⟨hlegible.after hregular, fun k => ?_⟩
    by_cases hreset : op.isReset
    · have hempty : (afterAll ops).after op = {} := by
        cases op with
        | reset => rfl
        | add | observe | get => cases hreset
      rw [hempty, sinceReset, List.rtakeWhile_concat_neg _ _ _ (by simpa using hreset)]
      cases k <;> rfl
    · have hsince : (↑(sinceReset (ops ++ [op])) : Multiset (Operation Int))
          = op ::ₘ ↑(sinceReset ops) := by
        rw [sinceReset, List.rtakeWhile_concat_pos _ _ _ (by simpa using hreset)]
        exact Multiset.coe_eq_coe.2 (List.perm_append_singleton ..)
      rw [value?_after _ hregular hreset, hvalue, hsince]
      split
      next hnone => rw [Key.told_cons_of_none hnone]
      next n hsome => rw [Key.told_cons_of_some hsome]

/-! ## Buckets add up -/

/-- The buckets of a histogram that are told add up to its count. -/
def AddsUp (ops : Multiset (Operation Int)) (name : String) : Prop :=
  ∃ bs : Finset Bucket, (∀ b, b ∈ bs ↔ ((Key.bucket name b).told ops).isSome)
    ∧ ∑ b ∈ bs, ((Key.bucket name b).told ops).getD 0 = ((Key.count name).told ops).getD 0

/-- An observation of another quantity gives nothing to a histogram, and neither do the other
operations. -/
theorem amount?_eq_none_of_count {name : String} (h : (Key.count name).amount? op = none) (b : Bucket) :
    (Key.bucket name b).amount? op = none := by
  cases op with
  | observe other n bounds =>
    have hname : other ≠ name := by simpa [Key.amount?] using h
    simp [Key.amount?, hname]
  | add | get | reset => rfl

/-- **Every observation is in one bucket.** -/
theorem addsUp_of_regular {ops : Multiset (Operation Int)} (h : ∀ op ∈ ops, op.Regular)
    (name : String) : AddsUp ops name := by
  induction ops using Multiset.induction_on with
  | empty => exact ⟨∅, by simp [Key.told_zero], rfl⟩
  | cons op ops ih =>
    obtain ⟨hop, hops⟩ := Multiset.forall_mem_cons.1 h
    obtain ⟨bs, hmem, hsum⟩ := ih hops
    cases hcount : (Key.count name).amount? op with
    | none =>
      have hbucket : ∀ b, (Key.bucket name b).told (op ::ₘ ops) = (Key.bucket name b).told ops :=
        fun b => Key.told_cons_of_none (amount?_eq_none_of_count hcount b)
      refine ⟨bs, by simpa only [hbucket] using hmem, ?_⟩
      rw [Key.told_cons_of_none hcount, ← hsum]
      simp only [hbucket]
    | some one =>
      obtain ⟨n, bounds, rfl, rfl⟩ : ∃ n bounds, op = .observe name n bounds ∧ one = 1 := by
        cases op with
        | observe other n bounds =>
          obtain ⟨rfl, rfl⟩ : other = name ∧ one = 1 := by
            simpa [Key.amount?, eq_comm] using hcount
          exact ⟨n, bounds, rfl, rfl⟩
        | add | get | reset => cases hcount
      obtain ⟨b₀, htakes, -⟩ := ({} : Metrics).exists_carryOut_observe hop
      have hbucket : ∀ b, (Key.bucket name b).told (.observe name n bounds ::ₘ ops)
          = if b = b₀ then some (((Key.bucket name b).told ops).getD 0 + 1)
            else (Key.bucket name b).told ops := by
        intro b
        split
        next hb => exact Key.told_cons_of_some (by simp [Key.amount?, htakes, hb])
        next hb => exact Key.told_cons_of_none (by simp [Key.amount?, htakes, hb])
      refine ⟨insert b₀ bs, fun b => ?_, ?_⟩
      · rw [Finset.mem_insert, hbucket]
        by_cases hb : b = b₀ <;> simp [hb, hmem]
      · have hvalue : ∀ b, ((Key.bucket name b).told (.observe name n bounds ::ₘ ops)).getD 0
            = ((Key.bucket name b).told ops).getD 0 + if b = b₀ then 1 else 0 := by
          intro b
          rw [hbucket]
          split <;> simp
        have hnew : b₀ ∉ bs → ((Key.bucket name b₀).told ops).getD 0 = 0 := by
          rw [hmem, Option.not_isSome_iff_eq_none]
          intro hnone
          rw [hnone, Option.getD_none]
        rw [Key.told_cons_of_some hcount, Option.getD_some, ← hsum,
          Finset.sum_congr rfl fun b _ => hvalue b, Finset.sum_add_distrib,
          Finset.sum_insert_of_eq_zero_if_notMem hnew, Finset.sum_ite_eq',
          if_pos (Finset.mem_insert_self _ _)]

/-! ## The flat list -/

/-- **The flat list tells the totals of what was done since the last reset** — of any run of regular
operations, all of which succeed. What stands under a name is the total of some key with that text, and
no two keys that are told share a text; the buckets of each histogram add up to its count; and any other
run with the same operations since its last reset, in whatever order, has the same flat list. -/
theorem flatten_tells_totals {ops : List (Operation Int)} (h : ∀ op ∈ ops, op.Regular) :
    let told := (afterAll ops).flatten
    let since : Multiset (Operation Int) := ↑(sinceReset ops)
    (∀ op ∈ ops, ∀ m : Metrics, (m.carryOut (op.map .int)).1 = .ok ())
      ∧ told.names.Nodup
      ∧ (∀ text n, told.get? text = some n ↔ ∃ k : Key, k.text = text ∧ k.told since = some n)
      ∧ (∀ k k' : Key, (k.told since).isSome → (k'.told since).isSome → k.text = k'.text → k = k')
      ∧ (∀ name, ∃ bs : Finset Bucket, (∀ b, b ∈ bs ↔ (told.get? (Key.bucket name b).text).isSome)
        ∧ ∑ b ∈ bs, told.getD (Key.bucket name b).text 0 = told.getD (Key.count name).text 0)
      ∧ ∀ ops', (∀ op ∈ ops', op.Regular) → List.Perm (sinceReset ops') (sinceReset ops) →
        ∀ text, (afterAll ops').flatten.get? text = told.get? text := by
  intro told since
  obtain ⟨hlegible, hvalue⟩ := value?_afterAll h
  have hflat : ∀ {ops' : List (Operation Int)}, (∀ op ∈ ops', op.Regular) → ∀ text n,
      (afterAll ops').flatten.get? text = some n
        ↔ ∃ k : Key, k.text = text ∧ k.told ↑(sinceReset ops') = some n := by
    intro ops' h' text n
    obtain ⟨hlegible', hvalue'⟩ := value?_afterAll h'
    simp only [hlegible'.get?_flatten_eq_some_iff, hvalue']
  have hbucket : ∀ k : Key, (∀ name, k ≠ .counter name) → told.get? k.text = k.told since :=
    fun k hk => (hlegible.get?_flatten_text fun name heq => absurd heq (hk name)).trans (hvalue k)
  have hapart : ∀ k : Key, (k.told since).isSome → k.Apart := by
    intro k hk
    obtain ⟨n, hn⟩ := Option.isSome_iff_exists.1 hk
    exact hlegible.apart ((hvalue k).trans hn)
  refine ⟨fun op hop m => m.carryOut_of_regular (h op hop), ?_, hflat h,
    fun k k' hk hk' htext => Key.text_inj (hapart k hk) (hapart k' hk') htext, fun name => ?_,
    fun ops' h' hperm text => ?_⟩
  · change (afterAll ops).flatten.names.Nodup
    rw [hlegible.flatten_eq, Named.names_append]
    exact hlegible.nodup
  · have hregular : ∀ op ∈ since, op.Regular := fun op hop =>
      h op ((List.rtakeWhile_suffix _ _).subset (Multiset.mem_coe.1 hop))
    obtain ⟨bs, hmem, hsum⟩ := addsUp_of_regular hregular name
    have hshown : ∀ b, told.get? (Key.bucket name b).text = (Key.bucket name b).told since :=
      fun b => hbucket _ fun _ => Key.noConfusion
    have hcount := hbucket (.count name) fun _ => Key.noConfusion
    refine ⟨bs, fun b => by rw [hshown, hmem], ?_⟩
    simp only [Named.getD, hshown, hcount]
    exact hsum
  · refine Option.ext fun n => ?_
    rw [hflat h', hflat h, Multiset.coe_eq_coe.2 hperm]

/-- A histogram that is observed with different bounds, and a counter, in two orders; what was done
before the reset is forgotten. -/
theorem flatten_tells_totals_two_orders :
    let ops : List (Operation Int) := [.add "x" 5, .reset, .observe "h.sum" 3 [1, 5], .add "x" 1,
      .observe "h.sum" 7 [1, 5], .get "x", .observe "h.sum" 3 [5, 9], .add "x" (-4)]
    let ops' : List (Operation Int) := [.add "x" (-4), .observe "h.sum" 3 [5, 9], .get "x",
      .observe "h.sum" 7 [1, 5], .add "x" 1, .observe "h.sum" 3 [1, 5]]
    (∀ op ∈ ops, op.Regular) ∧ (∀ op ∈ ops', op.Regular)
      ∧ List.Perm (sinceReset ops') (sinceReset ops)
      ∧ (afterAll ops).flatten = [("x", -3), ("histo.h.sum.le_5", 2), ("histo.h.sum.gt_5", 1),
        ("histo.h.sum.sum", 13), ("histo.h.sum.count", 3)]
      ∧ (Key.bucket "h.sum" (.atMost 5)).told ↑(sinceReset ops) = some 2
      ∧ ∀ text, (afterAll ops').flatten.get? text = (afterAll ops).flatten.get? text := by
  intro ops ops'
  have hshort : ∀ {b : Int}, b.natAbs < Nat.pow 10 1 → b.natAbs < Nat.pow 10 Numeral.maxDigits :=
    fun h => Numeral.lt_pow_maxDigits h (by decide)
  have hobserve : ∀ {n : Int} {bounds : List Int}, bounds ≠ [] → bounds.Pairwise (· < ·) →
      (∀ b ∈ bounds, b.natAbs < Nat.pow 10 1) → (Operation.observe "h.sum" n bounds).Regular :=
    fun hne hascend hbounds => ⟨hne, hascend, fun b hb => hshort (hbounds b hb)⟩
  have hcounter : ∀ {n : Int}, (Operation.add "x" n).Regular := by
    intro n
    change ¬IsEntryName "x"
    decide
  have hops' : ∀ op ∈ ops', op.Regular := by
    simp only [ops', List.forall_mem_cons, List.not_mem_nil, false_imp_iff, implies_true, and_true]
    exact ⟨hcounter, hobserve (by decide) (by decide) (by decide), trivial,
      hobserve (by decide) (by decide) (by decide), hcounter,
      hobserve (by decide) (by decide) (by decide)⟩
  have hops : ∀ op ∈ ops, op.Regular := by
    simp only [ops, List.forall_mem_cons, List.not_mem_nil, false_imp_iff, implies_true, and_true]
    exact ⟨hcounter, trivial, hobserve (by decide) (by decide) (by decide), hcounter,
      hobserve (by decide) (by decide) (by decide), trivial,
      hobserve (by decide) (by decide) (by decide), hcounter⟩
  have hperm : List.Perm (sinceReset ops') (sinceReset ops) := by
    have hsince : sinceReset ops = (sinceReset ops').reverse := rfl
    rw [hsince]
    exact (List.reverse_perm _).symm
  have htotals := flatten_tells_totals hops
  have hflat : (afterAll ops).flatten = [("x", -3), ("histo.h.sum.le_5", 2), ("histo.h.sum.gt_5", 1),
      ("histo.h.sum.sum", 13), ("histo.h.sum.count", 3)] := by
    decide +kernel
  refine ⟨hops, hops', hperm, hflat, by decide +kernel, htotals.2.2.2.2.2 ops' hops' hperm⟩

end Metrics

end DicePool
