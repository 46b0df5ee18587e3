import DicePool.Proofs.Metrics.Flat

/-!
# Proofs/Metrics/Operations — what an operation leaves behind when it fails

An operation on metrics sets up what it is about before it looks at its value. So one that fails may
leave a counter, or the sum and the count of a histogram, that were not there and stand at zero; and a
value that falls into a bucket before it turns out to be no number may have been counted there. Main
statement `spares_of_failure`: no other entry of the flat list is touched.

The flat list may hold two entries of one name, of which the later one stands. What stands there is
found from the end (`get?_foldl_put`), and putting a value moves only what is made of it
(`get?_reverse_flatMap_put`), so no assumption on names is needed.
-/

namespace DicePool

namespace Named

variable {α β : Type}

/-- **Of the values that are put, the last one stands.** -/
theorem get?_foldl_put (l m : Named α) (name : String) :
    (m.foldl (fun out p => out.put p.1 p.2) l).get? name
      = (get? m.reverse name).or (l.get? name) := by
  induction m generalizing l with
  | nil => rfl
  | cons p m ih =>
    rw [List.foldl_cons, ih, List.reverse_cons, get?_append, Option.or_assoc, get?_put, get?_cons,
      get?_nil]
    split <;> rfl

/-- **Putting a value moves only what is made of it**: if a name is made as much of the new value as of
the old one, or nothing where there was none, it is made as much of all values. -/
theorem get?_reverse_flatMap_put {f : String × α → Named β} {l : Named α} {name key : String} {v : α}
    (h : get? (f (name, v)).reverse key
      = (l.get? name).bind fun old => get? (f (name, old)).reverse key) :
    get? ((l.put name v).flatMap f).reverse key = get? (l.flatMap f).reverse key := by
  induction l with
  | nil => simpa [put] using h
  | cons p l ih =>
    obtain ⟨k, old⟩ := p
    rw [get?_cons] at h
    by_cases hk : k = name
    · subst hk
      rw [if_pos rfl, Option.bind_some] at h
      rw [put, if_pos rfl, List.flatMap_cons, List.flatMap_cons, List.reverse_append,
        List.reverse_append, get?_append, get?_append, h]
    · rw [if_neg (Ne.symm hk)] at h
      rw [put, if_neg hk, List.flatMap_cons, List.flatMap_cons, List.reverse_append,
        List.reverse_append, get?_append, get?_append, ih h]

end Named

namespace Histogram

/-- **A bucket that is hit is the only entry that moves.** -/
theorem get?_flatten_hit (h : Histogram) {name label key : String} (hkey : key ≠ entryName name label) :
    Named.get? ((h.hit label).flatten name).reverse key = Named.get? (h.flatten name).reverse key := by
  have hmoved : Named.get? ((h.hit label).buckets.map fun p => (entryName name p.1, p.2)).reverse key
      = Named.get? (h.buckets.map fun p => (entryName name p.1, p.2)).reverse key := by
    rw [List.map_eq_flatMap, List.map_eq_flatMap]
    refine Named.get?_reverse_flatMap_put ?_
    cases h.buckets.get? label <;> simp [Named.get?_cons, hkey]
  rw [flatten_eq_map, flatten_eq_map, entries, entries, List.map_append, List.map_append,
    List.reverse_append, List.reverse_append, Named.get?_append, Named.get?_append, hmoved]
  rfl

/-- A histogram that was only set up tells that there is nothing yet. -/
theorem get?_flatten_empty (name key : String) :
    Named.get? (flatten {} name).reverse key
      = if key = entryName name "sum" ∨ key = entryName name "count" then some 0 else none := by
  rw [flatten_eq_map]
  simp only [entries, List.nil_append, List.map_cons, List.map_nil, List.reverse_cons,
    List.reverse_nil, List.cons_append, Named.get?_cons, Named.get?_nil]
  split <;> split <;> simp_all

/-- **A failed observation counts at most its bucket**, and that only if there is one. -/
theorem observe_of_error {h h' : Histogram} {value : Json} {bounds : List Json} {e : MeasureError}
    (hfailed : h.observe value bounds = (.error e, h')) :
    h' = h ∨ ∃ label, bucketOf value bounds = .ok label ∧ h' = h.hit label := by
  unfold observe at hfailed
  split at hfailed
  next => exact .inl (Prod.mk.inj hfailed).2.symm
  next label hlabel =>
    split at hfailed
    next => exact .inr ⟨label, hlabel, (Prod.mk.inj hfailed).2.symm⟩
    next => cases hfailed

end Histogram

namespace Metrics

open Histogram

/-! ## Operations -/

/-- What is done to metrics, with values from `α`. -/
inductive Operation (α : Type) where
  /-- Adds a value to a counter. -/
  | add (name : String) (value : α)
  /-- Observes a value, with bounds. -/
  | observe (name : String) (value : α) (bounds : List α)
  /-- Asks for a counter. -/
  | get (name : String)
  /-- Forgets everything. -/
  | reset

/-- Carries out an operation. -/
def carryOut (m : Metrics) : Operation Json → Except MeasureError Unit × Metrics
  | .add name value => m.addValue name value
  | .observe name value bounds => m.observeValue name value bounds
  | .get _ => (.ok (), m)
  | .reset => (.ok (), {})

/-! ## What stands in the flat list -/

variable {m m' : Metrics} {name : String}

/-- **What stands under a name is the last entry of it, or else the counter.** -/
theorem get?_flatten (m : Metrics) (key : String) :
    m.flatten.get? key = (Named.get? m.entries.reverse key).or (m.counters.get? key) :=
  Named.get?_foldl_put m.counters m.entries key

/-- A counter that nothing was added to shows, if it did not before. -/
theorem get?_flatten_add_zero (m : Metrics) (name key : String) :
    (m.add name 0).flatten.get? key
      = if key = name then some ((m.flatten.get? key).getD 0) else m.flatten.get? key := by
  have hentries : (m.add name 0).entries = m.entries := rfl
  have hcounters : (m.add name 0).counters = m.counters.put name (m.get name) := by
    rw [add, Int.add_zero]
  rw [get?_flatten, get?_flatten, hentries, hcounters, Named.get?_put]
  split
  next h =>
    subst h
    cases Named.get? m.entries.reverse key <;> rfl
  next => rfl

/-- **A histogram that is put in place of one with the same entries moves nothing**; where there was
none, its sum and its count show. -/
theorem get?_flatten_put {h : Histogram} {key : String}
    (hsame : Named.get? (h.flatten name).reverse key
      = Named.get? ((m.histograms.getD name {}).flatten name).reverse key) :
    ({ m with histograms := m.histograms.put name h } : Metrics).flatten.get? key
      = if m.histograms.get? name = none ∧ (key = entryName name "sum" ∨ key = entryName name "count")
        then some 0 else m.flatten.get? key := by
  rw [get?_flatten, get?_flatten]
  by_cases hnew : m.histograms.get? name = none
  · -- A new histogram comes last, so that nothing stands behind its entries.
    have hlast : m.histograms.put name h = m.histograms ++ [(name, h)] :=
      Named.put_of_notMem (Named.get?_eq_none_iff.1 hnew)
    rw [Named.getD, hnew, Option.getD_none, get?_flatten_empty] at hsame
    rw [entries, entries, hlast, List.flatMap_append, List.flatMap_singleton, List.reverse_append,
      Named.get?_append, hsame]
    by_cases hkey : key = entryName name "sum" ∨ key = entryName name "count"
    · rw [if_pos hkey, if_pos ⟨hnew, hkey⟩]
      rfl
    · rw [if_neg hkey, if_neg fun h => hkey h.2]
      rfl
  · obtain ⟨old, hold⟩ := Option.ne_none_iff_exists'.1 hnew
    rw [if_neg fun h => hnew h.1]
    rw [Named.getD, hold, Option.getD_some] at hsame
    have hentries : Named.get? ((m.histograms.put name h).flatMap fun p => p.2.flatten p.1).reverse key
        = Named.get? (m.histograms.flatMap fun p => p.2.flatten p.1).reverse key :=
      Named.get?_reverse_flatMap_put (by rw [hold, Option.bind_some, hsame])
    exact congrArg (·.or (m.counters.get? key)) hentries

/-! ## Failures -/

/-- What a failed operation may do. -/
inductive Spares (m m' : Metrics) : Operation Json → Prop where
  /-- A counter that was not there stands at zero. -/
  | add {name : String} {value : Json}
      (told : ∀ key, m'.flatten.get? key
        = if key = name then some ((m.flatten.get? key).getD 0) else m.flatten.get? key) :
      Spares m m' (.add name value)
  /-- The sum and the count of a histogram that was not there stand at zero. Nothing is said about the
  bucket that the value falls into, if it does. -/
  | observe {name : String} {value : Json} {bounds : List Json}
      (told : ∀ key, (∀ label, bucketOf value bounds = .ok label → key ≠ entryName name label) →
        m'.flatten.get? key
          = if m.histograms.get? name = none
              ∧ (key = entryName name "sum" ∨ key = entryName name "count")
            then some 0 else m.flatten.get? key) :
      Spares m m' (.observe name value bounds)

/-- **A failed operation touches nothing but what it is about**, whatever the metrics and whatever the
values. It adds to no counter, to no sum and to no count, and what it sets up stands at zero. -/
theorem spares_of_failure (op : Operation Json) {e : MeasureError} (h : (m.carryOut op).1 = .error e) :
    Spares m (m.carryOut op).2 op := by
  cases op with
  | add name value =>
    have hzero : (m.carryOut (.add name value)).2 = m.add name 0 := by
      change (m.addValue name value).1 = _ at h
      change (m.addValue name value).2 = _
      unfold addValue at h ⊢
      split at h
      next => cases h
      next => rfl
    rw [hzero]
    exact .add (get?_flatten_add_zero m name)
  | observe name value bounds =>
    obtain ⟨h', hobserve⟩ : ∃ h', (m.histograms.getD name {}).observe value bounds = (.error e, h') :=
      ⟨_, Prod.ext h rfl⟩
    have hleft : (m.carryOut (.observe name value bounds)).2
        = { m with histograms := m.histograms.put name h' } := by
      change (m.observeValue name value bounds).2 = _
      rw [observeValue, hobserve]
    rw [hleft]
    refine .observe fun key hkey => get?_flatten_put ?_
    rcases observe_of_error hobserve with rfl | ⟨label, hlabel, rfl⟩
    · rfl
    · exact get?_flatten_hit _ (hkey label hlabel)
  | get name => cases h
  | reset => cases h

/-- An observation without bounds fails, and leaves what was there. -/
theorem spares_of_failure_no_bounds :
    let m : Metrics := ({} : Metrics).increment "a"
    let op : Operation Json := .observe "h" (.int 1) []
    (m.carryOut op).1 = .error .noBounds ∧ Spares m (m.carryOut op).2 op
      ∧ (m.carryOut op).2.flatten = [("a", 1), ("histo.h.sum", 0), ("histo.h.count", 0)] := by
  intro m op
  have hfailed : (m.carryOut op).1 = .error .noBounds := rfl
  exact ⟨hfailed, spares_of_failure op hfailed, by decide +kernel⟩

/-- **Failed operations are seen**: a counter, to which a text was added that is no number; a histogram,
which was observed without bounds; and a bucket, into which a text falls that is no number. -/
theorem seen_of_failure :
    let failed (op : Operation Json) := (({} : Metrics).carryOut op).1
    let told (op : Operation Json) := (({} : Metrics).carryOut op).2.flatten
    let counter : Operation Json := .add "a" (.str "x")
    let histogram : Operation Json := .observe "h" (.int 1) []
    let bucket : Operation Json := .observe "h" (.str "x") [.str "y"]
    ({} : Metrics).flatten = []
      ∧ failed counter = .error (.numeral (.notWhole ['x'])) ∧ told counter = [("a", 0)]
      ∧ failed histogram = .error .noBounds
      ∧ told histogram = [("histo.h.sum", 0), ("histo.h.count", 0)]
      ∧ failed bucket = .error (.numeral (.notWhole ['x']))
      ∧ told bucket = [("histo.h.le_y", 1), ("histo.h.sum", 0), ("histo.h.count", 0)] := by
  decide +kernel

end Metrics

end DicePool
