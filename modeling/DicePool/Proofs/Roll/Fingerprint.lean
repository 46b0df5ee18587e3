import DicePool.Proofs.Json.Canonical
import DicePool.Roll.Audit

/-!
# Proofs/Roll/Fingerprint — what is hashed tells the whole roll

The fingerprint of a roll is the hash of a text. Main statement `Result.auditText_faithful`: two
rolls, each with its request or without, have that text in common just in case they are the same in
every die and every number, and were asked for by the same request. Whatever the hash mixes up, the
text does not.
-/

namespace DicePool

open Json

/-! ## Parts of the text -/

theorem Pips.exact_toJson (p : Pips) : p.toJson.Exact := by
  cases p <;> constructor

@[simp] theorem Pips.ordered_toJson (p : Pips) : p.toJson.ordered = p.toJson := by
  cases p <;> rfl

/-- **A number and a truth value are different as JSON.** -/
theorem Pips.toJson_injective {p q : Pips} (h : p.toJson = q.toJson) : p = q := by
  cases p <;> cases q <;> simp_all [toJson]

theorem exact_ofOption_int (o : Option Int) : (ofOption .int o).Exact := by
  cases o <;> constructor

@[simp] theorem ordered_ofOption_int (o : Option Int) :
    (ofOption .int o).ordered = ofOption .int o := by
  cases o <;> rfl

theorem Origin.name_injective {o o' : Origin} (h : o.name = o'.name) : o = o' := by
  have hname := congrArg ofName? h
  rwa [ofName?_name, ofName?_name, Option.some.injEq] at hname

theorem ofOption_int_injective {o o' : Option Int} (h : ofOption .int o = ofOption .int o') :
    o = o' := by
  rw [← int?_ofOption o, h, int?_ofOption]

theorem Die.exact_payload (d : Die) : d.record.payload.Exact := by
  refine .obj ?_
  simp only [Die.record, List.forall_mem_cons, List.not_mem_nil, false_implies, implies_true,
    and_true]
  exact ⟨d.value.exact_toJson, .str _, exact_ofOption_int _⟩

/-- **What is told of a die determines it.** -/
theorem Die.eq_of_payload_eq {d e : Die} (h : d.record.payload.ordered = e.record.payload.ordered) :
    d = e := by
  have hnames : ["value", "origin", "trigger"].Nodup := by decide
  have hfield := get?_of_ordered_obj_eq h hnames hnames
  have hvalue : d.value.toJson.ordered = e.value.toJson.ordered :=
    Option.some.inj (hfield "value")
  have horigin : Json.str d.origin.name = .str e.origin.name := Option.some.inj (hfield "origin")
  have htrigger : (ofOption .int d.trigger).ordered = (ofOption .int e.trigger).ordered :=
    Option.some.inj (hfield "trigger")
  rw [Pips.ordered_toJson, Pips.ordered_toJson] at hvalue
  rw [ordered_ofOption_int, ordered_ofOption_int] at htrigger
  cases d
  cases e
  rw [Die.mk.injEq]
  exact ⟨Pips.toJson_injective hvalue, Origin.name_injective (Json.str.inj horigin),
    ofOption_int_injective htrigger⟩

theorem Request.exact_payload (q : Request) : q.record.payload.Exact := by
  refine .obj ?_
  simp only [Request.record, Record.Request.fields, List.forall_mem_cons, List.not_mem_nil,
    false_implies, implies_true, and_true]
  exact ⟨.int _, .bool _, .bool _, .bool _, .bool _⟩

/-- **What is told of a request determines it.** -/
theorem Request.eq_of_payload_eq {q q' : Request}
    (h : q.record.payload.ordered = q'.record.payload.ordered) : q = q' := by
  have hnames : ["pool_size", "rote", "nine_again", "eight_again", "no_explode"].Nodup := by decide
  have hfield := get?_of_ordered_obj_eq h hnames hnames
  have hsize : Json.int q.poolSize = .int q'.poolSize := Option.some.inj (hfield "pool_size")
  have hrote : Json.bool q.rote = .bool q'.rote := Option.some.inj (hfield "rote")
  have hnine : Json.bool q.nineAgain = .bool q'.nineAgain := Option.some.inj (hfield "nine_again")
  have height : Json.bool q.eightAgain = .bool q'.eightAgain :=
    Option.some.inj (hfield "eight_again")
  have hnone : Json.bool q.noExplode = .bool q'.noExplode := Option.some.inj (hfield "no_explode")
  obtain ⟨⟨rote, nineAgain, eightAgain, noExplode⟩, poolSize⟩ := q
  obtain ⟨⟨rote', nineAgain', eightAgain', noExplode'⟩, poolSize'⟩ := q'
  rw [Request.mk.injEq, Modifiers.mk.injEq]
  exact ⟨⟨Json.bool.inj hrote, Json.bool.inj hnine, Json.bool.inj height, Json.bool.inj hnone⟩,
    Json.int.inj hsize⟩

/-! ## The whole text -/

namespace Result

variable {r r' : Result} {q q' : Option Request}

theorem exact_audit (r : Result) (q : Option Request) :
    (r.record.audit (q.map Request.record)).Exact := by
  refine .obj ?_
  rw [List.forall_mem_append]
  constructor
  · simp only [Result.record, Record.fields, List.forall_mem_cons, List.not_mem_nil,
      false_implies, implies_true, and_true]
    refine ⟨.arr ?_, .int _, .bool _, .bool _, .int _⟩
    simp only [List.map_map, List.forall_mem_map]
    exact fun d _ => d.exact_payload
  · cases q with
    | none => simp
    | some q => simpa using q.exact_payload

theorem nodup_names_audit (r : Record) (q : Option Record.Request) :
    Named.names (r.fields ++ (q.map fun q => ("request", q.payload)).toList) |>.Nodup := by
  have hnames : ∀ asked ∈ [[], ["request"]],
      (["dice", "successes", "is_chance_die", "is_botch", "exploded_count"] ++ asked).Nodup := by
    decide
  cases q with
  | none => exact hnames [] (by decide)
  | some q => exact hnames ["request"] (by decide)

/-- **What is told of a roll and its request determines both.** -/
theorem eq_of_audit_eq (h : (r.record.audit (q.map Request.record)).ordered
    = (r'.record.audit (q'.map Request.record)).ordered) : r = r' ∧ q = q' := by
  have hfield := get?_of_ordered_obj_eq h (nodup_names_audit _ _) (nodup_names_audit _ _)
  have hdice : (Json.arr (r.record.dice.map Record.Die.payload)).ordered
      = (Json.arr (r'.record.dice.map Record.Die.payload)).ordered :=
    Option.some.inj (hfield "dice")
  have hsuccesses : Json.int r.successes = .int r'.successes :=
    Option.some.inj (hfield "successes")
  have hchance : Json.bool r.isChance = .bool r'.isChance :=
    Option.some.inj (hfield "is_chance_die")
  have hbotch : Json.bool r.isBotch = .bool r'.isBotch := Option.some.inj (hfield "is_botch")
  have hexploded : Json.int r.explodedCount = .int r'.explodedCount :=
    Option.some.inj (hfield "exploded_count")
  have hrequest : q.map (·.record.payload.ordered) = q'.map (·.record.payload.ordered) := by
    have := hfield "request"
    cases q <;> cases q' <;> exact this
  constructor
  · rw [ordered_arr, ordered_arr, Json.arr.injEq] at hdice
    simp only [record, List.map_map] at hdice
    cases r
    cases r'
    rw [Result.mk.injEq]
    exact ⟨List.map_injective_iff.2 (fun _ _ => Die.eq_of_payload_eq) hdice,
      Json.int.inj hsuccesses, Json.bool.inj hchance, Json.bool.inj hbotch,
      Json.int.inj hexploded⟩
  · exact Option.map_injective (fun _ _ => Request.eq_of_payload_eq) hrequest

/-- **Nothing of a roll and its request is lost in the text that is hashed.** -/
theorem auditText_inj : r.auditText q = r'.auditText q' ↔ r = r' ∧ q = q' := by
  refine ⟨fun h => eq_of_audit_eq ?_, fun ⟨hr, hq⟩ => by rw [hr, hq]⟩
  exact ((r.exact_audit q).print_canonical_inj (r'.exact_audit q')).1 h

end Result

/-! ## Bytes -/

/-- The bytes of an array, listed from a place on. -/
theorem toList_loop (bytes : ByteArray) (i : Nat) (done : List UInt8) :
    ByteArray.toList.loop bytes i done = done.reverse ++ bytes.data.toList.drop i := by
  have hsize : bytes.data.toList.length = bytes.size := Array.length_toList
  induction i, done using ByteArray.toList.loop.induct bytes with
  | case1 i done hi ih =>
    have hlist : i < bytes.data.toList.length := hsize ▸ hi
    have hget : bytes.get! i = bytes.data.toList[i] := by
      change bytes.data[i]! = _
      rw [getElem!_pos bytes.data i hi, Array.getElem_toList]
    rw [ByteArray.toList.loop, if_pos hi, ih, hget, List.reverse_cons, List.append_assoc,
      List.singleton_append, ← List.drop_eq_getElem_cons hlist]
  | case2 i done hi =>
    rw [ByteArray.toList.loop, if_neg hi, List.drop_eq_nil_of_le (by omega), List.append_nil]

/-- **Texts with the same bytes are the same.** -/
theorem toUTF8_toList_inj {s t : String} : s.toUTF8.toList = t.toUTF8.toList ↔ s = t := by
  have hlist : ∀ bytes : ByteArray, bytes.toList = bytes.data.toList := fun bytes =>
    toList_loop bytes 0 []
  refine ⟨fun h => ?_, fun h => by rw [h]⟩
  rw [hlist, hlist] at h
  exact String.toByteArray_inj.1 (ByteArray.ext (Array.toList_inj.1 h))

/-- **What is hashed of a roll says everything about it** — two rolls, each with its request or
without, whose numbers all fit 64 bits both have fingerprints, and the bytes that are hashed are the
same just in case the rolls are the same in every field of every die and in all that they come to,
and no request was given for either, or the same one for both. -/
theorem Result.auditText_faithful {r r' : Result} {q q' : Option Request}
    (h : (r.numbers q).all inAuditRange) (h' : (r'.numbers q').all inAuditRange) :
    r.digest q = .ok (fingerprint (r.auditText q))
      ∧ r'.digest q' = .ok (fingerprint (r'.auditText q'))
      ∧ ((r.auditText q).toUTF8.toList = (r'.auditText q').toUTF8.toList ↔ r = r' ∧ q = q') := by
  refine ⟨?_, ?_, toUTF8_toList_inj.trans auditText_inj⟩
  · rw [digest, if_pos h]
  · rw [digest, if_pos h']

/-- A roll with and without its request: the largest number that fits is told, and the request shows
in the text. -/
theorem Result.auditText_faithful_largest_pool :
    let r : Result := {
      dice := [⟨.number 10, .initial, none⟩, ⟨.number 3, .explosion, some 0⟩]
      successes := 1
      explodedCount := 1 }
    let q : Request := { poolSize := 0xffffffffffffffff }
    (r.numbers (some q)).all inAuditRange ∧ (r.numbers none).all inAuditRange
      ∧ r.digest (some q) = .ok (fingerprint (r.auditText (some q)))
      ∧ r.digest none = .ok (fingerprint (r.auditText none))
      ∧ (r.auditText (some q)).toUTF8.toList ≠ (r.auditText none).toUTF8.toList := by
  intro r q
  have hasked : (r.numbers (some q)).all inAuditRange := by decide
  have halone : (r.numbers none).all inAuditRange := by decide
  obtain ⟨hdigest, hdigest', hiff⟩ := auditText_faithful hasked halone
  exact ⟨hasked, halone, hdigest, hdigest', fun h => Option.some_ne_none q (hiff.1 h).2⟩

end DicePool
