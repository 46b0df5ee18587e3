import DicePool.Proofs.Json.Text
import DicePool.Proofs.Named

/-!
# Proofs/Json/Canonical — what canonical text says

Canonical text sorts the fields of every object by name. So it is the text, with fields in their own
order, of the value that has all fields sorted (`Exact.print_canonical`), and two values have the same
canonical text just in case they are the same up to the order of fields
(`Exact.print_canonical_inj`).
-/

namespace DicePool.Json

mutual

/-- A value with the fields of every object sorted by name. -/
def ordered : Json → Json
  | .arr items => .arr (orderedItems items)
  | .obj fields => .obj ((orderedFields fields).mergeSort fun a b => a.1 ≤ b.1)
  | v => v

/-- The items of a list, each with its fields sorted. -/
def orderedItems : List Json → List Json
  | [] => []
  | v :: rest => v.ordered :: orderedItems rest

/-- The fields of an object, each value with its own fields sorted. -/
def orderedFields : List (String × Json) → List (String × Json)
  | [] => []
  | (k, v) :: rest => (k, v.ordered) :: orderedFields rest

end

@[simp] theorem ordered_null : Json.null.ordered = .null := rfl

@[simp] theorem ordered_bool (b : Bool) : (Json.bool b).ordered = .bool b := rfl

@[simp] theorem ordered_int (n : Int) : (Json.int n).ordered = .int n := rfl

@[simp] theorem ordered_str (s : String) : (Json.str s).ordered = .str s := rfl

theorem orderedItems_eq_map (items : List Json) : orderedItems items = items.map ordered := by
  induction items with
  | nil => rfl
  | cons v items ih => rw [orderedItems, ih, List.map_cons]

theorem orderedFields_eq_map (fields : List (String × Json)) :
    orderedFields fields = fields.map fun p => (p.1, p.2.ordered) := by
  induction fields with
  | nil => rfl
  | cons p fields ih => rw [orderedFields, ih, List.map_cons]

@[simp] theorem ordered_arr (items : List Json) :
    (Json.arr items).ordered = .arr (items.map ordered) := by
  rw [ordered, orderedItems_eq_map]

theorem ordered_obj (fields : List (String × Json)) :
    (Json.obj fields).ordered
      = .obj ((fields.map fun p => (p.1, p.2.ordered)).mergeSort fun a b => a.1 ≤ b.1) := by
  rw [ordered, orderedFields_eq_map]

theorem Exact.ordered {v : Json} (h : Exact v) : Exact v.ordered := by
  induction h with
  | null | bool | int | str => simpa using by constructor
  | arr _ ih =>
    rw [ordered_arr]
    exact .arr (List.forall_mem_map.2 ih)
  | obj _ ih =>
    rw [ordered_obj]
    refine .obj fun p hp => ?_
    obtain ⟨q, hq, rfl⟩ := List.mem_map.1 (List.mem_mergeSort.1 hp)
    exact ih q hq

/-- **Canonical text is the text of the sorted value.** -/
theorem Exact.print_canonical {v : Json} (h : Exact v) :
    v.print .canonical = v.ordered.print .unsorted := by
  induction h with
  | null | bool | int | str => rfl
  | arr _ ih =>
    rw [ordered_arr, print, print, printItems_eq_map, printItems_eq_map, List.map_map]
    rw [List.map_congr_left ih]
    rfl
  | @obj fields _ ih =>
    have htexts : printFields .canonical fields
        = (fields.map fun p => (p.1, p.2.ordered)).map fun p => (p.1, fieldText .unsorted p) := by
      rw [printFields_eq_map, List.map_map]
      refine List.map_congr_left fun p hp => ?_
      simp only [fieldText, ih p hp, Function.comp_apply]
      rfl
    -- The texts are sorted by the same names as the fields.
    have hsorted := List.map_mergeSort (r := fun a b : String × Json => decide (a.1 ≤ b.1))
      (s := fun a b : String × String => decide (a.1 ≤ b.1))
      (f := fun p : String × Json => (p.1, fieldText .unsorted p))
      (l := fields.map fun p => (p.1, p.2.ordered)) fun _ _ _ _ => rfl
    rw [ordered_obj, print, print, printFields_eq_map .unsorted, hsorted, ← htexts]
    rfl

/-- **Two values have the same canonical text just in case they are the same up to the order of
fields.** -/
theorem Exact.print_canonical_inj {v w : Json} (hv : Exact v) (hw : Exact w) :
    v.print .canonical = w.print .canonical ↔ v.ordered = w.ordered := by
  rw [hv.print_canonical, hw.print_canonical]
  refine ⟨fun h => ?_, fun h => by rw [h]⟩
  have htext : (v.ordered.print .unsorted).toList ++ []
      = (w.ordered.print .unsorted).toList ++ [] := by rw [h]
  exact (hv.ordered.toldApart hw.ordered _ _ (by simp) (by simp) htext).1

/-- **Objects that are the same up to the order of fields have the same fields**, as long as every
name comes once. -/
theorem get?_of_ordered_obj_eq {fs gs : Named Json}
    (h : (Json.obj fs).ordered = (Json.obj gs).ordered) (hfs : fs.names.Nodup)
    (hgs : gs.names.Nodup) (name : String) :
    (fs.get? name).map ordered = (gs.get? name).map ordered := by
  have hsorted : ∀ {l : Named Json}, l.names.Nodup → (l.get? name).map ordered
      = Named.get? ((l.map fun p => (p.1, p.2.ordered)).mergeSort fun a b => a.1 ≤ b.1) name := by
    intro l hl
    rw [← Named.get?_map]
    refine Named.get?_of_perm ?_ (List.mergeSort_perm _ _).symm name
    simpa [Named.names, Function.comp_def] using hl
  rw [ordered_obj, ordered_obj, Json.obj.injEq] at h
  rw [hsorted hfs, hsorted hgs, h]

end DicePool.Json
