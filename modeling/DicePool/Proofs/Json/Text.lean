import DicePool.Json.Order
import DicePool.Json.Printer
import DicePool.Json.Reader
import DicePool.Proofs.Number.Decimal

/-!
# Proofs/Json/Text — JSON text can be read back

Where a value ends shows in its JSON text: a comma or a closing bracket follows, or nothing. So a text
that begins with a value determines the value and the rest (`Exact.toldApart`), whatever the nesting.

Fractional numbers are left out (`Exact`): their texts are made by arithmetic of the machine, about
which nothing is known here.
-/

namespace DicePool.Json

/-! ## Strings -/

/-- Reads one character inside a string, with what follows it. -/
def readChar? : List Char → Option (Char × List Char)
  | '\\' :: 'u' :: '0' :: '0' :: c :: d :: rest => do
    let high ← Text.hexValue? c
    let low ← Text.hexValue? d
    return (Char.ofNat (16 * high + low), rest)
  | '\\' :: c :: rest => (Reader.shortEscape? c).map (·, rest)
  | '"' :: _ => none
  | c :: rest => some (c, rest)
  | [] => none

theorem hexValue?_hexDigit {d : Nat} (h : d < 16) : Text.hexValue? (Text.hexDigit d) = some d := by
  have hall : ∀ d < 16, Text.hexValue? (Text.hexDigit d) = some d := by decide
  exact hall d h

/-- A control character is escaped by two digits. -/
theorem unitEscape_of_lt {n : Nat} (h : n < 0x20) :
    unitEscape n = ['\\', 'u', '0', '0', Text.hexDigit (n / 16), Text.hexDigit (n % 16)] := by
  have hall : ∀ n < 0x20,
      unitEscape n = ['\\', 'u', '0', '0', Text.hexDigit (n / 16), Text.hexDigit (n % 16)] := by
    decide
  exact hall n h

theorem readChar?_unitEscape {c : Char} (h : c.toNat < 0x20) (rest : List Char) :
    readChar? (unitEscape c.toNat ++ rest) = some (c, rest) := by
  have hdigits : Char.ofNat (16 * (c.toNat / 16) + c.toNat % 16) = c := by
    rw [Nat.div_add_mod, Char.ofNat_toNat]
  simp only [unitEscape_of_lt h, List.cons_append, List.nil_append, readChar?,
    hexValue?_hexDigit (Nat.mod_lt _ (by decide : 0 < 16)),
    hexValue?_hexDigit (show c.toNat / 16 < 16 by omega), Option.bind_eq_bind, Option.bind_some,
    hdigits]
  rfl

theorem readChar?_cons_of_ne {c : Char} (hquote : c ≠ '"') (hslash : c ≠ '\\') (rest : List Char) :
    readChar? (c :: rest) = some (c, rest) := by
  rw [readChar?.eq_def]
  split
  next heq => exact absurd (List.cons.inj heq).1 hslash
  next heq => exact absurd (List.cons.inj heq).1 hslash
  next heq => exact absurd (List.cons.inj heq).1 hquote
  next heq =>
    obtain ⟨rfl, rfl⟩ := List.cons.inj heq
    rfl
  next heq => cases heq

/-- The characters that have escapes of their own. -/
def escaped : List Char :=
  ['"', '\\', '\n', '\r', '\t', '\x08', '\x0c']

theorem stringChar_of_notMem_escaped {c : Char} (h : c ∉ escaped) :
    stringChar false c = if c.toNat < 0x20 then unitEscape c.toNat else [c] := by
  simp only [escaped, List.mem_cons, List.not_mem_nil, or_false, not_or] at h
  simp [stringChar, h]

/-- **A character inside a string reads back.** -/
theorem readChar?_stringChar (c : Char) (rest : List Char) :
    readChar? (stringChar false c ++ rest) = some (c, rest) := by
  by_cases hescaped : c ∈ escaped
  · simp only [escaped, List.mem_cons, List.not_mem_nil, or_false] at hescaped
    rcases hescaped with rfl | rfl | rfl | rfl | rfl | rfl | rfl <;> rfl
  · rw [stringChar_of_notMem_escaped hescaped]
    split
    next h => exact readChar?_unitEscape h rest
    next =>
      have hne : c ≠ '"' ∧ c ≠ '\\' := by
        constructor <;> rintro rfl <;> exact hescaped (by decide)
      exact readChar?_cons_of_ne hne.1 hne.2 rest

/-- **The characters of a string can be told apart**, and so can what follows its end. -/
theorem flatMap_stringChar_append_inj {s t x y : List Char}
    (h : s.flatMap (stringChar false) ++ '"' :: x = t.flatMap (stringChar false) ++ '"' :: y) :
    s = t ∧ x = y := by
  have hend : ∀ {c : Char} {rest z : List Char}, stringChar false c ++ rest ≠ '"' :: z := by
    intro c rest z heq
    have hread := readChar?_stringChar c rest
    rw [heq] at hread
    cases hread
  induction s generalizing t with
  | nil =>
    cases t with
    | nil => exact ⟨rfl, (List.cons.inj h).2⟩
    | cons d t =>
      rw [List.flatMap_cons, List.append_assoc] at h
      exact absurd h.symm hend
  | cons c s ih =>
    cases t with
    | nil =>
      rw [List.flatMap_cons, List.append_assoc] at h
      exact absurd h hend
    | cons d t =>
      rw [List.flatMap_cons, List.flatMap_cons, List.append_assoc, List.append_assoc] at h
      have hread := congrArg readChar? h
      rw [readChar?_stringChar, readChar?_stringChar] at hread
      obtain ⟨rfl, hrest⟩ := Prod.mk.inj (Option.some.inj hread)
      obtain ⟨rfl, hxy⟩ := ih hrest
      exact ⟨rfl, hxy⟩

theorem stringText_append_inj {s t : String} {x y : List Char}
    (h : (stringText false s).toList ++ x = (stringText false t).toList ++ y) : s = t ∧ x = y := by
  simp only [stringText, String.toList_ofList, List.append_assoc, List.cons_append,
    List.nil_append, List.cons.injEq, true_and] at h
  obtain ⟨hst, hxy⟩ := flatMap_stringChar_append_inj h
  exact ⟨String.toList_inj.1 hst, hxy⟩

/-! ## Lists -/

/-- Whether a value that stands in a list or an object ends before this character. -/
def isEnd (c : Char) : Bool :=
  c == ',' || c == ']' || c == '\x7d'

section

variable {α : Type} {f : α → List Char} {as bs : List α} {close : Char} {x y : List Char}

theorem isEnd_of_mem_head? (hclose : isEnd close) (as : List α) :
    ∀ c ∈ (as.flatMap (',' :: f ·) ++ close :: x).head?, isEnd c := by
  cases as with
  | nil =>
    rintro c ⟨⟩
    exact hclose
  | cons a as =>
    rintro c ⟨⟩
    decide

/-- Items behind commas can be told apart if the items can. -/
theorem flatMap_comma_append_inj (hclose : isEnd close) (hcomma : close ≠ ',')
    (hitem : ∀ a ∈ as, ∀ b ∈ bs, ∀ x y, (∀ c ∈ x.head?, isEnd c) → (∀ c ∈ y.head?, isEnd c) →
      f a ++ x = f b ++ y → a = b ∧ x = y)
    (h : as.flatMap (',' :: f ·) ++ close :: x = bs.flatMap (',' :: f ·) ++ close :: y) :
    as = bs ∧ x = y := by
  induction as generalizing bs with
  | nil =>
    cases bs with
    | nil => exact ⟨rfl, (List.cons.inj h).2⟩
    | cons b bs => exact absurd (List.cons.inj h).1 hcomma
  | cons a as ih =>
    cases bs with
    | nil => exact absurd (List.cons.inj h).1.symm hcomma
    | cons b bs =>
      rw [List.flatMap_cons, List.flatMap_cons, List.append_assoc, List.append_assoc] at h
      obtain ⟨rfl, hrest⟩ := hitem a List.mem_cons_self b List.mem_cons_self _ _
        (isEnd_of_mem_head? hclose as) (isEnd_of_mem_head? hclose bs) (List.cons.inj h).2
      obtain ⟨rfl, hxy⟩ := ih (fun a' ha b' hb =>
        hitem a' (List.mem_cons_of_mem _ ha) b' (List.mem_cons_of_mem _ hb)) hrest
      exact ⟨rfl, hxy⟩

/-- **Items of a list can be told apart if they can one by one**, and none begins like an end. -/
theorem intercalate_comma_append_inj (hclose : isEnd close) (hcomma : close ≠ ',')
    (has : ∀ a ∈ as, ∃ c ∈ (f a).head?, isEnd c = false)
    (hbs : ∀ b ∈ bs, ∃ c ∈ (f b).head?, isEnd c = false)
    (hitem : ∀ a ∈ as, ∀ b ∈ bs, ∀ x y, (∀ c ∈ x.head?, isEnd c) → (∀ c ∈ y.head?, isEnd c) →
      f a ++ x = f b ++ y → a = b ∧ x = y)
    (h : [','].intercalate (as.map f) ++ close :: x = [','].intercalate (bs.map f) ++ close :: y) :
    as = bs ∧ x = y := by
  have hbegin : ∀ {d : α} {ds : List α} {u v : List Char},
      (∃ c ∈ (f d).head?, isEnd c = false) →
      [','].intercalate ((d :: ds).map f) ++ u ≠ close :: v := by
    rintro d ds u v ⟨c, hc, hend⟩ heq
    obtain ⟨rest, hd⟩ := List.head?_eq_some_iff.1 hc
    rw [List.map_cons, intercalate_cons_eq_flatMap, hd] at heq
    rw [(List.cons.inj heq).1, hclose] at hend
    cases hend
  cases as with
  | nil =>
    cases bs with
    | nil => exact ⟨rfl, (List.cons.inj h).2⟩
    | cons b bs => exact absurd h.symm (hbegin (hbs b List.mem_cons_self))
  | cons a as =>
    cases bs with
    | nil => exact absurd h (hbegin (has a List.mem_cons_self))
    | cons b bs =>
      rw [List.map_cons, List.map_cons, intercalate_cons_eq_flatMap, intercalate_cons_eq_flatMap,
        List.append_assoc, List.append_assoc, List.flatMap_map, List.flatMap_map] at h
      obtain ⟨rfl, hrest⟩ := hitem a List.mem_cons_self b List.mem_cons_self _ _
        (isEnd_of_mem_head? hclose as) (isEnd_of_mem_head? hclose bs) h
      obtain ⟨rfl, hxy⟩ := flatMap_comma_append_inj hclose hcomma (fun a' ha b' hb =>
        hitem a' (List.mem_cons_of_mem _ ha) b' (List.mem_cons_of_mem _ hb)) hrest
      exact ⟨rfl, hxy⟩

end

/-! ## Values -/

/-- There is no fractional number in a value. -/
inductive Exact : Json → Prop where
  | null : Exact .null
  | bool (b : Bool) : Exact (.bool b)
  | int (n : Int) : Exact (.int n)
  | str (s : String) : Exact (.str s)
  | arr {items : List Json} (h : ∀ v ∈ items, Exact v) : Exact (.arr items)
  | obj {fields : List (String × Json)} (h : ∀ p ∈ fields, Exact p.2) : Exact (.obj fields)

/-- The wire form with fields in their own order. -/
def Style.unsorted : Style := { Style.canonical with sorted := false }

theorem printItems_eq_map (style : Style) (items : List Json) :
    printItems style items = items.map (print style) := by
  induction items with
  | nil => rfl
  | cons v items ih => rw [printItems, ih, List.map_cons]

/-- The text of a field. -/
def fieldText (style : Style) (p : String × Json) : String :=
  stringText style.asciiOnly p.1 ++ style.nameSeparator ++ p.2.print style

theorem printFields_eq_map (style : Style) (fields : List (String × Json)) :
    printFields style fields = fields.map fun p => (p.1, fieldText style p) := by
  induction fields with
  | nil => rfl
  | cons p fields ih => rw [printFields, ih, List.map_cons, fieldText]

theorem toList_print_arr (items : List Json) :
    ((Json.arr items).print .unsorted).toList
      = '[' :: ([','].intercalate (items.map fun v => (v.print .unsorted).toList) ++ [']']) := by
  rw [print, printItems_eq_map]
  simp [Style.unsorted, Style.canonical, Function.comp_def]

theorem toList_print_obj (fields : List (String × Json)) :
    ((Json.obj fields).print .unsorted).toList
      = '\x7b' :: ([','].intercalate (fields.map fun p => (fieldText .unsorted p).toList)
        ++ ['\x7d']) := by
  rw [print, printFields_eq_map]
  simp [Style.unsorted, Style.canonical, Function.comp_def]

/-- The kind of value whose text begins with a character. -/
def kindOf (c : Char) : String :=
  if c == 'n' then "NoneType"
  else if c == 't' || c == 'f' then "bool"
  else if c == '"' then "str"
  else if c == '[' then "list"
  else if c == '\x7b' then "dict"
  else "int"

theorem kindOf_of_isNumeralChar {c : Char} (h : Numeral.isNumeralChar c) : kindOf c = "int" := by
  have hne : ∀ d, Numeral.isNumeralChar d = false → (c == d) = false := fun d hd =>
    beq_false_of_ne fun hcd => by rw [hcd, hd] at h; cases h
  simp [kindOf, hne 'n' (by decide), hne 't' (by decide), hne 'f' (by decide), hne '"' (by decide),
    hne '[' (by decide), hne '\x7b' (by decide)]

theorem isEnd_eq_false_of_isNumeralChar {c : Char} (h : Numeral.isNumeralChar c) :
    isEnd c = false := by
  rw [Bool.eq_false_iff]
  intro hend
  simp only [isEnd, Bool.or_eq_true, beq_iff_eq] at hend
  rcases hend with (rfl | rfl) | rfl <;> exact absurd h (by decide)

/-- **The first character tells the kind of a value.** -/
theorem Exact.exists_head {v : Json} (h : Exact v) :
    ∃ c ∈ (v.print .unsorted).toList.head?, isEnd c = false ∧ kindOf c = v.kind := by
  cases h with
  | null => exact ⟨'n', rfl, rfl, rfl⟩
  | bool b => cases b <;> exact ⟨_, rfl, rfl, rfl⟩
  | int n =>
    obtain ⟨c, cs, hcs⟩ := List.exists_cons_of_ne_nil (Numeral.toString_ne_nil n)
    have hc : Numeral.isNumeralChar c :=
      Numeral.isNumeralChar_of_mem_toString (hcs ▸ List.mem_cons_self)
    refine ⟨c, ?_, isEnd_eq_false_of_isNumeralChar hc, kindOf_of_isNumeralChar hc⟩
    rw [print, hcs]
    rfl
  | str s => exact ⟨'"', by rw [print, stringText, String.toList_ofList]; rfl, rfl, rfl⟩
  | arr => exact ⟨'[', by rw [toList_print_arr]; rfl, rfl, rfl⟩
  | obj => exact ⟨'\x7b', by rw [toList_print_obj]; rfl, rfl, rfl⟩

theorem kind_eq_of_print_append_eq {v w : Json} (hv : Exact v) (hw : Exact w) {x y : List Char}
    (h : (v.print .unsorted).toList ++ x = (w.print .unsorted).toList ++ y) : v.kind = w.kind := by
  obtain ⟨c, hc, -, hvkind⟩ := hv.exists_head
  obtain ⟨d, hd, -, hwkind⟩ := hw.exists_head
  obtain ⟨vs, hvs⟩ := List.head?_eq_some_iff.1 hc
  obtain ⟨ws, hws⟩ := List.head?_eq_some_iff.1 hd
  rw [hvs, hws] at h
  rw [← hvkind, ← hwkind, (List.cons.inj h).1]

theorem toList_fieldText (p : String × Json) :
    (fieldText .unsorted p).toList
      = (stringText false p.1).toList ++ ':' :: (p.2.print .unsorted).toList := by
  simp [fieldText, Style.unsorted, Style.canonical]

theorem exists_head_fieldText (p : String × Json) :
    ∃ c ∈ (fieldText .unsorted p).toList.head?, isEnd c = false := by
  refine ⟨'"', ?_, rfl⟩
  rw [toList_fieldText, stringText, String.toList_ofList]
  rfl

/-- The name of a field can be told from its value. -/
theorem fieldText_append_inj {p p' : String × Json} {x y : List Char}
    (h : (fieldText .unsorted p).toList ++ x = (fieldText .unsorted p').toList ++ y) :
    p.1 = p'.1
      ∧ (p.2.print .unsorted).toList ++ x = (p'.2.print .unsorted).toList ++ y := by
  rw [toList_fieldText, toList_fieldText, List.append_assoc, List.append_assoc] at h
  obtain ⟨hname, hvalue⟩ := stringText_append_inj h
  exact ⟨hname, (List.cons.inj hvalue).2⟩

/-- Two values are told apart by their texts, and each from what follows it. -/
def ToldApart (v w : Json) : Prop :=
  ∀ x y : List Char, (∀ c ∈ x.head?, isEnd c) → (∀ c ∈ y.head?, isEnd c) →
    (v.print .unsorted).toList ++ x = (w.print .unsorted).toList ++ y → v = w ∧ x = y

/-- Lists are told apart if their items are. -/
theorem toldApart_arr {items items' : List Json} (hitems : ∀ v ∈ items, Exact v)
    (hitems' : ∀ w ∈ items', Exact w) (h : ∀ v ∈ items, ∀ w ∈ items', ToldApart v w) :
    ToldApart (.arr items) (.arr items') := by
  intro x y _ _ htext
  rw [toList_print_arr, toList_print_arr, List.cons_append, List.cons_append, List.append_assoc,
    List.append_assoc] at htext
  obtain ⟨rfl, hxy⟩ := intercalate_comma_append_inj (by decide) (by decide)
    (fun v hv => (hitems v hv).exists_head.imp fun c hc => ⟨hc.1, hc.2.1⟩)
    (fun w hw => (hitems' w hw).exists_head.imp fun c hc => ⟨hc.1, hc.2.1⟩)
    h (List.cons.inj htext).2
  exact ⟨rfl, hxy⟩

/-- Objects are told apart if their values are. -/
theorem toldApart_obj {fields fields' : List (String × Json)}
    (h : ∀ p ∈ fields, ∀ p' ∈ fields', ToldApart p.2 p'.2) :
    ToldApart (.obj fields) (.obj fields') := by
  intro x y _ _ htext
  rw [toList_print_obj, toList_print_obj, List.cons_append, List.cons_append, List.append_assoc,
    List.append_assoc] at htext
  obtain ⟨rfl, hxy⟩ := intercalate_comma_append_inj (by decide) (by decide)
    (fun p _ => exists_head_fieldText p) (fun p _ => exists_head_fieldText p)
    (fun p hp p' hp' x y hx hy htext => by
      obtain ⟨hname, hvalue⟩ := fieldText_append_inj htext
      obtain ⟨hv, hxy⟩ := h p hp p' hp' x y hx hy hvalue
      exact ⟨Prod.ext hname hv, hxy⟩)
    (List.cons.inj htext).2
  exact ⟨rfl, hxy⟩

theorem not_isNumeralChar_of_isEnd {x : List Char} (hx : ∀ c ∈ x.head?, isEnd c) :
    ∀ c ∈ x.head?, ¬Numeral.isNumeralChar c := fun c hc hnum =>
  Bool.false_ne_true ((isEnd_eq_false_of_isNumeralChar hnum).symm.trans (hx c hc))

/-- **Values are told apart**: those of one kind by what is in them, and others by their kind. So a value
can be told from what follows it, too. -/
theorem Exact.toldApart {v w : Json} (hv : Exact v) (hw : Exact w) : ToldApart v w := by
  intro x y hx hy h
  have hkind := kind_eq_of_print_append_eq hv hw h
  induction hv generalizing w x y with
  | null =>
    cases hw with
    | null => exact ⟨rfl, List.append_cancel_left h⟩
    | _ => simp [kind] at hkind
  | bool b =>
    cases hw with
    | bool b' =>
      cases b <;> cases b' <;> simp_all [print]
    | _ => simp [kind] at hkind
  | int n =>
    cases hw with
    | int n' =>
      obtain ⟨rfl, hxy⟩ := Numeral.toString_append_inj (not_isNumeralChar_of_isEnd hx)
        (not_isNumeralChar_of_isEnd hy) h
      exact ⟨rfl, hxy⟩
    | _ => simp [kind] at hkind
  | str s =>
    cases hw with
    | str s' =>
      obtain ⟨rfl, hxy⟩ := stringText_append_inj h
      exact ⟨rfl, hxy⟩
    | _ => simp [kind] at hkind
  | arr hitems ih =>
    cases hw with
    | arr hitems' =>
      exact toldApart_arr hitems hitems' (fun v hv w hw x y hx hy h => ih v hv (hitems' w hw) x y hx hy h
        (kind_eq_of_print_append_eq (hitems v hv) (hitems' w hw) h)) x y hx hy h
    | _ => simp [kind] at hkind
  | obj hfields ih =>
    cases hw with
    | obj hfields' =>
      exact toldApart_obj (fun p hp p' hp' x y hx hy h => ih p hp (hfields' p' hp') x y hx hy h
        (kind_eq_of_print_append_eq (hfields p hp) (hfields' p' hp') h)) x y hx hy h
    | _ => simp [kind] at hkind

end DicePool.Json
