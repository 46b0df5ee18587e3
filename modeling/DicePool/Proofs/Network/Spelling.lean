import DicePool.Proofs.Network.Place
import DicePool.Proofs.Text.Classes
import Mathlib.Data.Bool.AllAny

/-!
# Proofs/Network/Spelling — how an address is written that is sent

Behind a place that is known, an address is sent as it was written, but for the steps `.` and `..` of its
path, which are taken (`normalTail`), and for the characters that may not stand in the part that they are
in: `Url.spell` says it character by character, and `render_of_parse` is the main statement. A step whose
characters may all stand in a path (`IsStep`) is added to whatever is sent as it is.
-/

namespace DicePool.Url

/-! ## Characters where they stand -/

/-- The parts of an address behind its place. -/
inductive Part where
  /-- The path. -/
  | path
  /-- The query. -/
  | query
  /-- The fragment. -/
  | fragment

namespace Part

/-- What may not stand in a part. -/
def reserved : Part → List Char
  | path => pathReserved
  | query => queryReserved
  | fragment => fragmentReserved

/-- Whether a character ends a part: no fragment ends, a query ends at `#`, and a path at `?` too. -/
def isEnd : Part → Char → Bool
  | path, c => c == '?' || c == '#'
  | query, c => c == '#'
  | fragment, _ => false

/-- The part that a character leads to. -/
def after (p : Part) (c : Char) : Part :=
  if p.isEnd c then (if c = '#' then fragment else query) else p

end Part

/-- A text that begins in a part, as it is sent: what ends a part stands for itself, and any other
character is escaped if it may not stand there. -/
def spell (p : Part) : List Char → List Char
  | [] => []
  | c :: s => (if p.isEnd c then [c] else escape p.reserved [c]) ++ spell (p.after c) s

theorem spell_append (p : Part) (s t : List Char) :
    spell p (s ++ t) = spell p s ++ spell (s.foldl Part.after p) t := by
  induction s generalizing p with
  | nil => rfl
  | cons c s ih => rw [List.cons_append, spell, spell, ih, List.foldl_cons, List.append_assoc]

theorem escape_cons (reserved : List Char) (c : Char) (s : List Char) :
    escape reserved (c :: s) = escape reserved [c] ++ escape reserved s := by
  rw [escape, escape, escape, Text.Percent.escape, Text.Percent.escape, Text.Percent.escape,
    List.flatMap_cons, List.flatMap_singleton]

theorem escape_append (reserved s t : List Char) :
    escape reserved (s ++ t) = escape reserved s ++ escape reserved t :=
  List.flatMap_append

theorem spell_fragment (s : List Char) : spell .fragment s = escape fragmentReserved s := by
  induction s with
  | nil => rfl
  | cons c s ih =>
    have hstays : Part.after .fragment c = .fragment := rfl
    rw [spell, hstays, ih, escape_cons _ c s]
    rfl

theorem splitAt_cons (c : Char) (s : List Char) (d : Char) :
    splitAt c (d :: s) = if d = c then ([], some s) else (d :: (splitAt c s).1, (splitAt c s).2) := by
  by_cases h : d = c
  · simp [splitAt, h]
  · simp [splitAt, h]

theorem spell_query (s : List Char) :
    spell .query s = escape queryReserved (splitAt '#' s).1
      ++ ((splitAt '#' s).2.map fun f => '#' :: escape fragmentReserved f).getD [] := by
  induction s with
  | nil => rfl
  | cons c s ih =>
    rw [spell, splitAt_cons]
    by_cases h : c = '#'
    · subst h
      simpa [Part.isEnd, Part.after, escape, Text.Percent.escape] using spell_fragment s
    · rw [if_neg h, escape_cons _ c (splitAt '#' s).1, List.append_assoc, ← ih]
      simp [Part.isEnd, Part.after, Part.reserved, h]

/-- **A path, a query and a fragment are spelled part by part.** -/
theorem spell_path (s : List Char) :
    spell .path s = escape pathReserved (splitAt '?' (splitAt '#' s).1).1
      ++ ((splitAt '?' (splitAt '#' s).1).2.map fun q => '?' :: escape queryReserved q).getD []
      ++ ((splitAt '#' s).2.map fun f => '#' :: escape fragmentReserved f).getD [] := by
  induction s with
  | nil => rfl
  | cons c s ih =>
    rw [spell, splitAt_cons]
    by_cases h : c = '#'
    · subst h
      simpa [Part.isEnd, Part.after, splitAt, escape, Text.Percent.escape] using spell_fragment s
    · rw [if_neg h]
      dsimp only
      rw [splitAt_cons]
      by_cases h' : c = '?'
      · subst h'
        simpa [Part.isEnd, Part.after, escape, Text.Percent.escape] using spell_query s
      · rw [if_neg h', escape_cons _ c (splitAt '?' (splitAt '#' s).1).1]
        simp [Part.isEnd, Part.after, Part.reserved, h, h', ih]

theorem escape_eq_self {reserved : List Char} {c : Char} (h : isPrintedExcept reserved c) :
    escape reserved [c] = [c] := by
  simp [escape, Text.Percent.escape, h]

/-- What may stand in a path ends no part, and may stand in each. -/
theorem Part.isPrintedExcept_reserved {c : Char} (h : isPrintedExcept pathReserved c) (p : Part) :
    p.isEnd c = false ∧ isPrintedExcept p.reserved c := by
  have hincluded : ∀ d ∈ '?' :: '#' :: p.reserved, d ∈ '?' :: '#' :: pathReserved :=
    List.all_iff_forall_prop.1 (by cases p <;> decide)
  rw [isPrintedExcept, Bool.and_eq_true, Bool.not_eq_true', List.contains_eq_mem,
    decide_eq_false_iff_not] at h
  have hmarks : c ∉ '?' :: '#' :: pathReserved := fun hmem => h.2 (by
    rcases List.mem_cons.1 hmem with rfl | hmem
    · decide
    · rcases List.mem_cons.1 hmem with rfl | hmem
      · decide
      · exact hmem)
  have hc : c ∉ '?' :: '#' :: p.reserved := fun hmem => hmarks (hincluded c hmem)
  rw [List.mem_cons, List.mem_cons, not_or, not_or] at hc
  obtain ⟨hmark, hhash, hreserved⟩ := hc
  refine ⟨by cases p <;> simp [isEnd, hmark, hhash], ?_⟩
  rw [isPrintedExcept, h.1]
  simpa using hreserved

/-- **What has only characters that may stand in a path is spelled as it is**, in every part. -/
theorem spell_eq_self {s : List Char} (h : ∀ c ∈ s, isPrintedExcept pathReserved c) (p : Part) :
    spell p s = s := by
  induction s with
  | nil => rfl
  | cons c s ih =>
    rw [List.forall_mem_cons] at h
    obtain ⟨hend, hprinted⟩ := Part.isPrintedExcept_reserved h.1 p
    rw [spell, Part.after, hend, if_neg Bool.false_ne_true, if_neg Bool.false_ne_true,
      escape_eq_self hprinted, ih h.2]
    rfl

/-! ## Steps -/

/-- **One step more**: `.` changes nothing, `..` takes the last step back, unless there is only the empty
one in front, and any other step is added. -/
theorem dropDots_append_singleton (steps : List (List Char)) (step : List Char) :
    dropDots (steps ++ [step]) =
      if step = ['.'] then dropDots steps
      else if step = ['.', '.'] then
        if dropDots steps = [[]] then dropDots steps else (dropDots steps).dropLast
      else dropDots steps ++ [step] := by
  unfold dropDots
  rw [List.foldl_append, List.foldl_cons, List.foldl_nil]
  generalize steps.foldl _ [] = done
  have hroot : done.reverse = [[]] ↔ done = [[]] := List.reverse_eq_iff
  simp only [beq_iff_eq, hroot]
  split_ifs
  · rfl
  · rfl
  · rw [List.drop_one, List.dropLast_reverse]
  · rw [List.reverse_cons]

/-- The empty step in front of the first slash is never taken back. -/
theorem head?_dropDots (steps : List (List Char)) : (dropDots ([] :: steps)).head? = some [] := by
  induction steps using List.reverseRecOn with
  | nil => rfl
  | append_singleton steps step ih =>
    rw [← List.cons_append, dropDots_append_singleton]
    obtain ⟨done, hdone⟩ : ∃ done, dropDots ([] :: steps) = [] :: done := List.head?_eq_some_iff.1 ih
    rw [hdone]
    split_ifs with _ _ hroot
    · rfl
    · rfl
    · obtain ⟨last, rest, rfl⟩ := List.exists_cons_of_ne_nil fun h : done = [] => hroot (by rw [h])
      rfl
    · rfl

theorem intercalate_append_singleton {steps : List (List Char)} (h : steps ≠ []) (step : List Char) :
    ['/'].intercalate (steps ++ [step]) = ['/'].intercalate steps ++ '/' :: step := by
  induction steps with
  | nil => exact absurd rfl h
  | cons first steps ih =>
    cases steps with
    | nil => simp
    | cons second steps =>
      rw [List.cons_append, List.intercalate_cons_of_ne_nil (by simp), ih (List.cons_ne_nil _ _),
        List.intercalate_cons_of_ne_nil (List.cons_ne_nil _ _), List.append_assoc (first ++ ['/'])]

/-- A step of a path that is taken as it is written: all its characters may stand there, there is no
slash among them, and it is neither `.` nor `..`. -/
structure IsStep (step : List Char) : Prop where
  printed : ∀ c ∈ step, isPrintedExcept pathReserved c
  noSlash : '/' ∉ step
  noDots : step ≠ ['.'] ∧ step ≠ ['.', '.']

/-- **A step is added to what is made of the path in front of it.** -/
theorem normalPath_append_slash {path step : List Char} (hpath : ∀ c ∈ path.head?, c = '/')
    (h : IsStep step) : normalPath (path ++ '/' :: step) = normalPath path ++ '/' :: step := by
  obtain ⟨steps, hsteps⟩ : ∃ steps, path.splitOn '/' = [] :: steps := by
    cases path with
    | nil => exact ⟨[], rfl⟩
    | cons c path =>
      obtain rfl := hpath c rfl
      exact ⟨_, List.splitOn_append_cons_self [] path⟩
  have hstep : dropDots ([] :: steps ++ [step]) = dropDots ([] :: steps) ++ [step] := by
    rw [dropDots_append_singleton, if_neg h.noDots.1, if_neg h.noDots.2]
  have hne : dropDots ([] :: steps) ≠ [] := fun hnil => by
    have hhead := head?_dropDots steps
    rw [hnil] at hhead
    cases hhead
  rw [normalPath, normalPath, List.splitOn_append_cons_self, List.splitOn_eq_singleton h.noSlash,
    hsteps]
  have hplain : ([step].any fun s => s == ['.'] || s == ['.', '.']) = false := by simp [h.noDots]
  rw [List.any_append, hplain, Bool.or_false, hstep, intercalate_append_singleton hne]
  cases ([] :: steps).any fun s => s == ['.'] || s == ['.', '.'] <;> rfl
/-! ## Addresses behind a place -/

/-- **What is an address is short enough and has no control characters.** -/
theorem of_parse {text : String} {u : Url} (h : parse text = .ok u) :
    text.length ≤ maxLength ∧ ∀ c ∈ text.toList, isControl c = false := by
  unfold parse at h
  dsimp only at h
  split at h
  next => cases h
  next hlength =>
    split at h
    next => cases h
    next hcontrol =>
      rw [String.length_toList, Nat.not_lt] at hlength
      exact ⟨hlength, List.findIdx?_eq_none_iff.1 (Option.eq_none_iff_forall_ne_some.2 hcontrol)⟩

/-- Another path, query and fragment at a place. -/
def behind (home : Url) (parts : Parts) : Url :=
  { home with
    path := escape pathReserved (normalPath parts.path)
    query := parts.query.map (escape queryReserved)
    fragment := parts.fragment.map (escape fragmentReserved) }

variable {text text' : String} {home : Url}

/-- **Where an address begins like another, whatever is short enough and has no control characters is
one, too.** -/
theorem parse_eq_behind (h : parse text = .ok home) (hplaced : home.isPlaced)
    (hscheme : (Parts.ofText text'.toList).scheme = (Parts.ofText text.toList).scheme)
    (hauthority : (Parts.ofText text'.toList).authority = (Parts.ofText text.toList).authority)
    (hlength : text'.length ≤ maxLength) (hcontrol : ∀ c ∈ text'.toList, isControl c = false) :
    parse text' = .ok (home.behind (Parts.ofText text'.toList)) := by
  obtain ⟨hu, huser, hhost, hport⟩ := place_of_parse h
  rw [← hscheme] at hu hport
  rw [← hauthority] at huser hhost hport
  have hfind : text'.toList.findIdx? isControl = none := List.findIdx?_eq_none_iff.2 hcontrol
  rw [← String.length_toList] at hlength
  unfold parse
  dsimp only
  rw [if_neg (Nat.not_lt.2 hlength), hfind]
  dsimp only
  rw [hhost, hport, ← hu, ← huser]
  generalize Parts.ofText text'.toList = parts
  have hplace : ({ home with
      path := [], query := none
      fragment := parts.fragment.map (escape fragmentReserved) } : Url).isPlaced := hplaced
  change withPath _ parts.path parts.query = _
  unfold withPath
  dsimp only
  rw [hplace]
  rfl

theorem render_behind (hbare : home.path = [] ∧ home.query = none ∧ home.fragment = none)
    (parts : Parts) :
    (home.behind parts).render = home.render ++ String.ofList (escape pathReserved (normalPath parts.path)
      ++ (parts.query.map fun q => '?' :: escape queryReserved q).getD []
      ++ (parts.fragment.map fun f => '#' :: escape fragmentReserved f).getD []) := by
  obtain ⟨hpath, hquery, hfragment⟩ := hbare
  have hplace : (home.behind parts).authority = home.authority := rfl
  rw [render, render, hplace, hpath, hquery, hfragment, ← String.ofList_append]
  cases hq : parts.query <;> cases hf : parts.fragment <;> simp [behind, hq, hf]

variable {scheme authority tail : List Char} {u : Url}

/-- The path ends where a character ends it. -/
theorem splitAt_splitAt (tail : List Char) :
    (splitAt '?' (splitAt '#' tail).1).1 = tail.takeWhile (!Part.path.isEnd ·) := by
  dsimp only [splitAt]
  rw [List.takeWhile_takeWhile]
  refine congrArg (List.takeWhile · tail) (funext fun c => ?_)
  rw [Part.isEnd, Bool.not_or, Bool.decide_and, Bool.decide_eq_true, Bool.decide_eq_true]
  rfl

/-- What follows a place as it is sent: its path with the steps `.` and `..` taken, and all of it spelled
as it has to be. -/
def sentTail (tail : List Char) : List Char :=
  escape pathReserved (normalPath (tail.takeWhile (!Part.path.isEnd ·)))
    ++ spell .path (tail.dropWhile (!Part.path.isEnd ·))

theorem spell_append_of_path {path : List Char} (h : ∀ c ∈ path, !Part.path.isEnd c)
    (rest : List Char) : spell .path (path ++ rest) = escape pathReserved path ++ spell .path rest := by
  induction path with
  | nil => rfl
  | cons c path ih =>
    rw [List.forall_mem_cons, Bool.not_eq_true'] at h
    rw [List.cons_append, spell, Part.after, h.1, if_neg Bool.false_ne_true, if_neg Bool.false_ne_true,
      ih h.2, escape_cons _ c path, List.append_assoc]
    rfl

/-- A text is spelled with its path first. -/
theorem spell_eq_append (tail : List Char) :
    spell .path tail = escape pathReserved (tail.takeWhile (!Part.path.isEnd ·))
      ++ spell .path (tail.dropWhile (!Part.path.isEnd ·)) := by
  have hpath : ∀ c ∈ tail.takeWhile (!Part.path.isEnd ·), !Part.path.isEnd c :=
    List.all_eq_true.1 List.all_takeWhile
  rw [← spell_append_of_path hpath, List.takeWhile_append_dropWhile]

/-- **A step is added to what is sent as it is**, whatever that is. -/
theorem sentTail_append_slash (htail : EndsPlace tail) {step : List Char} (h : IsStep step) :
    sentTail (tail ++ '/' :: step) = sentTail tail ++ '/' :: step := by
  have hprinted : ∀ c ∈ '/' :: step, isPrintedExcept pathReserved c :=
    List.forall_mem_cons.2 ⟨by decide, h.printed⟩
  have hpath : ∀ c ∈ '/' :: step, !Part.path.isEnd c := fun c hc => by
    rw [(Part.isPrintedExcept_reserved (hprinted c hc) .path).1, Bool.not_false]
  have hself : escape pathReserved ('/' :: step) = '/' :: step := by
    have hspell := spell_append_of_path hpath []
    rwa [List.append_nil, spell, List.append_nil, spell_eq_self hprinted, eq_comm] at hspell
  unfold sentTail
  by_cases hall : ∀ c ∈ tail, !Part.path.isEnd c
  · have hslash : ∀ c ∈ tail.head?, c = '/' := fun c hc => by
      have hend := hall c (List.mem_of_mem_head? hc)
      rcases htail c hc with rfl | rfl | rfl
      · rfl
      · cases hend
      · cases hend
    have hboth := List.forall_mem_append.2 ⟨hall, hpath⟩
    rw [List.takeWhile_eq_self_iff.2 hall, List.takeWhile_eq_self_iff.2 hboth,
      List.dropWhile_eq_nil_iff.2 hall, List.dropWhile_eq_nil_iff.2 hboth,
      normalPath_append_slash hslash h, escape_append, hself, spell, List.append_nil, List.append_nil]
  · have htake : (tail.takeWhile (!Part.path.isEnd ·)).length ≠ tail.length := fun hlength =>
      hall (List.takeWhile_eq_self_iff.1 ((List.takeWhile_sublist _).eq_of_length hlength))
    have hdrop : (tail.dropWhile (!Part.path.isEnd ·)).isEmpty = false := by
      rw [List.isEmpty_eq_false_iff]
      exact fun hnil => hall (List.dropWhile_eq_nil_iff.1 hnil)
    rw [List.takeWhile_append, if_neg htake, List.dropWhile_append, hdrop, if_neg Bool.false_ne_true,
      spell_append, spell_eq_self hprinted, List.append_assoc]

/-- A place that is known: a scheme and an authority that are an address by themselves. -/
structure IsHome (scheme authority : List Char) (home : Url) : Prop where
  place : IsPlace scheme authority
  parse : Url.parse (String.ofList (lead scheme authority)) = .ok home
  placed : home.isPlaced
  bare : home.path = [] ∧ home.query = none ∧ home.fragment = none

namespace IsHome

/-- **Behind a known place, whatever is short enough and has no control characters is an address.** -/
theorem parse_append_iff (h : IsHome scheme authority home) (htail : EndsPlace tail) :
    Url.parse (String.ofList (lead scheme authority ++ tail)) = .ok u ↔
      ((lead scheme authority ++ tail).length ≤ maxLength ∧ ∀ c ∈ tail, isControl c = false)
        ∧ u = home.behind (Parts.ofText (lead scheme authority ++ tail)) := by
  have hbehind (hlength : (lead scheme authority ++ tail).length ≤ maxLength)
      (hcontrol : ∀ c ∈ tail, isControl c = false) :
      Url.parse (String.ofList (lead scheme authority ++ tail))
        = .ok (home.behind (Parts.ofText (lead scheme authority ++ tail))) := by
    have hlead := (of_parse h.parse).2
    have hparts : Parts.ofText (lead scheme authority ++ []) = _ :=
      ofText_lead h.place (by simp [EndsPlace])
    rw [List.append_nil] at hparts
    rw [String.toList_ofList] at hlead
    have hall : Url.parse (String.ofList (lead scheme authority ++ tail)) = _ := parse_eq_behind h.parse
      h.placed (by rw [String.toList_ofList, String.toList_ofList, ofText_lead h.place htail, hparts])
      (by rw [String.toList_ofList, String.toList_ofList, ofText_lead h.place htail, hparts])
      (by rwa [String.length_ofList])
      (by rw [String.toList_ofList]; exact List.forall_mem_append.2 ⟨hlead, hcontrol⟩)
    rwa [String.toList_ofList] at hall
  constructor
  · intro hu
    obtain ⟨hlength, hcontrol⟩ := of_parse hu
    rw [String.length_ofList] at hlength
    rw [String.toList_ofList, List.forall_mem_append] at hcontrol
    exact ⟨⟨hlength, hcontrol.2⟩, Except.ok.inj (hu.symm.trans (hbehind hlength hcontrol.2))⟩
  · rintro ⟨⟨hlength, hcontrol⟩, rfl⟩
    exact hbehind hlength hcontrol

/-- **Behind a known place, an address is sent as it is spelled**, with the steps of its path taken. -/
theorem render_of_parse (h : IsHome scheme authority home) (htail : EndsPlace tail)
    (hu : Url.parse (String.ofList (lead scheme authority ++ tail)) = .ok u) :
    u.render = home.render ++ String.ofList (sentTail tail) := by
  obtain ⟨-, rfl⟩ := (h.parse_append_iff htail).1 hu
  have hspell := spell_path tail
  rw [spell_eq_append, List.append_assoc, splitAt_splitAt] at hspell
  rw [render_behind h.bare, ofText_lead h.place htail, sentTail, List.append_cancel_left hspell,
    List.append_assoc]
  dsimp only
  rw [splitAt_splitAt]

end IsHome

/-- No step of the path of a text is `.` or `..`. -/
def Undotted (text : String) : Prop :=
  ∀ step ∈ (Parts.ofText text.toList).path.splitOn '/', step ≠ ['.'] ∧ step ≠ ['.', '.']

theorem normalPath_of_undotted {path : List Char}
    (h : ∀ step ∈ path.splitOn '/', step ≠ ['.'] ∧ step ≠ ['.', '.']) : normalPath path = path := by
  rw [normalPath, if_neg]
  simpa [List.any_eq_true] using h

theorem sentTail_of_undotted (hplace : IsPlace scheme authority) (htail : EndsPlace tail)
    (h : Undotted (String.ofList (lead scheme authority ++ tail))) : sentTail tail = spell .path tail := by
  rw [Undotted, String.toList_ofList, ofText_lead hplace htail] at h
  dsimp only at h
  rw [splitAt_splitAt] at h
  rw [sentTail, normalPath_of_undotted h, ← spell_eq_append]

end DicePool.Url
