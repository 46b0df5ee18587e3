import DicePool.Network.Url
import DicePool.Proofs.Text.Runs
import Mathlib.Data.List.DropRight

/-!
# Proofs/Network/Place — an address leads where its beginning says

An address that says where it leads begins with a scheme and an authority (`exists_lead`), and it is
these alone that say where it leads (`samePlace_of_parse`). Whatever follows them, and whatever is put in
its place, is no part of that: main statement `samePlace_trim_append`, for slashes that are taken away
and a path that is added.
-/

namespace DicePool.Url

/-- Two addresses lead to the same place: the same port of the same host, as the same user, by the same
scheme. -/
structure SamePlace (u v : Url) : Prop where
  scheme : u.scheme = v.scheme
  user : u.user = v.user
  host : u.host = v.host
  port : u.port = v.port

/-- An address on the web: it says where it leads, by one of two schemes. -/
structure IsWeb (u : Url) : Prop where
  absolute : u.isAbsolute
  scheme : u.scheme ∈ ["http".toList, "https".toList]

theorem SamePlace.isWeb {u v : Url} (h : u.SamePlace v) (hv : v.IsWeb) : u.IsWeb where
  absolute := by
    have hv' := hv.absolute
    rwa [isAbsolute, ← h.scheme, ← h.host] at hv'
  scheme := h.scheme ▸ hv.scheme

/-! ## What a text begins with -/

/-- A scheme and an authority as they are written. -/
structure IsPlace (scheme authority : List Char) : Prop where
  schemeChars : ∀ c ∈ scheme, isSchemeChar c
  letter : scheme.head?.any Char.isAlpha
  authority : ∀ c ∈ authority, c ≠ '/' ∧ c ≠ '?' ∧ c ≠ '#'

/-- What may follow an authority: nothing, or a path, a query or a fragment. -/
def EndsPlace (tail : List Char) : Prop :=
  ∀ c ∈ tail.head?, c = '/' ∨ c = '?' ∨ c = '#'

/-- The beginning of an address that says where it leads. -/
def lead (scheme authority : List Char) : List Char :=
  scheme ++ ':' :: '/' :: '/' :: authority

variable {scheme authority tail : List Char}

theorem EndsPlace.append {rest : List Char} (h : EndsPlace tail) (h' : EndsPlace rest) :
    EndsPlace (tail ++ rest) := by
  intro c hc
  cases tail with
  | nil => exact h' c hc
  | cons d tail => exact h c hc

theorem EndsPlace.slash (s : List Char) : EndsPlace ('/' :: s) :=
  fun _ hc => .inl (Option.some.inj hc).symm

/-- What is left of an end that is trimmed may follow an authority as well. -/
theorem EndsPlace.dropEndWhile (h : EndsPlace tail) (p : Char → Bool) :
    EndsPlace (Text.dropEndWhile p tail) := by
  obtain ⟨rest, hrest⟩ : Text.dropEndWhile p tail <+: tail := List.rdropWhile_prefix p tail
  intro c hc
  refine h c ?_
  rw [← hrest, List.head?_append]
  exact Option.mem_def.2 (by rw [Option.mem_def.1 hc, Option.some_or])

/-- **A text is cut in front of the first character of a kind**, if it has one. -/
theorem exists_splitAt (c : Char) (s : List Char) :
    ∃ rest, s = (splitAt c s).1 ++ rest ∧ (∀ d ∈ (splitAt c s).1, d ≠ c)
      ∧ ∀ d ∈ rest.head?, d = c := by
  refine ⟨s.dropWhile (· != c), List.takeWhile_append_dropWhile.symm, fun d hd => ?_, fun d hd => ?_⟩
  · have hrun := List.mem_takeWhile_imp hd
    simpa using hrun
  · have hnot := List.head?_dropWhile_not (· != c) s
    rw [Option.mem_def.1 hd] at hnot
    simpa using hnot

/-- A colon ends a scheme. -/
theorem splitScheme_append (h : IsPlace scheme authority) (rest : List Char) :
    splitScheme (scheme ++ ':' :: rest) = (scheme, rest) := by
  have hne : scheme.isEmpty = false := by
    cases scheme with
    | nil => exact absurd h.letter Bool.false_ne_true
    | cons c scheme => rfl
  have hrun : (scheme ++ ':' :: rest).takeWhile isSchemeChar = scheme :=
    takeWhile_append_of_run h.schemeChars fun c hc => by cases hc; decide
  simp [splitScheme, hrun, h.letter]

theorem splitAt_append {c : Char} {s t : List Char} (hs : ∀ d ∈ s, d ≠ c) :
    (splitAt c (s ++ t)).1 = s ++ (splitAt c t).1 := by
  rw [splitAt, splitAt, List.takeWhile_append_of_pos fun d hd => bne_iff_ne.2 (hs d hd)]

theorem splitAt_append_snd {c : Char} {s t : List Char} (hs : ∀ d ∈ s, d ≠ c) :
    (splitAt c (s ++ t)).2 = (splitAt c t).2 := by
  rw [splitAt, splitAt, List.dropWhile_append_of_pos fun d hd => bne_iff_ne.2 (hs d hd)]

/-- **A text that begins with a scheme and an authority is told so**, and what follows them is a path,
a query and a fragment. -/
theorem ofText_lead (h : IsPlace scheme authority) (htail : EndsPlace tail) :
    Parts.ofText (lead scheme authority ++ tail) = {
      scheme, authority
      path := (splitAt '?' (splitAt '#' tail).1).1
      query := (splitAt '?' (splitAt '#' tail).1).2
      fragment := (splitAt '#' tail).2 } := by
  have hlead : lead scheme authority ++ tail = scheme ++ ':' :: ('/' :: '/' :: authority ++ tail) := by
    simp [lead]
  have hfree : ∀ {c : Char}, c ≠ '/' → (∀ d ∈ authority, d ≠ c) →
      ∀ d ∈ '/' :: '/' :: authority, d ≠ c := by
    intro c hc hauthority d hd
    simp only [List.mem_cons] at hd
    rcases hd with rfl | rfl | hd
    exacts [hc.symm, hc.symm, hauthority d hd]
  have hhash := hfree (c := '#') (by decide) fun d hd => (h.authority d hd).2.2
  have hmark := hfree (c := '?') (by decide) fun d hd => (h.authority d hd).2.1
  let path := (splitAt '?' (splitAt '#' tail).1).1
  -- Of what follows the authority, only a path is left once fragment and query are cut off.
  have hpath : ∀ c ∈ path.head?, c = '/' := by
    intro c hc
    cases tail with
    | nil => cases hc
    | cons d tail =>
      rcases htail d rfl with rfl | rfl | rfl
      · cases hc; rfl
      · cases hc
      · cases hc
  have hrun : (authority ++ path).takeWhile (· != '/') = authority :=
    takeWhile_append_of_run (fun d hd => bne_iff_ne.2 (h.authority d hd).1)
      fun c hc => by simp [hpath c hc]
  have hrest : (authority ++ path).dropWhile (· != '/') = path := by
    have hsplit := List.takeWhile_append_dropWhile (p := (· != '/')) (l := authority ++ path)
    rw [hrun] at hsplit
    exact List.append_cancel_left hsplit
  rw [hlead, Parts.ofText, splitScheme_append h]
  dsimp only
  rw [splitAt_append hhash, splitAt_append_snd hhash, splitAt_append hmark, splitAt_append_snd hmark]
  change Parts.mk scheme ((authority ++ path).takeWhile (· != '/'))
    ((authority ++ path).dropWhile (· != '/')) _ _ = _
  rw [hrun, hrest]

/-- A scheme that is told stands in front of a colon. -/
theorem eq_append_of_splitScheme {s rest : List Char} (h : splitScheme s = (scheme, rest))
    (hne : scheme ≠ []) :
    s = scheme ++ ':' :: rest ∧ (∀ c ∈ scheme, isSchemeChar c) ∧ scheme.head?.any Char.isAlpha := by
  obtain ⟨after, hs⟩ := List.takeWhile_prefix isSchemeChar (l := s)
  have hchars : ∀ c ∈ s.takeWhile isSchemeChar, isSchemeChar c := fun c hc =>
    List.mem_takeWhile_imp hc
  unfold splitScheme at h
  generalize s.takeWhile isSchemeChar = run at hs hchars h
  subst hs
  dsimp only at h
  rw [List.drop_left] at h
  split at h
  next rest' =>
    split at h
    next hletter =>
      obtain ⟨rfl, rfl⟩ := Prod.mk.inj h
      refine ⟨rfl, hchars, ?_⟩
      rw [List.isEmpty_eq_false_iff.2 hne, Bool.false_or] at hletter
      exact hletter
    next => exact absurd (Prod.mk.inj h).1.symm hne
  next => exact absurd (Prod.mk.inj h).1.symm hne

/-- **What is told to have a scheme and an authority begins with them.** -/
theorem exists_lead {s : List Char} (hscheme : (Parts.ofText s).scheme ≠ [])
    (hauthority : (Parts.ofText s).authority ≠ []) :
    ∃ scheme authority tail, IsPlace scheme authority ∧ EndsPlace tail
      ∧ s = lead scheme authority ++ tail ∧ authority ≠ [] := by
  unfold Parts.ofText at hscheme hauthority
  rcases hsplit : splitScheme s with ⟨scheme, rest⟩
  rw [hsplit] at hscheme hauthority
  dsimp only at hscheme hauthority
  obtain ⟨fragment, hrest, hfragment, hfragment'⟩ := exists_splitAt '#' rest
  generalize (splitAt '#' rest).1 = before at hrest hfragment hscheme hauthority
  obtain ⟨query, hbefore, hquery, hquery'⟩ := exists_splitAt '?' before
  generalize (splitAt '?' before).1 = place at hbefore hquery hscheme hauthority
  subst hbefore hrest
  split at hauthority
  next after =>
    obtain ⟨hs, hchars, hletter⟩ := eq_append_of_splitScheme hsplit hscheme
    obtain ⟨path, hafter, hpath, hpath'⟩ := exists_splitAt '/' after
    have hne : (splitAt '/' after).1 ≠ [] := hauthority
    generalize (splitAt '/' after).1 = authority at hafter hpath hne
    subst hafter
    refine ⟨scheme, authority, path ++ (query ++ fragment),
      ⟨hchars, hletter, fun c hc => ⟨hpath c hc, hquery c (by simp [hc]), hfragment c (by simp [hc])⟩⟩,
      ?_, by simp [hs, lead], hne⟩
    exact .append (fun c hc => .inl (hpath' c hc))
      (.append (fun c hc => .inr (.inl (hquery' c hc))) fun c hc => .inr (.inr (hfragment' c hc)))
  next => exact absurd rfl hauthority

/-! ## What an address says of where it leads -/

/-- Another path leads to the same place. -/
theorem samePlace_of_withPath {path : List Char} {query : Option (List Char)} {u v : Url}
    (h : u.withPath path query = .ok v) : v.SamePlace u := by
  unfold withPath at h
  dsimp only at h
  split at h
  next => cases h
  next =>
    split at h
    next => cases h
    next =>
      cases h
      exact ⟨rfl, rfl, rfl, rfl⟩

/-- **The scheme and the authority say where an address leads.** -/
theorem place_of_parse {text : String} {u : Url} (h : parse text = .ok u) :
    let parts := Parts.ofText text.toList
    let place := splitAuthority parts.authority
    u.scheme = parts.scheme.map Char.toLower ∧ u.user = escape userReserved place.1
      ∧ hostOf place.2.1 = .ok u.host ∧ portOf parts.scheme place.2.2 = .ok u.port := by
  dsimp only
  unfold parse at h
  dsimp only at h
  generalize Parts.ofText text.toList = parts at h ⊢
  generalize splitAuthority parts.authority = place at h ⊢
  split at h
  next => cases h
  next =>
    split at h
    next => cases h
    next =>
      generalize hhost : hostOf place.2.1 = host at h ⊢
      generalize hport : portOf parts.scheme place.2.2 = port at h ⊢
      cases host with
      | error e => cases h
      | ok host =>
        cases port with
        | error e => cases h
        | ok port =>
          have hsame := samePlace_of_withPath h
          exact ⟨hsame.scheme, hsame.user, congrArg _ hsame.host.symm, congrArg _ hsame.port.symm⟩

variable {text text' : String} {u v : Url}

/-- **Addresses that begin alike lead to the same place.** -/
theorem samePlace_of_parse (h : parse text = .ok u) (h' : parse text' = .ok v)
    (hscheme : (Parts.ofText text.toList).scheme = (Parts.ofText text'.toList).scheme)
    (hauthority : (Parts.ofText text.toList).authority = (Parts.ofText text'.toList).authority) :
    u.SamePlace v := by
  obtain ⟨hu, huser, hhost, hport⟩ := place_of_parse h
  obtain ⟨hv, huser', hhost', hport'⟩ := place_of_parse h'
  rw [hauthority] at huser hhost
  rw [hscheme] at hu
  rw [hscheme, hauthority] at hport
  exact ⟨hu.trans hv.symm, huser.trans huser'.symm, Except.ok.inj (hhost.symm.trans hhost'),
    Except.ok.inj (hport.symm.trans hport')⟩

/-- **An address that says where it leads begins so.** -/
theorem exists_lead_of_isAbsolute (h : parse text = .ok u) (habsolute : u.isAbsolute) :
    ∃ scheme authority tail, IsPlace scheme authority ∧ EndsPlace tail
      ∧ text.toList = lead scheme authority ++ tail ∧ authority ≠ [] := by
  obtain ⟨hscheme, -, hhost, -⟩ := place_of_parse h
  simp only [isAbsolute, Bool.and_eq_true, Bool.not_eq_true', List.isEmpty_eq_false_iff] at habsolute
  refine exists_lead (fun hempty => habsolute.1 ?_) fun hempty => habsolute.2 ?_
  · rw [hscheme, hempty, List.map_nil]
  · rw [hempty] at hhost
    exact (Except.ok.inj hhost).symm

/-- **Slashes that are taken away at the end, and a path that is added there, lead nowhere else.** -/
theorem samePlace_trim_append (h : parse text = .ok u) (habsolute : u.isAbsolute)
    {path : String} (hpath : EndsPlace path.toList)
    (hv : parse (String.ofList (Text.dropEndWhile (· == '/') text.toList) ++ path) = .ok v) :
    v.SamePlace u := by
  obtain ⟨scheme, authority, tail, hplace, htail, htext, hne⟩ := exists_lead_of_isAbsolute h habsolute
  -- The trimming stops at the authority.
  have htrim : Text.dropEndWhile (· == '/') (lead scheme authority ++ tail)
      = lead scheme authority ++ Text.dropEndWhile (· == '/') tail := by
    have hkeep : (lead scheme authority).reverse.dropWhile (· == '/')
        = (lead scheme authority).reverse := by
      have hlast := (hplace.authority _ (List.getLast_mem hne)).1
      rw [← List.dropLast_append_getLast hne, lead]
      simp [hlast]
    rw [Text.dropEndWhile, List.reverse_append, List.dropWhile_append, hkeep]
    split
    next hempty => simp [Text.dropEndWhile, List.isEmpty_iff.1 hempty]
    next => simp [Text.dropEndWhile]
  have htext' : (String.ofList (Text.dropEndWhile (· == '/') text.toList) ++ path).toList
      = lead scheme authority ++ (Text.dropEndWhile (· == '/') tail ++ path.toList) := by
    rw [String.toList_append, String.toList_ofList, htext, htrim, List.append_assoc]
  have hparts := ofText_lead hplace htail
  have hparts' := ofText_lead hplace ((htail.dropEndWhile (· == '/')).append hpath)
  rw [← htext] at hparts
  rw [← htext'] at hparts'
  exact samePlace_of_parse hv h (by rw [hparts', hparts]) (by rw [hparts', hparts])

end DicePool.Url
