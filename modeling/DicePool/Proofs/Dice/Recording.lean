import DicePool.Dice.Source
import Mathlib.Data.List.Basic

/-!
# Proofs/Dice/Recording — a recorder, the script behind it, and its replays

A recorder draws from a script, faces may be taken from the script past the recorder, and replays are made of
what was recorded and drawn from in their turn, in any order. Main statement `Recording.runs_in_step`: the
script hands out its faces in order, the recorder has kept those that went through it, and a replay hands out
what was recorded when it was made, whatever else is drawn.

All of it is read off one step at a time: what a step takes from the script (`rest_step`), adds to the
recorder (`draws_step`), and leaves of a replay (`replays_step`).
-/

namespace DicePool

/-- How many faces a script held when nothing was drawn yet. -/
def Script.length (s : Script) : Nat := s.drawn + s.rest.length

/-- A recorder on a script, with the replays that were made of it. -/
structure Recording where
  /-- The recorder, with the script behind it. -/
  recorder : Recorder Script
  /-- The replays, in the order in which they were made. -/
  replays : List Script := []

namespace Recording

/-- A step that may be taken. -/
inductive Step where
  /-- Draws through the recorder. -/
  | record
  /-- Draws from the script, past the recorder. -/
  | bypass
  /-- Makes a replay of what was recorded so far. -/
  | snapshot
  /-- Draws from the replay of this number, if there is one. -/
  | replay (i : Nat)
deriving DecidableEq, Repr

/-- Whether the step draws from the script. -/
def Step.takesFromScript : Step → Bool
  | .record | .bypass => true
  | .snapshot | .replay _ => false

/-- What comes of a draw. -/
abbrev Outcome := Except Exhausted Face

/-- Nothing was drawn yet. -/
def ofFaces (faces : List Face) : Recording :=
  { recorder := .ofSource (.ofList faces) }

/-- Takes a step: the outcome, if it is a draw, and what there is afterwards. -/
def step (r : Recording) : Step → Option Outcome × Recording
  | .record =>
    let (outcome, recorder) := Source.draw r.recorder
    (some outcome, { r with recorder })
  | .bypass =>
    let (outcome, inner) := Source.draw r.recorder.inner
    (some outcome, { r with recorder := { r.recorder with inner } })
  | .snapshot => (none, { r with replays := r.replays ++ [r.recorder.replay] })
  | .replay i => match r.replays[i]? with
    | some script =>
      let (outcome, script) := Source.draw script
      (some outcome, { r with replays := r.replays.set i script })
    | none => (none, r)

/-- What there is after steps. -/
def after : Recording → List Step → Recording
  | r, [] => r
  | r, s :: steps => (r.step s).2.after steps

/-- The draws among steps, each with its outcome. -/
def log : Recording → List Step → List (Step × Outcome)
  | _, [] => []
  | r, s :: steps => ((r.step s).1.map (s, ·)).toList ++ (r.step s).2.log steps

/-- The faces that draws of a kind handed out. -/
def facesOf (kind : Step → Bool) (log : List (Step × Outcome)) : List Face :=
  log.filterMap fun draw => if kind draw.1 then draw.2.toOption else none

/-- The outcomes of the draws from a replay. -/
def answersOf (i : Nat) (log : List (Step × Outcome)) : List Outcome :=
  log.filterMap fun draw => if draw.1 = .replay i then some draw.2 else none

variable {r r' : Recording} {s : Step} {script : Script} {i : Nat}

/-! ## One step -/

/-- How a draw from a script ends, and what it leaves. -/
theorem draw_of_nil {n : Nat} : Source.draw (⟨n, []⟩ : Script) = (.error (.script n), ⟨n, []⟩) := rfl

theorem draw_of_cons {n : Nat} {f : Face} {rest : List Face} :
    Source.draw (⟨n, f :: rest⟩ : Script) = (.ok f, ⟨n + 1, rest⟩) := rfl

theorem step_replay_of_some (h : r.replays[i]? = some script) :
    r.step (.replay i) = (some (Source.draw script).1,
      { r with replays := r.replays.set i (Source.draw script).2 }) := by
  rw [step, h]

theorem step_replay_of_none (h : r.replays[i]? = none) : r.step (.replay i) = (none, r) := by
  rw [step, h]

/-- A replay that is drawn from leaves the recorder and its script alone. -/
theorem recorder_step_replay (r : Recording) (i : Nat) : (r.step (.replay i)).2.recorder = r.recorder := by
  cases h : r.replays[i]? with
  | none => rw [step_replay_of_none h]
  | some script => rw [step_replay_of_some h]

/-- What a step adds to the log. -/
def entry (r : Recording) (s : Step) : List (Step × Outcome) :=
  ((r.step s).1.map (s, ·)).toList

theorem step_of_mem_entry {draw : Step × Outcome} (h : draw ∈ r.entry s) : draw.1 = s := by
  simp only [entry, Option.mem_toList, Option.map_eq_some_iff] at h
  obtain ⟨_, -, rfl⟩ := h
  rfl

theorem facesOf_entry_of_not {kind : Step → Bool} (h : kind s = false) :
    facesOf kind (r.entry s) = [] := by
  refine List.filterMap_eq_nil_iff.2 fun draw hdraw => ?_
  rw [step_of_mem_entry hdraw, h]
  rfl

/-- **A step takes from the script what it hands out of it.** -/
theorem rest_step (r : Recording) (s : Step) :
    facesOf Step.takesFromScript (r.entry s) ++ (r.step s).2.recorder.inner.rest
      = r.recorder.inner.rest := by
  cases s with
  | record | bypass =>
    obtain ⟨⟨⟨n, rest⟩, draws⟩, replays⟩ := r
    cases rest <;> rfl
  | snapshot => rfl
  | replay i => rw [facesOf_entry_of_not rfl, recorder_step_replay, List.nil_append]

/-- The script still held as many faces. -/
theorem length_step (r : Recording) (s : Step) :
    (r.step s).2.recorder.inner.length = r.recorder.inner.length := by
  cases s with
  | record | bypass =>
    obtain ⟨⟨⟨n, rest⟩, draws⟩, replays⟩ := r
    cases rest with
    | nil => rfl
    | cons f rest => exact Nat.succ_add_eq_add_succ n rest.length
  | snapshot => rfl
  | replay i => rw [recorder_step_replay]

/-- **A recorder keeps what is handed out through it**, and nothing else. -/
theorem draws_step (r : Recording) (s : Step) :
    (r.step s).2.recorder.draws.toList
      = r.recorder.draws.toList ++ facesOf (· = .record) (r.entry s) := by
  cases s with
  | record =>
    obtain ⟨⟨⟨n, rest⟩, draws⟩, replays⟩ := r
    cases rest with
    | nil => simp [step, entry, facesOf, Source.draw, Recorder.draw, Script.draw, Except.toOption]
    | cons f rest =>
      simp [step, entry, facesOf, Source.draw, Recorder.draw, Script.draw, Except.toOption]
  | bypass =>
    rw [facesOf_entry_of_not rfl, List.append_nil]
    rfl
  | snapshot => exact (List.append_nil _).symm
  | replay i => rw [facesOf_entry_of_not rfl, recorder_step_replay, List.append_nil]

/-- **Only draws from a replay change it.** -/
theorem replays_step (h : r.replays[i]? = some script) (hs : s ≠ .replay i) :
    (r.step s).2.replays[i]? = some script ∧ answersOf i (r.entry s) = [] := by
  refine ⟨?_, List.filterMap_eq_nil_iff.2 fun draw hdraw => ?_⟩
  · cases s with
    | record | bypass => exact h
    | snapshot =>
      change (r.replays ++ _)[i]? = _
      rwa [List.getElem?_append_left (List.getElem?_eq_some_iff.1 h).1]
    | replay j =>
      have hij : j ≠ i := fun hij => hs (congrArg Step.replay hij)
      cases hj : r.replays[j]? with
      | none => rwa [step_replay_of_none hj]
      | some _ =>
        rw [step_replay_of_some hj]
        change (r.replays.set j _)[i]? = _
        rwa [List.getElem?_set_ne hij]
  · rw [step_of_mem_entry hdraw, if_neg hs]

/-- **The step is the same whatever replays there are**, if it draws from the script. -/
theorem step_congr (h : r.recorder = r'.recorder) (hs : s.takesFromScript) :
    r.entry s = r'.entry s ∧ (r.step s).2.recorder = (r'.step s).2.recorder := by
  cases s with
  | record | bypass => simp only [entry, step, h, and_self]
  | snapshot | replay => cases hs

/-! ## Many steps -/

theorem log_cons (r : Recording) (s : Step) (steps : List Step) :
    r.log (s :: steps) = r.entry s ++ (r.step s).2.log steps := rfl

theorem facesOf_append (kind : Step → Bool) (l l' : List (Step × Outcome)) :
    facesOf kind (l ++ l') = facesOf kind l ++ facesOf kind l' :=
  List.filterMap_append

/-- **The script hands out its faces in order.** -/
theorem rest_after (r : Recording) (steps : List Step) :
    facesOf Step.takesFromScript (r.log steps) ++ (r.after steps).recorder.inner.rest
      = r.recorder.inner.rest := by
  induction steps generalizing r with
  | nil => rfl
  | cons s steps ih => rw [log_cons, facesOf_append, List.append_assoc, after, ih, rest_step]

theorem length_after (r : Recording) (steps : List Step) :
    (r.after steps).recorder.inner.length = r.recorder.inner.length := by
  induction steps generalizing r with
  | nil => rfl
  | cons s steps ih => rw [after, ih, length_step]

/-- **The recorder has kept what was handed out through it.** -/
theorem draws_after (r : Recording) (steps : List Step) :
    (r.after steps).recorder.draws.toList
      = r.recorder.draws.toList ++ facesOf (· = .record) (r.log steps) := by
  induction steps generalizing r with
  | nil => exact (List.append_nil _).symm
  | cons s steps ih => rw [log_cons, facesOf_append, after, ih, draws_step, List.append_assoc]

/-- The outcomes of so many draws from a script: its faces in order, and then failures. -/
def answers (n : Nat) (script : Script) : List Outcome :=
  (script.rest.take n).map .ok
    ++ List.replicate (n - script.rest.length) (.error (.script script.length))

/-- **Drawing once more is drawing, and then drawing from what is left.** -/
theorem answers_succ (n : Nat) (script : Script) :
    answers (n + 1) script = (Source.draw script).1 :: answers n (Source.draw script).2 := by
  obtain ⟨k, rest⟩ := script
  cases rest with
  | nil => simp [answers, draw_of_nil, Script.length, List.replicate_succ]
  | cons f rest =>
    have hlen : k + (rest.length + 1) = k + 1 + rest.length := by omega
    simp [answers, draw_of_cons, Script.length, hlen]

theorem answersOf_append (i : Nat) (l l' : List (Step × Outcome)) :
    answersOf i (l ++ l') = answersOf i l ++ answersOf i l' :=
  List.filterMap_append

/-- **A replay answers the draws from it as a script does**, whatever steps are taken between them. -/
theorem answersOf_log (h : r.replays[i]? = some script) (steps : List Step) :
    answersOf i (r.log steps) = answers (steps.count (.replay i)) script := by
  induction steps generalizing r script with
  | nil => simp [log, answersOf, answers]
  | cons s steps ih =>
    rw [log_cons, answersOf_append]
    by_cases hs : s = .replay i
    · subst hs
      have hnext : (r.step (.replay i)).2.replays[i]? = some (Source.draw script).2 := by
        rw [step_replay_of_some h]
        exact List.getElem?_set_self (List.getElem?_eq_some_iff.1 h).1
      rw [List.count_cons_self, answers_succ, ih hnext, entry, step_replay_of_some h]
      simp [answersOf]
    · obtain ⟨hkept, hnone⟩ := replays_step h hs
      rw [hnone, List.nil_append, ih hkept, List.count_cons_of_ne hs]

/-- **The script and the recorder are the same without replays.** -/
theorem log_filter (h : r.recorder = r'.recorder) (steps : List Step) :
    r'.log (steps.filter Step.takesFromScript)
        = (r.log steps).filter (fun draw => draw.1.takesFromScript) ∧
      (r'.after (steps.filter Step.takesFromScript)).recorder = (r.after steps).recorder := by
  induction steps generalizing r r' with
  | nil => exact ⟨rfl, h.symm⟩
  | cons s steps ih =>
    rw [log_cons, List.filter_append, after]
    by_cases hs : s.takesFromScript
    · obtain ⟨hentry, hnext⟩ := step_congr h hs
      have hkept : (r.entry s).filter (fun draw => draw.1.takesFromScript) = r.entry s :=
        List.filter_eq_self.2 fun draw hdraw => by rw [step_of_mem_entry hdraw, hs]
      rw [List.filter_cons_of_pos hs, log_cons, after, hkept, (ih hnext).1, (ih hnext).2, hentry]
      exact ⟨rfl, rfl⟩
    · have hdropped : (r.entry s).filter (fun draw => draw.1.takesFromScript) = [] :=
        List.filter_eq_nil_iff.2 fun draw hdraw => by rwa [step_of_mem_entry hdraw]
      have hnext : (r.step s).2.recorder = r'.recorder := by
        rw [← h]
        cases s with
        | record | bypass => exact absurd rfl hs
        | snapshot => rfl
        | replay i => exact recorder_step_replay r i
      rw [List.filter_cons_of_neg hs, hdropped, List.nil_append]
      exact ih hnext

/-- **What a step does to a script with faces left, and to one without.** -/
theorem step_of_rest (r : Recording) : match r.recorder.inner.rest with
    | [] => r.step .record = (some (.error (.script r.recorder.inner.length)), r) ∧
        r.step .bypass = (some (.error (.script r.recorder.inner.length)), r)
    | f :: _ => (r.step .record).1 = some (.ok f) ∧ (r.step .bypass).1 = some (.ok f) := by
  obtain ⟨⟨⟨n, rest⟩, draws⟩, replays⟩ := r
  cases rest <;> exact ⟨rfl, rfl⟩

/-- **Recorder and script stay in step, and replays keep out of it** — after any steps:

* what was handed out, through the recorder and past it, is a beginning of the script, and as many faces
  remain as stand behind;
* the recorder has kept what was handed out through it, in order;
* a draw hands out the face that stands next, or fails and changes nothing if there is none;
* a replay that is made now hands out what was recorded until now, in order, and then only fails, whatever
  steps are taken in between;
* and all draws from the script end as they do if no replay is made or drawn from. -/
theorem runs_in_step (faces : List Face) (past : List Step) :
    let now := (ofFaces faces).after past
    let handed := facesOf Step.takesFromScript ((ofFaces faces).log past)
    let kept := facesOf (· = .record) ((ofFaces faces).log past)
    (∃ rest, faces = handed ++ rest ∧ now.recorder.inner.remaining = rest.length ∧
        match rest with
        | [] => now.step .record = (some (.error (.script faces.length)), now) ∧
            now.step .bypass = (some (.error (.script faces.length)), now)
        | f :: _ => (now.step .record).1 = some (.ok f) ∧ (now.step .bypass).1 = some (.ok f)) ∧
      now.recorder.draws.toList = kept ∧
      ∀ more : List Step,
        answersOf now.replays.length (now.log (.snapshot :: more))
            = (kept.take (more.count (.replay now.replays.length))).map .ok
              ++ List.replicate (more.count (.replay now.replays.length) - kept.length)
                (.error (.script kept.length)) ∧
          now.log (more.filter Step.takesFromScript)
            = (now.log more).filter (fun draw => draw.1.takesFromScript) ∧
          (now.after (more.filter Step.takesFromScript)).recorder = (now.after more).recorder := by
  intro now handed kept
  have hrest : handed ++ now.recorder.inner.rest = faces := rest_after (ofFaces faces) past
  have hlength : now.recorder.inner.length = faces.length :=
    (length_after (ofFaces faces) past).trans (Nat.zero_add _)
  have hkept : now.recorder.draws.toList = kept := draws_after (ofFaces faces) past
  refine ⟨⟨now.recorder.inner.rest, hrest.symm, rfl, ?_⟩, hkept, fun more => ⟨?_, log_filter rfl more⟩⟩
  · have hstep := step_of_rest now
    rwa [hlength] at hstep
  · have hmade : (now.step .snapshot).2.replays[now.replays.length]? = some now.recorder.replay :=
      List.getElem?_concat_length
    rw [log_cons]
    change answersOf _ ((now.step .snapshot).2.log more) = _
    rw [answersOf_log hmade, answers, ← hkept]
    simp [Recorder.replay, Script.ofList, Script.length]

/-- The replay is drawn from while the recorder goes on, and ends where it was made. -/
example (f g : Face) :
    (ofFaces [f, g]).log [.record, .snapshot, .record, .replay 0, .bypass, .replay 0]
      = [(.record, .ok f), (.record, .ok g), (.replay 0, .ok f), (.bypass, .error (.script 2)),
        (.replay 0, .error (.script 1))] := rfl

end Recording

end DicePool
