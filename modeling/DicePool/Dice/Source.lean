import DicePool.Dice.Face

/-!
# Dice/Source — where faces come from

A `Source` is a state from which faces are drawn one at a time; it may fail in any way of its own.  A
`Script` hands out a fixed list and then nothing more.  A `Recorder` draws from another source and keeps
what it handed out, so that the same roll can be replayed from a script.
-/

namespace DicePool

/-- Why a source hands out no face. -/
inductive Exhausted where
  /-- A script is at its end; it held `length` faces. -/
  | script (length : Nat)
  /-- The source failed in a way of its own, which has a kind and a text. -/
  | own (kind text : String)
deriving DecidableEq, Repr

/-- The text of the failure. -/
def Exhausted.message : Exhausted → String
  | .script length => s!"Scripted dice exhausted after {length} draws"
  | .own _ text => text

/-- A state from which faces are drawn. -/
class Source (σ : Type) where
  /-- The next face, or the failure, and the state afterwards. -/
  draw : σ → Except Exhausted Face × σ

/-- A fixed list of faces. -/
structure Script where
  /-- How many faces were handed out. -/
  drawn : Nat
  /-- The faces that are left. -/
  rest : List Face

namespace Script

/-- A script from its faces. -/
def ofList (faces : List Face) : Script := ⟨0, faces⟩

/-- How many faces are left. -/
def remaining (s : Script) : Nat := s.rest.length

/-- The next face of a script; a failed draw changes nothing. -/
def draw : Script → Except Exhausted Face × Script
  | ⟨drawn, []⟩ => (.error (.script drawn), ⟨drawn, []⟩)
  | ⟨drawn, f :: rest⟩ => (.ok f, ⟨drawn + 1, rest⟩)

instance : Source Script := ⟨draw⟩

end Script

/-- A source together with the faces that were drawn through this recorder. -/
structure Recorder (σ : Type) where
  /-- The source behind the recorder. -/
  inner : σ
  /-- The faces handed out so far, in order. -/
  draws : Array Face

namespace Recorder

variable {σ : Type}

/-- A recorder that has handed out nothing yet. -/
def ofSource (inner : σ) : Recorder σ := ⟨inner, #[]⟩

/-- The next face of the source behind, which is also kept. -/
def draw [Source σ] : Recorder σ → Except Exhausted Face × Recorder σ
  | ⟨inner, draws⟩ =>
    match Source.draw inner with
    | (.error e, inner) => (.error e, ⟨inner, draws⟩)
    | (.ok f, inner) => (.ok f, ⟨inner, draws.push f⟩)

instance [Source σ] : Source (Recorder σ) := ⟨draw⟩

/-- A script of what was handed out so far. -/
def replay (r : Recorder σ) : Script := .ofList r.draws.toList

end Recorder

/-- Draws up to `n` faces: those drawn, the failure if there was one, and the source afterwards. -/
def drawUpTo {σ : Type} [Source σ] : Nat → σ → List Face × Option Exhausted × σ
  | 0, s => ([], none, s)
  | n + 1, s =>
    match Source.draw s with
    | (.error e, s) => ([], some e, s)
    | (.ok f, s) =>
      let (fs, e, s) := drawUpTo n s
      (f :: fs, e, s)

end DicePool
