import Bookings.Store.Faults
import Bookings.Desk.Plan

namespace Bookings

structure Service where
  store : Store
  minted : Nat

namespace Service

def world (ids : Nat → Id) (faults : Faults) : World Service where
  answer
    | c, ⟨store, minted⟩ =>
      let (a, store) := store.answerWith faults c
      (a, ⟨store, minted⟩)
  mint s := (ids s.minted, { s with minted := s.minted + 1 })

def noFaults : Faults := fun _ => none

end Service

namespace Plan

def step {σ α : Type} (w : World σ) : Plan α → σ → Plan α × σ
  | done a, s => (done a, s)
  | ask c next, s =>
    let (a, s) := w.answer c s
    (next a, s)
  | mint next, s =>
    let (id, s) := w.mint s
    (next id, s)

theorem run_step {σ α : Type} (w : World σ) (p : Plan α) (s : σ) :
    (p.step w s).1.run w (p.step w s).2 = p.run w s := by
  cases p <;> rfl

/-- Lets plans take steps in turns; a turn names the plan by its position. -/
def interleave {σ α : Type} (w : World σ) : (turns : List Nat) → List (Plan α) → σ →
    List (Plan α) × σ
  | [], plans, s => (plans, s)
  | i :: turns, plans, s =>
    match plans[i]? with
    | none => interleave w turns plans s
    | some p =>
      let (p, s) := p.step w s
      interleave w turns (plans.set i p) s

def runEach {σ α : Type} (w : World σ) : List (Plan α) → σ → List α × σ
  | [], s => ([], s)
  | p :: rest, s =>
    let (a, s) := p.run w s
    let (as, s) := runEach w rest s
    (a :: as, s)

end Plan

end Bookings
