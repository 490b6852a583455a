import Bookings.Store.Call
import Bookings.Desk.Error

namespace Bookings

inductive Plan (α : Type) where
  | done (a : α)
  | ask (c : Call) (next : c.Answer → Plan α)
  | mint (next : Id → Plan α)

namespace Plan

variable {α β : Type}

def bind : Plan α → (α → Plan β) → Plan β
  | done a, f => f a
  | ask c next, f => ask c fun a => (next a).bind f
  | mint next, f => mint fun id => (next id).bind f

instance : Monad Plan where
  pure := done
  bind := bind

theorem bind_done (p : Plan α) : p.bind done = p := by
  induction p with
  | done a => rfl
  | ask c next ih => simp only [bind, ih]
  | mint next ih => simp only [bind, ih]

/-- A new identifier for each item, behind the results for earlier items, latest first. -/
def mintEach (f : α → Id → β) (made : List β) : List α → Plan (List β)
  | [] => done made.reverse
  | a :: rest => mint fun id => mintEach f (f a id :: made) rest

end Plan

/-- How a world of states `σ` answers calls and makes identifiers. -/
structure World (σ : Type) where
  answer : (c : Call) → σ → c.Answer × σ
  mint : σ → Id × σ

def Plan.run {σ α : Type} (w : World σ) : Plan α → σ → α × σ
  | done a, s => (a, s)
  | ask c next, s =>
    let (a, s) := w.answer c s
    (next a).run w s
  | mint next, s =>
    let (id, s) := w.mint s
    (next id).run w s

theorem Plan.run_bind {σ α β : Type} (w : World σ) (p : Plan α) (f : α → Plan β) (s : σ) :
    (p.bind f).run w s = (f (p.run w s).1).run w (p.run w s).2 := by
  induction p generalizing s with
  | done a => rfl
  | ask c next ih => simp only [Plan.bind, Plan.run, ih]
  | mint next ih => simp only [Plan.bind, Plan.run, ih]

abbrev Action (α : Type) : Type := ExceptT BookingError Plan α

namespace Action

def fail {α : Type} (e : BookingError) : Action α := ExceptT.mk (Plan.done (.error e))

def check {α : Type} (r : Except BookingError α) : Action α := ExceptT.mk (Plan.done r)

def attempt (c : Call) : Action c.Answer := ExceptT.mk (Plan.ask c fun a => .done (.ok a))

def call (c : Call) : Action c.Result :=
  ExceptT.mk (Plan.ask c fun a => .done (a.mapError BookingError.ofStore))

def newId : Action Id := ExceptT.mk (Plan.mint fun id => .done (.ok id))

def mintEach {α β : Type} (f : α → Id → β) (items : List α) : Action (List β) :=
  ExceptT.mk ((Plan.mintEach f [] items).bind fun made => .done (.ok made))

end Action

end Bookings
