import Bookings.Desk.Service
import Bookings.Proofs.Store.Faulty
import Bookings.Proofs.Store.Run

namespace Bookings

namespace Call

def replaces : Call → Bool
  | .replaceSchedule .. => true
  | _ => false

def Truthful (schedules : Schedules) : (c : Call) → c.Answer → Prop
  | .scheduleFor queue weekday, .ok found => found = schedules queue weekday
  | _, _ => True

end Call

/-- Every call that a plan makes is permitted under the schedules of the moment, and the rows that it adds
have all the identifiers that the plan took and did not use yet. -/
def Plan.Asks {α : Type} (permitted : Schedules → Call → Prop) (post : Schedules → List Id → α → Prop) :
    Schedules → List Id → Plan α → Prop
  | schedules, taken, .done a => post schedules taken a
  | schedules, taken, .ask c next =>
    permitted schedules c ∧ (c.newIds = [] ∨ c.newIds.Perm taken) ∧
      ∀ a later, (c.replaces = false → later = schedules) → c.Truthful schedules a →
        (next a).Asks permitted post later (if c.newIds = [] then taken else [])
  | schedules, taken, .mint next => ∀ id, (next id).Asks permitted post schedules (id :: taken)

structure Action.Asks {α : Type} (permitted : Schedules → Call → Prop) (post : Schedules → List Id → α → Prop)
    (schedules : Schedules) (taken : List Id) (x : Action α) : Prop where
  run : Plan.Asks permitted (fun schedules taken answer => match answer with
    | .ok a => post schedules taken a
    | .error _ => True) schedules taken (ExceptT.run x)

namespace Plan

variable {α β : Type} {permitted : Schedules → Call → Prop} {schedules : Schedules} {taken : List Id}

theorem asks_bind {post : Schedules → List Id → β → Prop} {p : Plan α} {f : α → Plan β} :
    (p.bind f).Asks permitted post schedules taken ↔
      p.Asks permitted (fun schedules taken a => (f a).Asks permitted post schedules taken) schedules taken := by
  induction p generalizing schedules taken with
  | done a => exact Iff.rfl
  | ask c next ih => simp only [Plan.bind, Asks, ih]
  | mint next ih => simp only [Plan.bind, Asks, ih]

theorem Asks.mono {wider : Schedules → Call → Prop} {post weaker : Schedules → List Id → α → Prop} {p : Plan α}
    (asks : p.Asks permitted post schedules taken)
    (permits : ∀ schedules c, permitted schedules c → wider schedules c)
    (weakens : ∀ schedules taken a, post schedules taken a → weaker schedules taken a) :
    p.Asks wider weaker schedules taken := by
  induction p generalizing schedules taken with
  | done a => exact weakens _ _ _ asks
  | ask c next ih =>
    obtain ⟨allowed, spends, rest⟩ := asks
    exact ⟨permits _ _ allowed, spends, fun a later kept truthful => ih a (rest a later kept truthful)⟩
  | mint next ih => exact fun id => ih id (asks id)

theorem asks_mintEach {γ : Type} {post : Schedules → List Id → List β → Prop} {f : γ → Id → β} {items : List γ}
    {made : List β} (minted : ∀ ids : List Id, ids.length = items.length →
      post schedules (ids.reverse ++ taken) (made.reverse ++ items.zipWith f ids)) :
    (mintEach f made items).Asks permitted post schedules taken := by
  induction items generalizing made taken with
  | nil => simpa [mintEach, Asks] using minted [] rfl
  | cons item items ih =>
    intro id
    apply ih
    intro ids enough
    have result := minted (id :: ids) (by simp [enough])
    simpa using result

end Plan

namespace Action

variable {α β : Type} {permitted : Schedules → Call → Prop} {post : Schedules → List Id → β → Prop}
  {schedules : Schedules} {taken : List Id}

theorem asks_pure {b : β} (holds : post schedules taken b) : Asks permitted post schedules taken (pure b) := ⟨holds⟩

theorem asks_fail {e : BookingError} : Asks permitted post schedules taken (fail e) := ⟨True.intro⟩

theorem Asks.mono {weaker : Schedules → List Id → β → Prop} {x : Action β}
    (asks : Asks permitted post schedules taken x)
    (weakens : ∀ schedules taken b, post schedules taken b → weaker schedules taken b) :
    Asks permitted weaker schedules taken x := by
  refine ⟨Plan.Asks.mono asks.run (fun _ _ allowed => allowed) ?_⟩
  intro schedules taken answer holds
  cases answer with
  | ok b => exact weakens _ _ _ holds
  | error e => exact True.intro

theorem Asks.permit {wider : Schedules → Call → Prop} {x : Action β} (asks : Asks permitted post schedules taken x)
    (permits : ∀ schedules c, permitted schedules c → wider schedules c) : Asks wider post schedules taken x :=
  ⟨Plan.Asks.mono asks.run permits fun _ _ _ holds => holds⟩

theorem asks_bind {x : Action α} {f : α → Action β}
    (first : Asks permitted (fun schedules taken a => Asks permitted post schedules taken (f a)) schedules taken x) :
    Asks permitted post schedules taken (x >>= f) := by
  have unfolded : ExceptT.run (x >>= f) = (ExceptT.run x).bind (ExceptT.bindCont f) := rfl
  constructor
  rw [unfolded, Plan.asks_bind]
  refine Plan.Asks.mono first.run (fun _ _ allowed => allowed) ?_
  intro schedules taken answer holds
  cases answer with
  | ok a => exact holds.run
  | error e => exact True.intro

theorem asks_check {r : Except BookingError α} {f : α → Action β}
    (passed : ∀ a, r = .ok a → Asks permitted post schedules taken (f a)) :
    Asks permitted post schedules taken (check r >>= f) := by
  apply asks_bind
  cases h : r with
  | ok a => exact ⟨passed a h⟩
  | error e => exact ⟨True.intro⟩

theorem asks_call (c : Call) {post : Schedules → List Id → c.Result → Prop} (allowed : permitted schedules c)
    (spends : c.newIds = [] ∨ c.newIds.Perm taken)
    (answered : ∀ a later, (c.replaces = false → later = schedules) → c.Truthful schedules (.ok a) →
      post later (if c.newIds = [] then taken else []) a) :
    Asks permitted post schedules taken (call c) := by
  refine ⟨⟨allowed, spends, ?_⟩⟩
  intro a later kept truthful
  cases a with
  | ok a => exact answered a later kept truthful
  | error e => exact True.intro

theorem asks_attempt {c : Call} {f : c.Answer → Action β} (allowed : permitted schedules c)
    (plain : c.newIds = []) (keeps : c.replaces = false)
    (answered : ∀ a, Asks permitted post schedules taken (f a)) :
    Asks permitted post schedules taken (attempt c >>= f) := by
  apply asks_bind
  refine ⟨⟨allowed, .inl plain, ?_⟩⟩
  intro a later kept truthful
  rw [kept keeps, if_pos plain]
  exact answered a

theorem asks_read {c : Call} {f : c.Result → Action β} (allowed : permitted schedules c)
    (plain : c.newIds = []) (keeps : c.replaces = false)
    (answered : ∀ a, c.Truthful schedules (.ok a) → Asks permitted post schedules taken (f a)) :
    Asks permitted post schedules taken (call c >>= f) := by
  apply asks_bind
  apply asks_call c allowed (.inl plain)
  intro a later kept truthful
  rw [kept keeps, if_pos plain]
  exact answered a truthful

theorem asks_newId {f : Id → Action β} (minted : ∀ id, Asks permitted post schedules (id :: taken) (f id)) :
    Asks permitted post schedules taken (newId >>= f) := asks_bind ⟨minted⟩

theorem asks_mintEach {γ : Type} {f : γ → Id → α} {items : List γ} {g : List α → Action β}
    (minted : ∀ ids : List Id, ids.length = items.length →
      Asks permitted post schedules (ids.reverse ++ taken) (g (items.zipWith f ids))) :
    Asks permitted post schedules taken (mintEach f items >>= g) := by
  apply asks_bind
  constructor
  rw [mintEach, ExceptT.run_mk, Plan.asks_bind]
  exact Plan.asks_mintEach minted

end Action

end Bookings
