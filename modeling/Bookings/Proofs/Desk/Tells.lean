import Bookings.Proofs.Desk.Runs

namespace Bookings

def Quiet (told : List Exchange) : Prop := ∀ x ∈ told, x.call.reads = true

theorem quiet_nil : Quiet [] := fun _ member => absurd member List.not_mem_nil

theorem Quiet.snoc {told : List Exchange} {x : Exchange} (quiet : Quiet told) (reads : x.call.reads = true) :
    Quiet (told ++ [x]) := by
  intro y member
  rcases List.mem_append.mp member with old | last
  · exact quiet y old
  · rw [List.mem_singleton.mp last]
    exact reads

theorem Quiet.not_mem {told : List Exchange} {x : Exchange} (quiet : Quiet told) (writes : x.call.reads = false) :
    x ∉ told := by
  intro member
  rw [quiet x member] at writes
  contradiction

theorem Quiet.mem_append {told more : List Exchange} {x : Exchange} (quiet : Quiet told)
    (writes : x.call.reads = false) : x ∈ told ++ more ↔ x ∈ more := by
  rw [List.mem_append, or_iff_right (quiet.not_mem writes)]

namespace Store

theorem answer_of_reads (s : Store) {c : Call} (reads : c.reads = true) : (s.answer c).2 = s := by
  cases c <;> first | rfl | contradiction

theorem answerWith_of_reads (s : Store) (faults : Faults) {c : Call} (reads : c.reads = true) :
    (s.answerWith faults c).2 = s := by
  rcases s.answerWith_cases faults c with ⟨e, failed⟩ | ⟨_, kept⟩ | same
  · rw [failed]
  · exact kept
  · rw [same]
    exact s.answer_of_reads reads

/-- The store answers calls one after another. -/
def Answers (faults : Faults) : Store → List Exchange → Store → Prop
  | s, [], t => t = s
  | s, x :: xs, t => ∃ between, s.answerWith faults x.call = (x.answer, between) ∧ between.Answers faults xs t

theorem Answers.of_quiet {faults : Faults} {s t : Store} {told xs : List Exchange}
    (answers : s.Answers faults (told ++ xs) t) (quiet : Quiet told) :
    s.Answers faults xs t ∧ ∀ x ∈ told, (s.answerWith faults x.call).1 = x.answer := by
  induction told with
  | nil => exact ⟨answers, fun _ member => absurd member List.not_mem_nil⟩
  | cons x told ih =>
    obtain ⟨first, others⟩ := List.forall_mem_cons.mp quiet
    obtain ⟨between, given, rest⟩ := answers
    have kept := s.answerWith_of_reads faults first
    rw [given] at kept
    cases kept
    obtain ⟨remaining, heard⟩ := ih rest others
    exact ⟨remaining, List.forall_mem_cons.mpr ⟨congrArg Prod.fst given, heard⟩⟩

theorem Answers.quiet {faults : Faults} {s t : Store} {told : List Exchange} (answers : s.Answers faults told t)
    (quiet : Quiet told) : t = s := by
  rw [← List.append_nil told] at answers
  exact (answers.of_quiet quiet).1

end Store

namespace Plan

variable {α β : Type} {post : List Exchange → List Id → α → Prop} {told : List Exchange} {taken : List Id}

/-- However its calls are answered and whatever identifiers it takes, what a plan ends in fits them. -/
def Tells (post : List Exchange → List Id → α → Prop) : List Exchange → List Id → Plan α → Prop
  | told, taken, .done a => post told taken a
  | told, taken, .ask c next => ∀ a, (next a).Tells post (told ++ [⟨c, a⟩]) taken
  | told, taken, .mint next => ∀ id, (next id).Tells post told (taken ++ [id])

theorem tells_bind {post : List Exchange → List Id → β → Prop} {p : Plan α} {f : α → Plan β} :
    (p.bind f).Tells post told taken ↔ p.Tells (fun told taken a => (f a).Tells post told taken) told taken := by
  induction p generalizing told taken with
  | done a => exact Iff.rfl
  | ask c next ih => simp only [Plan.bind, Tells, ih]
  | mint next ih => simp only [Plan.bind, Tells, ih]

theorem Tells.mono {weaker : List Exchange → List Id → α → Prop} {p : Plan α} (tells : p.Tells post told taken)
    (weakens : ∀ told taken a, post told taken a → weaker told taken a) : p.Tells weaker told taken := by
  induction p generalizing told taken with
  | done a => exact weakens _ _ _ tells
  | ask c next ih => exact fun a => ih a (tells a)
  | mint next ih => exact fun id => ih id (tells id)

theorem Tells.exists_end {p : Plan α} (tells : p.Tells post told taken) :
    ∃ more drawn a, post (told ++ more) (taken ++ drawn) a := by
  induction p generalizing told taken with
  | done a =>
    refine ⟨[], [], a, ?_⟩
    rw [List.append_nil, List.append_nil]
    exact tells
  | ask c next ih =>
    obtain ⟨more, drawn, a, holds⟩ := ih (.error (.notFound default)) (tells _)
    rw [List.append_assoc] at holds
    exact ⟨_, drawn, a, holds⟩
  | mint next ih =>
    obtain ⟨more, drawn, a, holds⟩ := ih default (tells default)
    rw [List.append_assoc] at holds
    exact ⟨more, _, a, holds⟩

def exchanges (w : World Service) : Plan α → Service → List Exchange
  | .done _, _ => []
  | .ask c next, s => ⟨c, (w.answer c s).1⟩ :: (next (w.answer c s).1).exchanges w (w.answer c s).2
  | .mint next, s => (next (w.mint s).1).exchanges w (w.mint s).2

theorem answers_exchanges (p : Plan α) (ids : Nat → Id) (faults : Faults) (s : Service) :
    s.store.Answers faults (p.exchanges (Service.world ids faults) s) (p.run (Service.world ids faults) s).2.store := by
  induction p generalizing s with
  | done a => rfl
  | ask c next ih => exact ⟨_, rfl, ih (s.store.answerWith faults c).1 ⟨(s.store.answerWith faults c).2, s.minted⟩⟩
  | mint next ih => exact ih (ids s.minted) ⟨s.store, s.minted + 1⟩

theorem Tells.exchanges {p : Plan α} (tells : p.Tells post told taken) (ids : Nat → Id) (faults : Faults) (s : Service) :
    post (told ++ p.exchanges (Service.world ids faults) s)
      (taken ++ s.coming ids (p.run (Service.world ids faults) s).2.minted) (p.run (Service.world ids faults) s).1 := by
  induction p generalizing told taken s with
  | done a =>
    rw [Plan.exchanges, Plan.run, Service.coming, Nat.sub_self, List.append_nil]
    exact (List.append_nil taken).symm ▸ tells
  | ask c next ih =>
    have holds := ih _ (tells (s.store.answerWith faults c).1) ⟨(s.store.answerWith faults c).2, s.minted⟩
    rw [List.append_assoc] at holds
    exact holds
  | mint next ih =>
    have holds := ih _ (tells (ids s.minted)) ⟨s.store, s.minted + 1⟩
    have enough := minted_le_run ids faults (next (ids s.minted)) ⟨s.store, s.minted + 1⟩
    rw [List.append_assoc] at holds
    have drawn : s.coming ids ((mint next).run (Service.world ids faults) s).2.minted = ids s.minted :: _ :=
      Service.coming_cons enough
    rw [drawn]
    exact holds

theorem Tells.run {p : Plan α} (tells : p.Tells post told taken) (ids : Nat → Id) (faults : Faults) (s : Service) :
    ∃ xs, s.store.Answers faults xs (p.run (Service.world ids faults) s).2.store ∧
      post (told ++ xs) (taken ++ s.coming ids (p.run (Service.world ids faults) s).2.minted)
        (p.run (Service.world ids faults) s).1 :=
  ⟨_, p.answers_exchanges ids faults s, tells.exchanges ids faults s⟩

theorem tells_mintEach {γ : Type} {post : List Exchange → List Id → List β → Prop} {f : γ → Id → β} {items : List γ}
    {made : List β} (minted : ∀ ids : List Id, ids.length = items.length →
      post told (taken ++ ids) (made.reverse ++ items.zipWith f ids)) :
    (mintEach f made items).Tells post told taken := by
  induction items generalizing made taken with
  | nil => simpa [mintEach, Tells] using minted [] rfl
  | cons item items ih =>
    intro id
    refine ih fun ids enough => ?_
    have result := minted (id :: ids) (by rw [List.length_cons, List.length_cons, enough])
    simpa using result

def hear? (w : World Service) (s : Service) : Plan α → Option Exchange
  | .done _ => none
  | .ask c _ => some ⟨c, (w.answer c s).1⟩
  | .mint _ => none

/-- What the plan at a position hears while plans take steps in turns. -/
def hears (w : World Service) : (turns : List Nat) → List (Plan α) → Service → Nat → List Exchange
  | [], _, _, _ => []
  | i :: turns, plans, s, j =>
    match plans[i]? with
    | none => hears w turns plans s j
    | some p =>
      (if i = j then (p.hear? w s).toList else []) ++ hears w turns (plans.set i (p.step w s).1) (p.step w s).2 j

theorem Tells.step {p : Plan α} (w : World Service) (s : Service) (tells : p.Tells post told taken) :
    ∃ drawn, (p.step w s).1.Tells post (told ++ (p.hear? w s).toList) (taken ++ drawn) := by
  cases p with
  | done a =>
    refine ⟨[], ?_⟩
    rw [hear?, Option.toList_none, List.append_nil, List.append_nil]
    exact tells
  | ask c next =>
    refine ⟨[], ?_⟩
    rw [List.append_nil]
    exact tells (w.answer c s).1
  | mint next =>
    refine ⟨[(w.mint s).1], ?_⟩
    rw [hear?, Option.toList_none, List.append_nil]
    exact tells (w.mint s).1

/-- A plan among others has heard what the turns let it hear, and is still one that fits. -/
theorem Tells.interleave (w : World Service) (turns : List Nat) (s : Service) {plans : List (Plan α)} {j : Nat}
    {p : Plan α} (chosen : plans[j]? = some p) (tells : p.Tells post told taken) :
    ∃ q drawn, (Plan.interleave w turns plans s).1[j]? = some q ∧
      q.Tells post (told ++ hears w turns plans s j) (taken ++ drawn) := by
  induction turns generalizing plans s p told taken with
  | nil =>
    refine ⟨p, [], chosen, ?_⟩
    rw [hears, List.append_nil, List.append_nil]
    exact tells
  | cons i turns ih =>
    rw [Plan.interleave, hears]
    cases turn : plans[i]? with
    | none => exact ih s chosen tells
    | some mover =>
      dsimp only
      by_cases own : i = j
      · subst own
        cases turn.symm.trans chosen
        obtain ⟨first, moved⟩ := tells.step w s
        have stays : (plans.set i (p.step w s).1)[i]? = some (p.step w s).1 := by
          rw [List.getElem?_set_self (List.getElem?_eq_some_iff.mp chosen).1]
        obtain ⟨q, drawn, final, fits⟩ := ih _ stays moved
        refine ⟨q, first ++ drawn, final, ?_⟩
        rw [if_pos rfl, ← List.append_assoc, ← List.append_assoc]
        exact fits
      · have stays : (plans.set i (mover.step w s).1)[j]? = some p := by rw [List.getElem?_set_ne own, chosen]
        rw [if_neg own]
        exact ih _ stays tells

end Plan

namespace Action

variable {α β : Type} {post : List Exchange → List Id → Except BookingError β → Prop} {told : List Exchange}
  {taken : List Id}

/-- What an action ends in fits the calls and the identifiers. -/
structure Tells (post : List Exchange → List Id → Except BookingError α → Prop) (told : List Exchange) (taken : List Id)
    (x : Action α) : Prop where
  run : Plan.Tells post told taken (ExceptT.run x)

theorem tells_pure {b : β} (holds : post told taken (.ok b)) : (pure b : Action β).Tells post told taken := ⟨holds⟩

theorem tells_fail {e : BookingError} (holds : post told taken (.error e)) :
    (fail e : Action β).Tells post told taken := ⟨holds⟩

theorem Tells.mono {weaker : List Exchange → List Id → Except BookingError β → Prop} {x : Action β}
    (tells : x.Tells post told taken)
    (weakens : ∀ told taken answer, post told taken answer → weaker told taken answer) :
    x.Tells weaker told taken := ⟨Plan.Tells.mono tells.run weakens⟩

theorem Tells.bind_done {γ : Type} {post : List Exchange → List Id → γ → Prop} {x : Action β}
    {f : Except BookingError β → γ} (tells : x.Tells (fun told taken answer => post told taken (f answer)) told taken) :
    ((ExceptT.run x).bind fun answer => .done (f answer)).Tells post told taken := by
  rw [Plan.tells_bind]
  exact tells.run

theorem tells_bind {x : Action α} {f : α → Action β}
    (first : x.Tells (fun told taken answer => match answer with
      | .ok a => (f a).Tells post told taken
      | .error e => post told taken (.error e)) told taken) : (x >>= f).Tells post told taken := by
  have unfolded : ExceptT.run (x >>= f) = (ExceptT.run x).bind (ExceptT.bindCont f) := rfl
  constructor
  rw [unfolded, Plan.tells_bind]
  refine Plan.Tells.mono first.run ?_
  intro told taken answer holds
  cases answer with
  | ok a => exact holds.run
  | error e => exact holds

theorem tells_map {x : Action α} {f : α → β}
    (tells : x.Tells (fun told taken answer => post told taken (answer.map f)) told taken) :
    (x >>= fun a => pure (f a)).Tells post told taken := by
  apply tells_bind
  refine ⟨Plan.Tells.mono tells.run ?_⟩
  intro told taken answer holds
  cases answer with
  | ok a => exact tells_pure holds
  | error e => exact holds

theorem tells_check {r : Except BookingError α} {f : α → Action β}
    (passed : ∀ a, r = .ok a → (f a).Tells post told taken)
    (refused : ∀ e, r = .error e → post told taken (.error e)) : (check r >>= f).Tells post told taken := by
  apply tells_bind
  cases h : r with
  | ok a => exact ⟨passed a h⟩
  | error e => exact ⟨refused e h⟩

theorem tells_call {c : Call} {f : c.Result → Action β}
    (answered : ∀ a, (f a).Tells post (told ++ [⟨c, .ok a⟩]) taken)
    (refused : ∀ e, post (told ++ [⟨c, .error e⟩]) taken (.error (.ofStore e))) :
    (call c >>= f).Tells post told taken := by
  apply tells_bind
  constructor
  intro a
  cases a with
  | ok a => exact answered a
  | error e => exact refused e

theorem tells_attempt {c : Call} {f : c.Answer → Action β} (answered : ∀ a, (f a).Tells post (told ++ [⟨c, a⟩]) taken) :
    (attempt c >>= f).Tells post told taken := tells_bind ⟨answered⟩

theorem tells_newId {f : Id → Action β} (minted : ∀ id, (f id).Tells post told (taken ++ [id])) :
    (newId >>= f).Tells post told taken := tells_bind ⟨minted⟩

theorem tells_mintEach {γ : Type} {f : γ → Id → α} {items : List γ} {g : List α → Action β}
    (minted : ∀ ids : List Id, ids.length = items.length →
      (g (items.zipWith f ids)).Tells post told (taken ++ ids)) :
    (mintEach f items >>= g).Tells post told taken := by
  apply tells_bind
  constructor
  rw [mintEach, ExceptT.run_mk, Plan.tells_bind]
  exact Plan.tells_mintEach minted

def outcome {σ : Type} (w : World σ) (s : σ) (x : Action α) : Except BookingError α × σ := (ExceptT.run x).run w s

theorem outcome_bind {σ : Type} {w : World σ} {s : σ} (x : Action α) (f : α → Action β) :
    (x >>= f).outcome w s = match x.outcome w s with
      | (.ok a, t) => (f a).outcome w t
      | (.error e, t) => (.error e, t) := by
  have unfolded : ExceptT.run (x >>= f) = (ExceptT.run x).bind (ExceptT.bindCont f) := rfl
  unfold outcome
  rw [unfolded, Plan.run_bind]
  generalize (ExceptT.run x).run w s = reached
  obtain ⟨answer, t⟩ := reached
  cases answer <;> rfl

theorem outcome_call {σ : Type} {w : World σ} {s : σ} (c : Call) :
    (call c).outcome w s = ((w.answer c s).1.mapError BookingError.ofStore, (w.answer c s).2) := rfl

def Ends (ids : Nat → Id) (faults : Faults) (s : Service) (post : Except BookingError α → Service → Prop)
    (x : Action α) : Prop :=
  post ((ExceptT.run x).run (Service.world ids faults) s).1 ((ExceptT.run x).run (Service.world ids faults) s).2

section

variable {ids : Nat → Id} {faults : Faults} {s : Service} {ends : Except BookingError β → Service → Prop}

theorem ends_pure {b : β} (holds : ends (.ok b) s) : (pure b : Action β).Ends ids faults s ends := holds

theorem ends_fail {e : BookingError} (holds : ends (.error e) s) : (fail e : Action β).Ends ids faults s ends := holds

theorem ends_bind {x : Action α} {f : α → Action β}
    (first : x.Ends ids faults s fun answer t => match answer with
      | .ok a => (f a).Ends ids faults t ends
      | .error e => ends (.error e) t) : (x >>= f).Ends ids faults s ends := by
  show ends ((x >>= f).outcome (Service.world ids faults) s).1 ((x >>= f).outcome (Service.world ids faults) s).2
  unfold Ends at first
  rw [outcome_bind, outcome]
  generalize (ExceptT.run x).run (Service.world ids faults) s = reached at first ⊢
  obtain ⟨answer, t⟩ := reached
  cases answer with
  | ok a => exact first
  | error e => exact first

theorem ends_check {r : Except BookingError α} {f : α → Action β} {a : α} (passed : r = .ok a)
    (next : (f a).Ends ids faults s ends) : (check r >>= f).Ends ids faults s ends := by
  subst passed
  exact next

theorem run_call (c : Call) : (ExceptT.run (call c)).run (Service.world ids faults) s =
    ((s.store.answerWith faults c).1.mapError BookingError.ofStore, ⟨(s.store.answerWith faults c).2, s.minted⟩) := rfl

theorem ends_call {c : Call} {f : c.Result → Action β} {a : c.Result} {t : Store}
    (asked : s.store.answerWith faults c = (.ok a, t)) (next : (f a).Ends ids faults ⟨t, s.minted⟩ ends) :
    (call c >>= f).Ends ids faults s ends := by
  apply ends_bind
  unfold Ends
  rw [run_call, asked]
  exact next

theorem ends_refused {c : Call} {f : c.Result → Action β} {e : StoreError} {t : Store}
    (asked : s.store.answerWith faults c = (.error e, t)) (holds : ends (.error (.ofStore e)) ⟨t, s.minted⟩) :
    (call c >>= f).Ends ids faults s ends := by
  apply ends_bind
  unfold Ends
  rw [run_call, asked]
  exact holds

theorem ends_attempt {c : Call} {f : c.Answer → Action β} {a : c.Answer} {t : Store}
    (asked : s.store.answerWith faults c = (a, t)) (next : (f a).Ends ids faults ⟨t, s.minted⟩ ends) :
    (attempt c >>= f).Ends ids faults s ends := by
  apply ends_bind
  show (f (s.store.answerWith faults c).1).Ends ids faults ⟨(s.store.answerWith faults c).2, s.minted⟩ ends
  rw [asked]
  exact next

theorem ends_newId {f : Id → Action β}
    (next : (f (ids s.minted)).Ends ids faults ⟨s.store, s.minted + 1⟩ ends) :
    (newId >>= f).Ends ids faults s ends := next

end

theorem Tells.ends {post : List Exchange → List Id → Except BookingError α → Prop}
    {fits : Except BookingError α → Service → Prop} {ids : Nat → Id} {faults : Faults} {s : Service} {x : Action α}
    (tells : x.Tells post [] [])
    (holds : ∀ told answer t, s.store.Answers faults told t.store → s.minted ≤ t.minted →
      post told (s.coming ids t.minted) answer → fits answer t) : x.Ends ids faults s fits := by
  obtain ⟨told, answers, story⟩ := tells.run.run ids faults s
  exact holds told _ _ answers (Plan.minted_le_run ids faults (ExceptT.run x) s) story

end Action

end Bookings
