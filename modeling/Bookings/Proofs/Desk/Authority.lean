import Bookings.Proofs.Desk.Reached
import Bookings.Proofs.Desk.Retry
import Bookings.Proofs.Store.Authority

namespace Bookings

namespace Request

def email? (r : Request) : Option String := r.caller?.map Caller.email

def privileged (r : Request) : Bool := r.caller?.any Caller.admin

end Request

theorem Rules.admin_eq_ok {caller : Caller} (accepted : Rules.admin caller = .ok ()) : caller.admin = true := by
  unfold admin at accepted
  split at accepted
  · assumption
  · contradiction

namespace Desk

/-- What is asked of the store for a caller: after looking around, nothing, or one call that is theirs if it is
acknowledged, or a row of theirs in the place of one that was fetched. -/
inductive Acts (caller : Caller) : List Exchange → List Id → Prop
  | looked {told : List Exchange} {taken : List Id} (quiet : Quiet told) : Acts caller told taken
  | acted {told : List Exchange} {x : Exchange} {taken : List Id} (quiet : Quiet told)
      (allowed : x.call.acknowledges x.answer = true → x.call.Allowed caller) : Acts caller (told ++ [x]) taken
  | moved {told : List Exchange} {appointment : Id} {current new created : Slot} {guard : Guard}
      {a : Except StoreError Bool} (quiet : Quiet told) (fetched : ⟨.fetch appointment, .ok current⟩ ∈ told)
      (claimed : new.student = some caller.email) :
      Acts caller (told ++ [⟨.insert new guard, .ok created⟩, ⟨.release appointment caller.email, a⟩]) [new.id]

theorem tells_acts (d : Desk) (op : Operation) :
    (d.perform op).Tells (fun told taken _ => Acts op.caller told taken) [] [] := by
  cases op with
  | claimTimeslot queue weekday timeslot caller =>
    refine (d.tells_claimTimeslot queue weekday timeslot caller).mono fun told taken answer performs => ?_
    cases performs with
    | refused quiet => exact .looked quiet
    | claimed quiet => exact .acted quiet fun _ => rfl
  | signup queue weekday timeslot draft caller =>
    refine (d.tells_signup queue weekday timeslot draft caller).mono fun told taken answer performs => ?_
    cases performs with
    | refused quiet => exact .looked quiet
    | signed quiet => exact .acted quiet fun _ => rfl
  | updateAppointment appointment draft caller =>
    refine (d.tells_updateAppointment appointment draft caller).mono fun told taken answer story => ?_
    cases story with
    | refused quiet => exact .looked quiet
    | edited quiet => exact .acted quiet fun _ => rfl
    | full quiet => exact .acted quiet nofun
    | moved quiet fetched replaces => exact .moved quiet fetched replaces.claimed
  | removeSignup appointment caller =>
    refine (d.tells_removeSignup appointment caller).mono fun told taken answer story => ?_
    cases story with
    | refused quiet => exact .looked quiet
    | vacated quiet => exact .looked quiet
    | released quiet => exact .acted quiet fun _ => rfl
  | updateSchedule queue weekday duration capacities caller =>
    refine (d.tells_reschedules queue weekday duration capacities caller).mono fun told taken answer story => ?_
    cases story with
    | refused quiet => exact .looked quiet
    | replaced quiet admin => exact .acted quiet fun _ => Rules.admin_eq_ok admin
  | publishOpenSlots queue weekday template caller =>
    refine (d.tells_publishes queue weekday template caller).mono fun told taken answer story => ?_
    cases story with
    | refused quiet => exact .looked quiet
    | asked quiet admin => exact .acted quiet fun _ => Rules.admin_eq_ok admin

variable {s t : Store} {faults : Faults} {caller : Caller} {told : List Exchange} {taken : List Id}

theorem Acts.confined (acts : Acts caller told taken) (answers : s.Answers faults told t)
    (formed : s.register.WellFormed) (fresh : s.register.Fresh taken) :
    ∃ added change, s.register.Confined (some caller.email) caller.admin added change t.register := by
  cases acts with
  | looked quiet =>
    rw [answers.quiet quiet]
    exact ⟨[], id, Register.confined_of_same (Register.Same.refl _) _ _⟩
  | acted quiet allowed =>
    obtain ⟨⟨_, asked, rfl⟩, _⟩ := answers.of_quiet quiet
    exact (Store.outcome_of_answerWith asked).confined formed allowed
  | moved quiet fetched claimed =>
    rename_i told appointment current new created guard a
    obtain ⟨⟨between, inserted, _, released, rfl⟩, heard⟩ := answers.of_quiet quiet
    obtain ⟨e, admitted, same⟩ := (Store.outcome_of_answerWith inserted).applied rfl
    have first := (admitted.confined formed claimed).congr same
    have grown : between.register.WellFormed :=
      (formed.apply (admitted.newIds ▸ fresh) admitted.addressed).of_same same
    cases admitted with
    | insert small room free =>
      -- The row that was fetched was there before, so the new one is not the one to be released.
      obtain ⟨home, row, found, _⟩ := Store.fetch_shows (heard _ fetched)
      obtain ⟨member, named⟩ := Queue.mem_of_slot? (Register.resolve_eq_ok found).2
      have apart : new.id ≠ appointment := by
        rw [← named]
        exact (fresh.unused new.id List.mem_cons_self home row member).symm
      rcases (Store.outcome_of_answerWith released).quiet_or_applied with ⟨_, kept⟩ | ⟨e, freed, after⟩
      · exact ⟨_, _, first.congr kept⟩
      · have second := (freed.confined grown rfl).congr after
        cases freed with
        | release indexed present held =>
          refine ⟨_, _, first.trans (fun _ => rfl) second fun slot member => ?_⟩
          cases List.mem_singleton.mp member
          exact if_neg apart

end Desk

namespace Service

variable {ids : Nat → Id} {faults : Faults} {s : Service} {plans : List (Plan Response)} {d : Desk} {r : Request}

theorem confined_dispatch (d : Desk) (r : Request) (formed : s.store.register.WellFormed)
    (fresh : s.store.register.Fresh (s.coming ids ((d.dispatch r).run (world ids faults) s).2.minted)) :
    ∃ added change, s.store.register.Confined r.email? r.privileged added change
      ((d.dispatch r).run (world ids faults) s).2.store.register := by
  have carried := d.carried r
  generalize d.dispatch r = p at carried fresh ⊢
  cases carried with
  | inquired inquiry =>
    obtain ⟨told, answers, quiet⟩ := (d.tells_inquire inquiry).run.run ids faults s
    rw [respond_state, answers.quiet quiet]
    exact ⟨[], id, Register.confined_of_same (Register.Same.refl _) _ _⟩
  | refused => exact ⟨[], id, Register.confined_of_same (Register.Same.refl _) _ _⟩
  | performed op caller =>
    obtain ⟨told, answers, acts⟩ := (d.tells_acts op).run.run ids faults s
    have email : r.email? = some op.caller.email := by rw [Request.email?, caller, Option.map_some]
    have privileged : r.privileged = op.caller.admin := by rw [Request.privileged, caller, Option.any_some]
    rw [respond_state] at fresh
    rw [respond_state, email, privileged]
    exact acts.confined answers formed fresh

/-- Whoever asks for whatever in whatever state, what others than the caller hold stays as it is, and an open row changes
only by being given to the caller, one at most. Without the rights of an admin a request changes no schedule and adds
one row at most, which the caller holds. -/
theorem requests_are_confined_to_callers (reached : Reached ids d.zone s plans)
    (distinct : ((List.range ((d.dispatch r).run (world ids faults) s).2.minted).map ids).Nodup) :
    let t := ((d.dispatch r).run (world ids faults) s).2
    (∀ queue, ∀ row ∈ s.store.register.rows queue, row.isClaimed = true → row.student ≠ r.email? →
      row ∈ t.store.register.rows queue) ∧
      ∃ added change, s.store.register.Confined r.email? r.privileged added change t.store.register := by
  intro t
  obtain ⟨formed, fresh⟩ := reached.supplied (Plan.minted_le_run ids faults (d.dispatch r) s) distinct
  obtain ⟨added, change, confined⟩ := confined_dispatch d r formed fresh
  exact ⟨fun queue row member claimed others => confined.stays member claimed others, added, change, confined⟩

theorem requests_are_confined_to_callers_wednesday :
    let ids := fun n => Id.ofNat (n + 1)
    let d := Desk.mk Zone.utc 1700000180000
    let s := (start {}).visits ids Zone.utc (wednesday.take 4)
    let t := ((d.dispatch (.claimTimeslot (Id.ofNat 7) 3 0 ⟨"cyd@x.edu", false⟩)).run (world ids noFaults) s).2
    (s.store.register.rows (Id.ofNat 7)).map Slot.student = [none, some "ada@x.edu", none, some "bob@x.edu"] ∧
      (t.store.register.rows (Id.ofNat 7)).map Slot.student =
        [some "cyd@x.edu", some "ada@x.edu", none, some "bob@x.edu"] ∧
      ∃ added change, s.store.register.Confined (some "cyd@x.edu") false added change t.store.register := by
  intro ids d s t
  have started : Reached ids Zone.utc (start {}) [] := .started rfl
  obtain ⟨plans, reached⟩ := started.visits (wednesday.take 4)
  have confined := @requests_are_confined_to_callers ids noFaults s plans d
    (.claimTimeslot (Id.ofNat 7) 3 0 ⟨"cyd@x.edu", false⟩) reached (by decide +kernel)
  exact ⟨by decide +kernel, by decide +kernel, confined.2⟩

end Service

end Bookings
