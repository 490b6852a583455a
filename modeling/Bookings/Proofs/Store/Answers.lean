import Bookings.Proofs.Store.Faulty
import Bookings.Proofs.Log.Journal

namespace Bookings

namespace Queue

theorem slot?_of_mem {q : Queue} (distinct : q.Distinct) {row : Slot} (member : row ∈ q.rows) :
    q.slot? row.id = some row := by
  rw [slot?_eq_find?]
  cases found : q.rows.find? fun s => decide (s.id = row.id) with
  | none => exact absurd (decide_eq_true rfl) (List.find?_eq_none.mp found row member)
  | some other =>
    have named : other.id = row.id := by simpa using List.find?_some found
    rw [List.inj_on_of_nodup_map distinct (List.mem_of_find?_eq_some found) member named]

end Queue

namespace Register

theorem resolve_eq_ok_iff {r : Register} {id home : Id} {slot : Slot} :
    r.resolve id = .ok (home, slot) ↔ r.homes[id]? = some home ∧ (r.content home).slot? id = some slot := by
  refine ⟨resolve_eq_ok, ?_⟩
  rintro ⟨indexed, present⟩
  rw [resolve, indexed]
  rw [content] at present
  cases stored : r.queue? home with
  | none =>
    rw [stored, Option.getD_none, Queue.slot?_eq_find?, Queue.rows_empty] at present
    contradiction
  | some q =>
    rw [stored, Option.getD_some] at present
    simp only [present, stored]

end Register

namespace Store

theorem Outcome.applied {s t : Store} {c : Call} {a : c.Answer} (outcome : s.Outcome c a t)
    (acknowledged : c.acknowledges a = true) :
    ∃ e, s.register.Admits c e a ∧ t.register.Same (s.register.apply e) := by
  rcases outcome.quiet_or_applied with ⟨quiet, _⟩ | applied
  · rw [quiet] at acknowledged
    contradiction
  · exact applied

theorem fetch_eq_ok {s : Store} {id : Id} {slot : Slot} (answered : (s.answer (.fetch id)).1 = .ok slot) :
    ∃ home, s.register.resolve id = .ok (home, slot) := by
  change (s.register.resolve id).map Prod.snd = .ok slot at answered
  cases found : s.register.resolve id with
  | error e =>
    rw [found] at answered
    contradiction
  | ok row =>
    rw [found] at answered
    cases answered
    exact ⟨row.1, rfl⟩

theorem Outcome.of_insert {s t : Store} {slot row : Slot} {guard : Guard}
    (outcome : s.Outcome (.insert slot guard) (.ok row) t) :
    row = slot ∧ t.register.Same (s.register.apply (.slotCreated slot)) := by
  obtain ⟨e, admitted, same⟩ := outcome.applied rfl
  cases admitted
  exact ⟨rfl, same⟩

theorem register_answerWith {s : Store} (faults : Faults) {c : Call}
    (housed : ∀ queue, c.home? = some queue → (s.register.queue? queue).isSome = true) :
    (c.acknowledges (s.answerWith faults c).1 = false ∧ (s.answerWith faults c).2.register = s.register) ∨
      ∃ e, s.register.Admits c e (s.answerWith faults c).1 ∧
        (s.answerWith faults c).2.register = s.register.apply e := by
  rcases s.answerWith_cases faults c with ⟨e, failed⟩ | ⟨reads, kept⟩ | same
  · rw [failed]
    exact .inl ⟨c.acknowledges_error e, rfl⟩
  · rw [kept]
    exact .inl ⟨Call.acknowledges_of_reads reads _, rfl⟩
  · obtain ⟨register, journal⟩ := s
    have prepared : (Store.mk register journal).prepare c = .ok ⟨register, journal⟩ := by
      rw [prepare]
      split
      · rfl
      · rename_i queue home
        rw [Register.prepare, if_pos (housed queue home)]
    have decided := register.decides c
    rw [same, answer, prepared]
    dsimp only
    generalize register.decide c = decision at decided ⊢
    cases decided with
    | answer quiet => exact .inl ⟨quiet, rfl⟩
    | record admitted =>
      rename_i e reply
      rw [settle, commit]
      cases journal.write e with
      | mk result after =>
        cases result with
        | ok done => exact .inr ⟨e, admitted, rfl⟩
        | error cause => exact .inl ⟨c.acknowledges_error _, rfl⟩

theorem fetch_shows {s : Store} {faults : Faults} {id : Id} {row : Slot}
    (answered : (s.answerWith faults (.fetch id)).1 = .ok row) :
    ∃ home slot, s.register.resolve id = .ok (home, slot) ∧
      (row = slot ∨ ∃ student, faults .fetch = some (.showsStudent student) ∧ row = { slot with student }) := by
  have found : (s.answer (.fetch id)).1 = .ok row →
      ∃ home slot, s.register.resolve id = .ok (home, slot) ∧
        (row = slot ∨ ∃ student, faults .fetch = some (.showsStudent student) ∧ row = { slot with student }) := by
    intro given
    obtain ⟨home, resolved⟩ := fetch_eq_ok given
    exact ⟨home, row, resolved, .inl rfl⟩
  rw [answerWith, Call.capability] at answered
  split at answered
  · rename_i fault faulty
    cases fault with
    | fails e => contradiction
    | findsNothing => exact found answered
    | showsStudent student =>
      change ((s.answer (.fetch id)).1.map fun slot => { slot with student }) = .ok row at answered
      cases given : (s.answer (.fetch id)).1 with
      | error e =>
        rw [given] at answered
        contradiction
      | ok slot =>
        rw [given] at answered
        cases answered
        obtain ⟨home, resolved⟩ := fetch_eq_ok given
        exact ⟨home, slot, resolved, .inr ⟨student, faulty, rfl⟩⟩
  · exact found answered

theorem release_eq_false {s : Store} {faults : Faults} {id : Id} {email : String}
    (answered : (s.answerWith faults (.release id email)).1 = .ok false) :
    ∃ home slot, s.register.resolve id = .ok (home, slot) ∧ slot.student = none := by
  rcases s.answerWith_cases faults (.release id email) with ⟨e, failed⟩ | ⟨reads, _⟩ | same
  · rw [failed] at answered
    contradiction
  · contradiction
  · rw [same] at answered
    change (s.settle (s.register.decideRelease id email)).1 = .ok false at answered
    rw [Register.decideRelease] at answered
    split at answered
    · contradiction
    · rename_i home slot found
      split at answered
      · rename_i vacant
        exact ⟨home, slot, found, vacant⟩
      · split at answered
        · obtain ⟨register, journal⟩ := s
          rw [settle, commit] at answered
          cases written : journal.write (.claimReleased id home) with
          | mk result after =>
            rw [written] at answered
            cases result <;> cases answered
        · contradiction

section

variable {s t : Store} {faults : Faults}

theorem edit_cases {id : Id} {email : String} {details : Details} {a : Except StoreError Unit}
    (asked : s.answerWith faults (.edit id email details) = (a, t)) :
    (∃ e, a = .error e ∧ t.register = s.register) ∨
      ∃ home slot, a = .ok () ∧ s.register.resolve id = .ok (home, slot) ∧ slot.student = some email ∧
        t.register = s.register.apply (.detailsEdited id home details) := by
  have cases := register_answerWith (s := s) faults (c := .edit id email details) nofun
  rw [asked] at cases
  rcases cases with ⟨quiet, same⟩ | ⟨e, admitted, changed⟩
  · cases a with
    | ok done => contradiction
    | error e => exact .inl ⟨e, rfl, same⟩
  · cases admitted with
    | edit indexed present held =>
      exact .inr ⟨_, _, rfl, Register.resolve_eq_ok_iff.mpr ⟨indexed, present⟩, held, changed⟩

theorem insert_cases {slot : Slot} {guard : Guard} {a : Except StoreError Slot}
    (housed : (s.register.queue? slot.queue).isSome = true)
    (asked : s.answerWith faults (.insert slot guard) = (a, t)) :
    (∃ e, a = .error e ∧ t.register = s.register) ∨
      a = .ok slot ∧ t.register = s.register.apply (.slotCreated slot) := by
  have cases := register_answerWith (s := s) faults (c := .insert slot guard) fun queue home => by
    cases home
    exact housed
  rw [asked] at cases
  rcases cases with ⟨quiet, same⟩ | ⟨e, admitted, changed⟩
  · cases a with
    | ok created => contradiction
    | error e => exact .inl ⟨e, rfl, same⟩
  · cases admitted with
    | insert small room free => exact .inr ⟨rfl, changed⟩

theorem release_cases {id : Id} {email : String} {a : Except StoreError Bool}
    (asked : s.answerWith faults (.release id email) = (a, t)) :
    (∃ e, a = .error e ∧ t.register = s.register) ∨
      ∃ home slot, s.register.resolve id = .ok (home, slot) ∧
        (a = .ok false ∧ slot.student = none ∧ t.register = s.register ∨
          a = .ok true ∧ slot.student = some email ∧ t.register = s.register.apply (.claimReleased id home)) := by
  have cases := register_answerWith (s := s) faults (c := .release id email) nofun
  rw [asked] at cases
  rcases cases with ⟨quiet, same⟩ | ⟨e, admitted, changed⟩
  · cases a with
    | ok gone =>
      have kept : gone = false := quiet
      subst kept
      obtain ⟨home, slot, found, vacant⟩ := release_eq_false (congrArg Prod.fst asked)
      exact .inr ⟨home, slot, found, .inl ⟨rfl, vacant, same⟩⟩
    | error e => exact .inl ⟨e, rfl, same⟩
  · cases admitted with
    | release indexed present held =>
      exact .inr ⟨_, _, Register.resolve_eq_ok_iff.mpr ⟨indexed, present⟩, .inr ⟨rfl, held, changed⟩⟩

end

theorem prepare_insert {s : Store} {slot : Slot} {guard : Guard}
    (housed : (s.register.queue? slot.queue).isSome = true) : s.prepare (.insert slot guard) = .ok s := by
  unfold prepare
  simp only [Call.home?, Register.prepare, housed, if_true]

theorem answer_insert_crowded {s : Store} {slot : Slot} {guard : Guard}
    (housed : (s.register.queue? slot.queue).isSome = true)
    (crowded : maxSlotsPerQueue ≤ (s.register.rows slot.queue).length) :
    s.answer (.insert slot guard) = (.error (.limitExceeded "too many appointments in queue"), s) := by
  have decided : s.register.decide (.insert slot guard) =
      .answer (.error (.limitExceeded "too many appointments in queue")) := by
    show s.register.decideInsert slot guard = _
    unfold Register.decideInsert
    rw [Register.slotCount_eq, if_pos crowded]
  unfold answer
  rw [prepare_insert housed]
  dsimp only
  rw [decided, settle]

theorem answer_insert_unfit {s : Store} {slot : Slot} {guard : Guard}
    (housed : (s.register.queue? slot.queue).isSome = true)
    (unfit : hasRoom (openSeats guard.capacity (s.register.atTimeslot slot.queue guard.window slot.timeslot)) = false ∨
      (s.register.conflict? slot guard).isSome = true) :
    ∃ e, s.answer (.insert slot guard) = (.error e, s) := by
  have decided : ∃ e, s.register.decide (.insert slot guard) = .answer (.error e) := by
    show ∃ e, s.register.decideInsert slot guard = .answer (.error e)
    unfold Register.decideInsert
    split
    · exact ⟨_, rfl⟩
    · split
      · exact ⟨_, rfl⟩
      · rename_i seated
        rcases unfit with full | busy
        · simp [full] at seated
        · obtain ⟨existing, found⟩ := Option.isSome_iff_exists.mp busy
          rw [found]
          exact ⟨_, rfl⟩
  obtain ⟨e, refused⟩ := decided
  refine ⟨e, ?_⟩
  unfold answer
  rw [prepare_insert housed]
  dsimp only
  rw [refused, settle]

section

variable {s : Store} (working : s.journal.Working)

include working

theorem working_of_outcome {c : Call} {a : c.Answer} {t : Store} (outcome : s.Outcome c a t) : t.journal.Working := by
  have written := fun e => working.write e
  cases outcome with
  | kept same journal =>
    rw [journal]
    exact working
  | unlogged e hoped cause admitted same refused =>
    obtain ⟨k, done, after⟩ := written e
    rw [refused] at done
    cases done
  | recorded e admitted same logged =>
    obtain ⟨k, done, after⟩ := written e
    rw [logged] at done
    cases done
    exact after

theorem answer_of_record {c : Call} {e : Event} {reply : Register → c.Answer} (prepared : s.prepare c = .ok s)
    (decided : s.register.decide c = .record e reply) :
    ∃ k, k.Working ∧ s.answer c = (reply (s.register.apply e), ⟨s.register.apply e, k⟩) := by
  obtain ⟨register, journal⟩ := s
  obtain ⟨k, done, ready⟩ := working.write e
  change journal.write e = (.ok (), k) at done
  refine ⟨k, ready, ?_⟩
  rw [answer, prepared]
  dsimp only
  rw [decided, settle, commit, done]

theorem answer_release {id home : Id} {slot : Slot} {email : String} (found : s.register.resolve id = .ok (home, slot))
    (held : slot.student = some email) :
    ∃ k, k.Working ∧ s.answer (.release id email) = (.ok true, ⟨s.register.apply (.claimReleased id home), k⟩) := by
  have decided : s.register.decide (.release id email) = .record (.claimReleased id home) fun _ => .ok true := by
    show s.register.decideRelease id email = _
    unfold Register.decideRelease
    simp only [found, held, if_true]
  exact answer_of_record working rfl decided

theorem answer_insert {slot : Slot} {guard : Guard} (housed : (s.register.queue? slot.queue).isSome = true)
    (small : (s.register.rows slot.queue).length < maxSlotsPerQueue)
    (room : hasRoom (openSeats guard.capacity (s.register.atTimeslot slot.queue guard.window slot.timeslot)) = true)
    (alone : guard.exclusiveFrom = none) :
    ∃ k, k.Working ∧ s.answer (.insert slot guard) = (.ok slot, ⟨s.register.apply (.slotCreated slot), k⟩) := by
  have decided : s.register.decide (.insert slot guard) = .record (.slotCreated slot) fun _ => .ok slot := by
    show s.register.decideInsert slot guard = _
    unfold Register.decideInsert Register.conflict?
    rw [Register.slotCount_eq, if_neg (Nat.not_le.mpr small)]
    simp [room, alone]
  exact answer_of_record working (prepare_insert housed) decided

end

end Store

end Bookings
