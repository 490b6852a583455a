import Bookings.Proofs.Desk.Stories

namespace Bookings

namespace Service

variable {ids : Nat → Id} {last : Nat} {s : Service}

theorem length_coming (ids : Nat → Id) (last : Nat) (s : Service) : (s.coming ids last).length = last - s.minted := by
  rw [coming, List.length_map, List.length_range']

theorem coming_eq_singleton {id : Id} (drawn : s.coming ids last = [id]) :
    id = ids s.minted ∧ last = s.minted + 1 := by
  have one := s.length_coming ids last
  rw [drawn, List.length_singleton] at one
  rw [coming, ← one] at drawn
  exact ⟨(List.singleton_inj.mp drawn).symm, by omega⟩

end Service

namespace Desk

/-- What an update made alone does to the store: nothing; an edit; the insertion of a new row, if that is refused;
or the insertion and then the release of the old row, however that is answered. -/
inductive Updated (d : Desk) (ids : Nat → Id) (faults : Faults) (appointment : Id) (draft : Draft) (caller : Caller)
    (s : Service) : Except BookingError Update → Service → Prop
  | refused {e : BookingError} : Updated d ids faults appointment draft caller s (.error e) s
  | edited {details : Details} {a : Except StoreError Unit} {t : Store}
      (asked : s.store.answerWith faults (.edit appointment caller.email details) = (a, t)) :
      Updated d ids faults appointment draft caller s
        ((a.mapError BookingError.ofStore).map fun _ => .edited) ⟨t, s.minted⟩
  | full {slot : Slot} {guard : Guard} {e : StoreError} {t : Store}
      (asked : s.store.answerWith faults (.insert slot guard) = (.error e, t)) :
      Updated d ids faults appointment draft caller s (.error (.ofStore e)) ⟨t, s.minted + 1⟩
  | moved {current created : Slot} {w : Span} {capacity : Nat} {timeslot : UInt32} {details : Details} {a : Except StoreError Bool}
      {between t : Store}
      (fetched : (s.store.answerWith faults (.fetch appointment)).1 = .ok current)
      (owned : current.isClaimedBy caller.email = true)
      (named : timeslot = draft.timeslot.getD current.timeslot) (differs : timeslot ≠ current.timeslot)
      (ahead : Rules.notStarted (slotStart w timeslot current.duration) d.now = .ok ())
      (inserted : s.store.answerWith faults (.insert ⟨ids s.minted, current.queue, timeslot,
        slotStart w timeslot current.duration, current.duration, some caller.email, details⟩ ⟨w, capacity, none⟩) =
          (.ok created, between))
      (released : between.answerWith faults (.release appointment caller.email) = (a, t)) :
      Updated d ids faults appointment draft caller s
        (match a with
          | .ok _ => .ok (.moved created)
          | .error cause => .error (.moveIncomplete created.id appointment cause)) ⟨t, s.minted + 1⟩

theorem ends_updateAppointment (d : Desk) (ids : Nat → Id) (faults : Faults) (appointment : Id) (draft : Draft)
    (caller : Caller) (s : Service) :
    (d.updateAppointment appointment draft caller).Ends ids faults s
      (d.Updated ids faults appointment draft caller s) := by
  refine (d.tells_updateAppointment appointment draft caller).ends ?_
  intro told answer ⟨t, minted⟩ answers counted story
  have still : s.coming ids minted = [] → minted = s.minted := by
    intro drawn
    have none := s.length_coming ids minted
    rw [drawn, List.length_nil] at none
    exact Nat.le_antisymm (Nat.sub_eq_zero_iff_le.mp none.symm) counted
  generalize drawn : s.coming ids minted = taken at story
  cases story with
  | refused quiet plain =>
    cases answers.quiet quiet
    cases still drawn
    exact .refused
  | edited quiet texts =>
    obtain ⟨⟨_, asked, rfl⟩, _⟩ := answers.of_quiet quiet
    cases still drawn
    exact .edited asked
  | full quiet fetched queue =>
    obtain ⟨⟨_, asked, rfl⟩, _⟩ := answers.of_quiet quiet
    cases (Service.coming_eq_singleton drawn).2
    exact .full asked
  | moved quiet fetched replaces known lookup =>
    rename_i told current new created w schedule capacity a
    obtain ⟨⟨between, inserted, _, released, rfl⟩, heard⟩ := answers.of_quiet quiet
    obtain ⟨named, rfl⟩ := Service.coming_eq_singleton drawn
    obtain ⟨id, queue, timeslot, scheduledTime, duration, student, details⟩ := new
    obtain ⟨owned, rfl, rfl, rfl, requested, differs, texts, bounds, start, fits, ahead⟩ := replaces
    dsimp only at start named released
    cases start
    cases named
    have asked : timeslot = draft.timeslot.getD current.timeslot := by rw [requested, Option.getD_some]
    have done := Updated.moved (heard _ fetched) owned asked differs ahead inserted released
    cases a with
    | ok gone => exact done
    | error cause => exact done

end Desk

end Bookings
