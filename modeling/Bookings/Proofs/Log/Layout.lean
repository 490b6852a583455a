import Bookings.Log.Layout
import Bookings.Proofs.Log.Field

namespace Bookings.Log

theorem roundTrips_schedule : RoundTrips scheduleBytes readSchedule? := by
  intro s rest short
  simp only [scheduleBytes, List.length_cons, List.length_append] at short
  have digits := roundTrips_text s.capacities.text rest (by omega)
  simp only [scheduleBytes, readSchedule?, List.cons_append, List.append_assoc, readByte?, Option.bind_eq_bind,
    Option.bind_some, readWord32?_word32Bytes, digits, Capacities.parse_text]
  rfl

theorem roundTrips_details : RoundTrips detailsBytes readDetails? := by
  intro d rest short
  simp only [detailsBytes, List.length_append] at short
  have name := roundTrips_text d.name
  have description := roundTrips_text d.description
  have location := roundTrips_text d.location
  simp (disch := omega) only [detailsBytes, readDetails?, List.append_assoc, name, description, location,
    Option.bind_eq_bind, Option.bind_some, readSingle?_singleBytes]
  rfl

theorem roundTrips_slot : RoundTrips slotBytes readSlot? := by
  intro s rest short
  simp only [slotBytes, List.length_append] at short
  have idRead := roundTrips_id s.id
  have queueRead := roundTrips_id s.queue
  have studentRead := roundTrips_optional roundTrips_text s.student
  have detailsRead := roundTrips_details s.details
  simp (disch := omega) only [slotBytes, readSlot?, List.append_assoc, idRead, queueRead, studentRead, detailsRead,
    Option.bind_eq_bind, Option.bind_some, readWord32?_word32Bytes, readInt?_intBytes]
  rfl

theorem slotBytes_nonempty (s : Slot) : 0 < (slotBytes s).length := by
  rw [slotBytes, List.length_append, idBytes, length_textBytes]
  omega

theorem readEvent?_eventBytes (e : Event) (rest : List UInt8) (short : (eventBytes e).length < 2 ^ 64) :
    readEvent? (eventBytes e ++ rest) = some e := by
  cases e with
  | scheduleReplaced queue schedule =>
    simp only [eventBytes, List.length_append] at short
    have queueRead := roundTrips_id queue
    have scheduleRead := roundTrips_schedule schedule
    simp (disch := omega) [eventBytes, readEvent?, readWord32?_word32Bytes, queueRead, scheduleRead]
  | slotCreated slot =>
    simp only [eventBytes, List.length_append] at short
    have slotRead := roundTrips_slot slot
    simp (disch := omega) [eventBytes, readEvent?, readWord32?_word32Bytes, slotRead]
  | slotsPublished queue slots =>
    simp only [eventBytes, List.length_append] at short
    have queueRead := roundTrips_id queue
    have slotsRead := roundTrips_list roundTrips_slot slotBytes_nonempty slots
    simp (disch := omega) [eventBytes, readEvent?, readWord32?_word32Bytes, queueRead, slotsRead]
  | detailsEdited id queue details =>
    simp only [eventBytes, List.length_append] at short
    have idRead := roundTrips_id id
    have queueRead := roundTrips_id queue
    have detailsRead := roundTrips_details details
    simp (disch := omega) [eventBytes, readEvent?, readWord32?_word32Bytes, idRead, queueRead, detailsRead]
  | claimReleased id queue =>
    simp only [eventBytes, List.length_append] at short
    have idRead := roundTrips_id id
    have queueRead := roundTrips_id queue
    simp (disch := omega) [eventBytes, readEvent?, readWord32?_word32Bytes, idRead, queueRead]
  | slotClaimed id queue student =>
    simp only [eventBytes, List.length_append] at short
    have idRead := roundTrips_id id
    have queueRead := roundTrips_id queue
    have studentRead := roundTrips_text student
    simp (disch := omega) [eventBytes, readEvent?, readWord32?_word32Bytes, idRead, queueRead, studentRead]

end Bookings.Log
