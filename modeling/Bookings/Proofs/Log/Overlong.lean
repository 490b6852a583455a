import Bookings.Proofs.Log.Tail

namespace Bookings.Log

/-- The length of the event's bytes fits the eight bytes that texts and lists have for theirs, as that of all that is in
memory does. -/
def Addressable (e : Event) : Prop := (eventBytes e).length < 2 ^ 64

instance (e : Event) : Decidable (Addressable e) := inferInstanceAs (Decidable (_ < _))

theorem Short.addressable {e : Event} (short : Short e) : Addressable e := Nat.lt_trans short (by decide)

theorem local_readByte? : Local readByte? := by
  intro bytes b rest read more
  cases bytes with
  | nil => contradiction
  | cons c bytes =>
    cases read
    rfl

theorem local_readInt? : Local readInt? := by
  intro bytes n rest read more
  rw [readInt?] at read
  split at read
  · rename_i m left found
    cases read
    rw [readInt?, local_readWord? 8 found]
  · contradiction

theorem local_readSingle? : Local readSingle? := by
  intro bytes x rest read more
  rw [readSingle?] at read
  split at read
  · rename_i n left found
    cases read
    rw [readSingle?, local_readWord32? found]
  · contradiction

theorem local_readText? : Local readText? := by
  intro bytes s rest read more
  rw [readText?] at read
  split at read
  · contradiction
  · rename_i size afterSize sized
    split at read
    · contradiction
    · rename_i taken left cut
      split at read
      · rename_i decoded
        cases read
        simp only [readText?, local_readWord? 8 sized, local_takeBytes? size cut, decoded]
      · contradiction

theorem local_readId? : Local readId? := by
  intro bytes i rest read more
  rw [readId?] at read
  split at read
  · contradiction
  · rename_i s left found
    split at read
    · rename_i digits
      cases read
      simp only [readId?, local_readText? found, digits]
    · contradiction

section

variable {α : Type} {item : List UInt8 → Option (α × List UInt8)}

theorem local_readOptional? (stays : Local item) : Local (readOptional? item) := by
  intro bytes a rest read more
  cases bytes with
  | nil => contradiction
  | cons b bytes =>
    rw [readOptional?] at read
    rw [List.cons_append, readOptional?]
    split at read
    · rename_i none
      cases read
      rw [if_pos none]
    · rename_i some
      split at read
      · rename_i one
        split at read
        · rename_i found
          cases read
          rw [if_neg some, if_pos one, stays found]
        · contradiction
      · contradiction

theorem local_readItems? (stays : Local item) (count : Nat) (done : List α) : Local (readItems? item count done) := by
  intro bytes items rest read more
  induction count generalizing done bytes with
  | zero =>
    cases read
    rfl
  | succ count ih =>
    rw [readItems?] at read
    split at read
    · rename_i found
      rw [readItems?, stays found]
      exact ih _ read
    · contradiction

theorem local_readList? (stays : Local item) : Local (readList? item) := by
  intro bytes items rest read more
  rw [readList?] at read
  split at read
  · rename_i count left found
    rw [readList?, local_readWord? 8 found]
    exact local_readItems? stays count [] read more
  · contradiction

end

theorem local_readSchedule? : Local readSchedule? := by
  intro bytes s rest read more
  simp only [readSchedule?, Option.bind_eq_bind, Option.bind_eq_some_iff, Prod.exists] at read
  obtain ⟨weekday, _, first, duration, _, second, digits, _, third, parsed⟩ := read
  simp only [readSchedule?, Option.bind_eq_bind, Option.bind_some, local_readByte? first, local_readWord32? second,
    local_readText? third]
  split at parsed
  · cases parsed
    rfl
  · contradiction

theorem local_readDetails? : Local readDetails? := by
  intro bytes d rest read more
  simp only [readDetails?, Option.bind_eq_bind, Option.bind_eq_some_iff, Prod.exists] at read
  obtain ⟨name, _, first, description, _, second, location, _, third, mapX, _, fourth, mapY, _, fifth, same⟩ := read
  cases same
  simp only [readDetails?, Option.bind_eq_bind, Option.bind_some, local_readText? first, local_readText? second,
    local_readText? third, local_readSingle? fourth, local_readSingle? fifth]
  rfl

theorem local_readSlot? : Local readSlot? := by
  intro bytes slot rest read more
  simp only [readSlot?, Option.bind_eq_bind, Option.bind_eq_some_iff, Prod.exists] at read
  obtain ⟨id, _, first, queue, _, second, timeslot, _, third, scheduledTime, _, fourth, duration, _, fifth, student, _,
    sixth, details, _, last, same⟩ := read
  cases same
  simp only [readSlot?, Option.bind_eq_bind, Option.bind_some, local_readId? first, local_readId? second,
    local_readWord32? third, local_readInt? fourth, local_readWord32? fifth, local_readOptional? local_readText? sixth,
    local_readDetails? last]
  rfl

theorem RoundTrips.reads {α : Type} {write : α → List UInt8} {read : List UInt8 → Option (α × List UInt8)}
    (trips : RoundTrips write read) (stays : Local read) {bytes more left rest : List UInt8} {a b : α}
    (short : (write a).length < 2 ^ 64) (split : bytes ++ more = write a ++ rest) (taken : read bytes = some (b, left)) :
    b = a ∧ left ++ more = rest := by
  have found := stays taken more
  rw [split, trips a rest short] at found
  cases found
  exact ⟨rfl, rfl⟩

theorem RoundTrips.leaves {α : Type} {write : α → List UInt8} {read : List UInt8 → Option (α × List UInt8)}
    (trips : RoundTrips write read) (stays : Local read) {bytes more left rest : List UInt8} {a b : α}
    (short : (write a).length < 2 ^ 64) (split : bytes ++ more = write a ++ rest) (taken : read bytes = some (b, left)) :
    left ++ more = rest := (trips.reads stays short split taken).2

theorem RoundTrips.whole {α : Type} {write : α → List UInt8} {read : List UInt8 → Option (α × List UInt8)}
    (trips : RoundTrips write read) (stays : Local read) {bytes more left : List UInt8} {a b : α}
    (short : (write a).length < 2 ^ 64) (split : bytes ++ more = write a) (taken : read bytes = some (b, left)) :
    more = [] := by
  rw [← List.append_nil (write a)] at split
  exact (List.append_eq_nil_iff.mp (trips.leaves stays short split taken)).2

theorem roundTrips_word32 : RoundTrips word32Bytes readWord32? := fun n rest _ => readWord32?_word32Bytes n rest

theorem readEvent?_cut {e : Event} (addressable : Addressable e) {bytes more : List UInt8}
    (cut : bytes ++ more = eventBytes e) (missing : more ≠ []) : readEvent? bytes = none := by
  cases found : readEvent? bytes with
  | none => rfl
  | some other =>
    -- Each field that was read is the one that was written, so the bytes that are missing are none.
    refine absurd ?_ missing
    have tag : ∀ n, (word32Bytes n).length < 2 ^ 64 := fun n => by
      rw [word32Bytes, length_wordBytes]
      decide
    simp only [readEvent?, Option.bind_eq_bind, Option.bind_eq_some_iff, Prod.exists] at found
    obtain ⟨kind, body, tagged, found⟩ := found
    rw [Addressable] at addressable
    cases e <;> simp only [eventBytes, List.length_append] at addressable cut <;>
      obtain ⟨rfl, cut⟩ := roundTrips_word32.reads local_readWord32? (tag _) cut tagged <;>
        simp only [UInt32.reduceToNat, Option.bind_eq_some_iff, Prod.exists] at found
    case scheduleReplaced queue schedule =>
      obtain ⟨_, _, first, _, _, last, _⟩ := found
      have cut := roundTrips_id.leaves local_readId? (by omega) cut first
      exact roundTrips_schedule.whole local_readSchedule? (by omega) cut last
    case slotCreated slot =>
      obtain ⟨_, _, only, _⟩ := found
      exact roundTrips_slot.whole local_readSlot? (by omega) cut only
    case slotsPublished queue slots =>
      obtain ⟨_, _, first, _, _, last, _⟩ := found
      have cut := roundTrips_id.leaves local_readId? (by omega) cut first
      exact (roundTrips_list roundTrips_slot slotBytes_nonempty).whole (local_readList? local_readSlot?) (by omega) cut last
    case detailsEdited id queue details =>
      obtain ⟨_, _, first, _, _, second, _, _, last, _⟩ := found
      have cut := roundTrips_id.leaves local_readId? (by omega) cut first
      have cut := roundTrips_id.leaves local_readId? (by omega) cut second
      exact roundTrips_details.whole local_readDetails? (by omega) cut last
    case claimReleased id queue =>
      obtain ⟨_, _, first, _, _, last, _⟩ := found
      have cut := roundTrips_id.leaves local_readId? (by omega) cut first
      exact roundTrips_id.whole local_readId? (by omega) cut last
    case slotClaimed id queue student =>
      obtain ⟨_, _, first, _, _, second, _, _, last, _⟩ := found
      have cut := roundTrips_id.leaves local_readId? (by omega) cut first
      have cut := roundTrips_id.leaves local_readId? (by omega) cut second
      exact roundTrips_text.whole local_readText? (by omega) cut last

/-- A record too long for its length reads as nothing, whatever follows: the low bytes of the length cut it off. -/
theorem readRecord?_overlong {e : Event} (long : ¬Short e) (addressable : Addressable e) (rest : List UInt8) :
    readRecord? (record e ++ rest) = none := by
  rw [Short, Nat.not_lt] at long
  let kept := (eventBytes e).length % 256 ^ 4
  have fewer : kept < (eventBytes e).length := Nat.lt_of_lt_of_le (Nat.mod_lt _ (by decide)) long
  have unreadable : readEvent? ((eventBytes e).take kept) = none := by
    apply readEvent?_cut addressable (List.take_append_drop kept (eventBytes e))
    intro nothing
    have missing := congrArg List.length nothing
    rw [List.length_drop, List.length_nil] at missing
    omega
  cases framed : readFrame? (record e ++ rest) with
  | none => rw [readRecord?, framed]; rfl
  | some found =>
    obtain ⟨payload, left⟩ := found
    have same : payload = (eventBytes e).take kept := by
      simp only [readFrame?, record, frame, List.append_assoc, readWord?_wordBytes, Option.bind_eq_bind,
        Option.bind_some, Option.bind_eq_some_iff, Prod.exists] at framed
      obtain ⟨taken, _, cut, sum, _, _, matched⟩ := framed
      rw [takeBytes?] at cut
      split at cut <;> cases cut
      split at matched <;> cases matched
      exact List.take_append_of_le_length (Nat.le_of_lt fewer)
    rw [readRecord?, framed]
    change (readEvent? payload).bind _ = none
    rw [same, unreadable, Option.bind_none]

/-- The events before the first whose record is too long. -/
def readable (es : List Event) : List Event := es.takeWhile fun e => Short e

theorem readable_of_short {es : List Event} (short : ∀ e ∈ es, Short e) (more : List Event) :
    readable (es ++ more) = es ++ readable more :=
  List.takeWhile_append_of_pos fun e member => decide_eq_true (short e member)

theorem readable_of_long {es : List Event} (long : ¬∀ e ∈ es, Short e) (more : List Event) :
    readable (es ++ more) = readable es := by
  induction es with
  | nil => exact absurd nofun long
  | cons e es ih =>
    rw [List.cons_append, readable, readable, List.takeWhile_cons, List.takeWhile_cons]
    by_cases short : Short e
    · have rest := ih fun others => long (List.forall_mem_cons.mpr ⟨short, others⟩)
      rw [decide_eq_true short, if_pos rfl, if_pos rfl]
      exact congrArg (List.cons e) rest
    · rw [decide_eq_false short, if_neg Bool.false_ne_true, if_neg Bool.false_ne_true]

theorem replay_records_readable {es : List Event} (addressable : ∀ e ∈ es, Addressable e) :
    replay (records es) = readable es := by
  induction es with
  | nil => rfl
  | cons e es ih =>
    obtain ⟨first, rest⟩ := List.forall_mem_cons.mp addressable
    rw [records_cons, readable, List.takeWhile_cons]
    by_cases short : Short e
    · rw [replay_record_append short, ih rest, decide_eq_true short, if_pos rfl, readable]
    · rw [replay_of_none (readRecord?_overlong short first _), decide_eq_false short, if_neg Bool.false_ne_true]

end Bookings.Log
