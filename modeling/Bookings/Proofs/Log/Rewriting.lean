import Bookings.Proofs.Log.Tail

namespace Bookings

theorem length_le_utf8ByteSize (s : String) : s.length ≤ s.utf8ByteSize := by
  rw [← String.ofList_toList (s := s)]
  induction s.toList with
  | nil => exact Nat.zero_le _
  | cons c cs ih =>
    have first := c.utf8Size_pos
    rw [String.length_ofList] at ih ⊢
    rw [String.ofList_cons, String.utf8ByteSize_append, String.utf8ByteSize_singleton, List.length_cons]
    omega

theorem utf8ByteSize_ofList {cs : List Char} (ascii : ∀ c ∈ cs, c.utf8Size = 1) :
    (String.ofList cs).utf8ByteSize = cs.length := by
  induction cs with
  | nil => rfl
  | cons c cs ih =>
    obtain ⟨first, rest⟩ := List.forall_mem_cons.mp ascii
    rw [String.ofList_cons, String.utf8ByteSize_append, String.utf8ByteSize_singleton, List.length_cons, first, ih rest]
    omega

namespace Id

theorem utf8Size_letter : ∀ d < 32, (letter d).utf8Size = 1 := by decide

theorem utf8Size_of_mem_digitsBefore {rest : List Char} {count n : Nat} (ascii : ∀ c ∈ rest, c.utf8Size = 1) :
    ∀ c ∈ digitsBefore rest count n, c.utf8Size = 1 := by
  induction count generalizing rest n with
  | zero => exact ascii
  | succ count ih =>
    exact ih (List.forall_mem_cons.mpr ⟨utf8Size_letter _ (Nat.mod_lt n (by omega)), ascii⟩)

theorem utf8ByteSize_text (i : Id) : i.text.utf8ByteSize = 26 := by
  have ascii : ∀ c ∈ i.chars, c.utf8Size = 1 := utf8Size_of_mem_digitsBefore (List.forall_mem_nil _)
  rw [text, utf8ByteSize_ofList ascii, chars, length_digitsBefore]
  rfl

theorem length_of_ofText? {s : String} {i : Id} (read : ofText? s = some i) : s.length = 26 := by
  rw [ofText?, ofChars?] at read
  split at read
  · assumption
  · contradiction

end Id

namespace Capacities

theorem utf8Size_digitChar : ∀ d : Fin 10, (digitChar d).utf8Size = 1 := by decide

theorem utf8ByteSize_text (c : Capacities) : c.text.utf8ByteSize = c.size := by
  rw [text, utf8ByteSize_ofList, List.length_map, size]
  intro letter member
  obtain ⟨d, _, rfl⟩ := List.mem_map.mp member
  exact utf8Size_digitChar d

end Capacities

namespace Log

def Covers {α : Type} (write : α → List UInt8) (read : List UInt8 → Option (α × List UInt8)) : Prop :=
  ∀ {bytes a rest}, read bytes = some (a, rest) → (write a).length + rest.length ≤ bytes.length

theorem covers_word32 : Covers word32Bytes readWord32? := by
  intro bytes n rest read
  rw [readWord32?] at read
  split at read
  · rename_i m left found
    cases read
    rw [word32Bytes, length_wordBytes]
    exact Nat.le_of_eq (length_of_readWord? found).symm
  · contradiction

theorem covers_int : Covers intBytes readInt? := by
  intro bytes n rest read
  rw [readInt?] at read
  split at read
  · rename_i m left found
    cases read
    rw [intBytes, length_wordBytes]
    exact Nat.le_of_eq (length_of_readWord? found).symm
  · contradiction

theorem covers_single : Covers singleBytes readSingle? := by
  intro bytes x rest read
  rw [readSingle?] at read
  split at read
  · rename_i n left found
    cases read
    exact covers_word32 found
  · contradiction

theorem length_taken {count : Nat} {bytes taken rest : List UInt8}
    (read : takeBytes? count bytes = some (taken, rest)) : taken.length = count := by
  rw [takeBytes?] at read
  split at read
  · cases read
    assumption
  · contradiction

theorem length_of_readText? {bytes rest : List UInt8} {s : String} (read : readText? bytes = some (s, rest)) :
    bytes.length = 8 + s.utf8ByteSize + rest.length := by
  rw [readText?] at read
  split at read
  · contradiction
  · rename_i size afterSize sized
    split at read
    · contradiction
    · rename_i taken left cut
      split at read
      · rename_i decoded
        cases read
        have front := length_of_readWord? sized
        have back := length_of_takeBytes? cut
        have whole := length_taken cut
        rw [String.fromUTF8?] at decoded
        split at decoded
        · rename_i valid
          cases decoded
          have same : (String.fromUTF8 ⟨taken.toArray⟩ valid).utf8ByteSize = taken.length := rfl
          omega
        · contradiction
      · contradiction

theorem covers_text : Covers textBytes readText? := by
  intro bytes s rest read
  rw [length_textBytes]
  exact Nat.le_of_eq (length_of_readText? read).symm

theorem covers_id : Covers idBytes readId? := by
  intro bytes i rest read
  rw [readId?] at read
  split at read
  · contradiction
  · rename_i s left found
    split at read
    · rename_i digits
      cases read
      have written := length_le_utf8ByteSize s
      have size := Id.length_of_ofText? digits
      have taken := length_of_readText? found
      rw [idBytes, length_textBytes, Id.utf8ByteSize_text]
      omega
    · contradiction

section

variable {α : Type} {write : α → List UInt8} {item : List UInt8 → Option (α × List UInt8)}

theorem covers_optional (covers : Covers write item) : Covers (optionalBytes write) (readOptional? item) := by
  intro bytes a rest read
  cases bytes with
  | nil => contradiction
  | cons b bytes =>
    rw [readOptional?] at read
    rw [List.length_cons]
    split at read
    · cases read
      exact Nat.le_of_eq (Nat.add_comm 1 _)
    · split at read
      · split at read
        · rename_i found
          cases read
          have bound := covers found
          rw [optionalBytes, List.length_cons]
          omega
        · contradiction
      · contradiction

theorem covers_items (covers : Covers write item) {count : Nat} {done items : List α} {bytes rest : List UInt8}
    (read : readItems? item count done bytes = some (items, rest)) :
    (items.flatMap write).length + rest.length ≤ (done.flatMap write).length + bytes.length := by
  induction count generalizing done bytes with
  | zero =>
    cases read
    exact Nat.add_le_add_right (Nat.le_of_eq ((List.reverse_perm done).flatMap_right write).length_eq) _
  | succ count ih =>
    rw [readItems?] at read
    split at read
    · rename_i a left found
      have rest := ih read
      have first := covers found
      rw [List.flatMap_cons, List.length_append] at rest
      omega
    · contradiction

theorem covers_list (covers : Covers write item) : Covers (listBytes write) (readList? item) := by
  intro bytes items rest read
  rw [readList?] at read
  split at read
  · rename_i count left found
    have front := length_of_readWord? found
    have bound := covers_items covers read
    rw [listBytes, List.length_append, length_wordBytes]
    rw [List.flatMap_nil, List.length_nil] at bound
    omega
  · contradiction

end

theorem covers_schedule : Covers scheduleBytes readSchedule? := by
  intro bytes s rest read
  simp only [readSchedule?, Option.bind_eq_bind, Option.bind_eq_some_iff, Prod.exists] at read
  obtain ⟨weekday, _, first, duration, _, second, digits, _, third, parsed⟩ := read
  split at parsed
  · rename_i capacities accepted
    cases parsed
    cases bytes with
    | nil => contradiction
    | cons b bytes =>
      cases first
      have length := covers_word32 second
      have text := length_of_readText? third
      have written := length_le_utf8ByteSize digits
      rw [← Capacities.size_of_parse accepted] at written
      simp only [scheduleBytes, List.length_cons, List.length_append, length_textBytes, Capacities.utf8ByteSize_text]
      omega
  · contradiction

theorem covers_details : Covers detailsBytes readDetails? := by
  intro bytes d rest read
  simp only [readDetails?, Option.bind_eq_bind, Option.bind_eq_some_iff, Prod.exists] at read
  obtain ⟨name, _, first, description, _, second, location, _, third, mapX, _, fourth, mapY, _, fifth, same⟩ := read
  cases same
  have first := covers_text first
  have second := covers_text second
  have third := covers_text third
  have fourth := covers_single fourth
  have fifth := covers_single fifth
  simp only [detailsBytes, List.length_append]
  omega

theorem covers_slot : Covers slotBytes readSlot? := by
  intro bytes slot rest read
  simp only [readSlot?, Option.bind_eq_bind, Option.bind_eq_some_iff, Prod.exists] at read
  obtain ⟨id, _, first, queue, _, second, timeslot, _, third, scheduledTime, _, fourth, duration, _, fifth, student, _,
    sixth, details, _, last, same⟩ := read
  cases same
  have first := covers_id first
  have second := covers_id second
  have third := covers_word32 third
  have fourth := covers_int fourth
  have fifth := covers_word32 fifth
  have sixth := covers_optional covers_text sixth
  have last := covers_details last
  simp only [slotBytes, List.length_append]
  omega

theorem length_eventBytes_le {payload : List UInt8} {e : Event} (read : readEvent? payload = some e) :
    (eventBytes e).length ≤ payload.length := by
  simp only [readEvent?, Option.bind_eq_bind, Option.bind_eq_some_iff, Prod.exists] at read
  obtain ⟨kind, body, tagged, read⟩ := read
  have kinds : ∀ n, (word32Bytes n).length = 4 := fun n => length_wordBytes 4 _
  have front := covers_word32 tagged
  rw [kinds] at front
  split at read <;>
    simp only [Option.bind_eq_some_iff, Prod.exists, Option.pure_def, Option.some.injEq, reduceCtorEq] at read
  · obtain ⟨queue, _, first, schedule, _, last, rfl⟩ := read
    have first := covers_id first
    have last := covers_schedule last
    simp only [eventBytes, List.length_append, kinds]
    omega
  · obtain ⟨slot, _, only, rfl⟩ := read
    have only := covers_slot only
    simp only [eventBytes, List.length_append, kinds]
    omega
  · obtain ⟨queue, _, first, slots, _, last, rfl⟩ := read
    have first := covers_id first
    have last := covers_list covers_slot last
    simp only [eventBytes, List.length_append, kinds]
    omega
  · obtain ⟨id, _, first, queue, _, second, details, _, last, rfl⟩ := read
    have first := covers_id first
    have second := covers_id second
    have last := covers_details last
    simp only [eventBytes, List.length_append, kinds]
    omega
  · obtain ⟨id, _, first, queue, _, last, rfl⟩ := read
    have first := covers_id first
    have last := covers_id last
    simp only [eventBytes, List.length_append, kinds]
    omega
  · obtain ⟨id, _, first, queue, _, second, student, _, last, rfl⟩ := read
    have first := covers_id first
    have second := covers_id second
    have last := covers_text last
    simp only [eventBytes, List.length_append, kinds]
    omega

theorem readWord?_lt {count n : Nat} {bytes rest : List UInt8} (read : readWord? count bytes = some (n, rest)) :
    n < 256 ^ count := by
  induction count generalizing bytes n with
  | zero =>
    cases read
    decide
  | succ count ih =>
    cases bytes with
    | nil => contradiction
    | cons b bytes =>
      rw [readWord?] at read
      split at read
      · rename_i m left found
        cases read
        have high := ih found
        have low := b.toNat_lt
        rw [Nat.pow_succ']
        omega
      · contradiction

theorem length_of_readFrame? {bytes payload rest : List UInt8} (read : readFrame? bytes = some (payload, rest)) :
    8 + payload.length + rest.length ≤ bytes.length ∧ payload.length < 2 ^ 32 := by
  simp only [readFrame?, Option.bind_eq_bind, Option.bind_eq_some_iff, Prod.exists] at read
  obtain ⟨size, afterSize, sized, taken, afterPayload, cut, sum, afterSum, summed, matched⟩ := read
  split at matched
  · cases matched
    have bound := readWord?_lt sized
    have first := length_of_readWord? sized
    have second := length_of_takeBytes? cut
    have third := covers_word32 summed
    rw [word32Bytes, length_wordBytes] at third
    rw [length_taken cut]
    exact ⟨by omega, by omega⟩
  · contradiction

/-- What is read from a record is written in a record that is no longer and can be read again. -/
theorem readRecord?_rewritten {bytes rest : List UInt8} {e : Event} (read : readRecord? bytes = some (e, rest)) :
    Short e ∧ (record e).length + rest.length ≤ bytes.length := by
  simp only [readRecord?, Option.bind_eq_bind, Option.bind_eq_some_iff, Prod.exists] at read
  obtain ⟨payload, left, framed, event, decoded, same⟩ := read
  cases same
  obtain ⟨length, bound⟩ := length_of_readFrame? framed
  have fewer := length_eventBytes_le decoded
  refine ⟨Nat.lt_of_le_of_lt fewer bound, ?_⟩
  simp only [record, frame, word32Bytes, List.length_append, length_wordBytes]
  omega

theorem replay_rewritten (bytes : List UInt8) :
    (∀ e ∈ replay bytes, Short e) ∧ (records (replay bytes)).length ≤ bytes.length := by
  induction bytes using unread.induct with
  | case1 bytes e rest read ih =>
    obtain ⟨short, length⟩ := readRecord?_rewritten read
    rw [replay_of_some read]
    refine ⟨List.forall_mem_cons.mpr ⟨short, ih.1⟩, ?_⟩
    rw [records_cons, List.length_append]
    omega
  | case2 bytes bad =>
    rw [replay_of_none bad]
    exact ⟨List.forall_mem_nil _, Nat.zero_le _⟩

/-- Whatever bytes are replayed, the events that they yield make a log from which replay yields the same events, with
nothing left unread. It is no longer than the bytes were. -/
theorem rewritten_log_replays {bytes : List UInt8} {es : List Event} (replayed : replay bytes = es) :
    replay (records es) = es ∧ Intact (records es) ∧ (records es).length ≤ bytes.length := by
  obtain ⟨short, length⟩ := replay_rewritten bytes
  rw [replayed] at short length
  exact ⟨replay_records short, intact_records short, length⟩

/-- A payload made by hand: its identifiers are in lower case, the first has bits above the lowest 128, and a byte
trails behind the event. -/
def loosePayload : List UInt8 :=
  word32Bytes 4 ++ (textBytes "8000000000000000000000000z" ++ (textBytes "0000000000000000000000000a" ++ [0xFF]))

theorem rewritten_log_replays_loosePayload :
    let bytes := frame loosePayload
    let es : List Event := [.claimReleased (Id.ofNat 31) (Id.ofNat 10)]
    replay bytes = es ∧ (records es).length < bytes.length ∧
      replay (records es) = es ∧ Intact (records es) ∧ (records es).length ≤ bytes.length := by
  intro bytes es
  have decoded : readEvent? loosePayload = some (.claimReleased (Id.ofNat 31) (Id.ofNat 10)) := by decide +kernel
  have framed : readFrame? bytes = some (loosePayload, []) := by
    rw [← readFrame?_frame loosePayload [] (by decide +kernel), List.append_nil]
  have read : readRecord? bytes = some (.claimReleased (Id.ofNat 31) (Id.ofNat 10), []) := by
    simp only [readRecord?, framed, decoded, Option.bind_eq_bind, Option.bind_some, Option.pure_def]
  have replayed : replay bytes = es := replay_of_some read
  exact ⟨replayed, by decide +kernel, rewritten_log_replays replayed⟩

end Log

end Bookings
