import Bookings.Log.Record
import Bookings.Proofs.Log.Layout

namespace Bookings.Log

theorem records_concat (es : List Event) (e : Event) : records (es ++ [e]) = records es ++ record e := by
  rw [records_append]
  exact congrArg _ (List.append_nil (record e))

/-- The length of the event's bytes fits the four bytes that a record has for it. -/
def Short (e : Event) : Prop := (eventBytes e).length < 2 ^ 32

instance (e : Event) : Decidable (Short e) := inferInstanceAs (Decidable (_ < _))

theorem readFrame?_frame (payload rest : List UInt8) (short : payload.length < 2 ^ 32) :
    readFrame? (frame payload ++ rest) = some (payload, rest) := by
  have low : payload.length % 256 ^ 4 = payload.length := Nat.mod_eq_of_lt (by omega)
  simp only [frame, readFrame?, List.append_assoc, readWord?_wordBytes, low, Option.bind_eq_bind, Option.bind_some,
    takeBytes?_append, readWord32?_word32Bytes, if_true, Option.pure_def]

theorem readRecord?_record {e : Event} (short : Short e) (rest : List UInt8) :
    readRecord? (record e ++ rest) = some (e, rest) := by
  have framed := readFrame?_frame (eventBytes e) rest short
  have decoded := readEvent?_eventBytes e [] (Nat.lt_trans short (by decide))
  rw [List.append_nil] at decoded
  simp [readRecord?, record, framed, decoded]

theorem length_of_readWord? {count n : Nat} {bytes rest : List UInt8} (read : readWord? count bytes = some (n, rest)) :
    bytes.length = count + rest.length := by
  induction count generalizing bytes n with
  | zero =>
    cases read
    omega
  | succ count ih =>
    cases bytes with
    | nil => contradiction
    | cons b bytes =>
      rw [readWord?] at read
      split at read
      · rename_i m left found
        cases read
        have tail := ih found
        rw [List.length_cons]
        omega
      · contradiction

theorem length_of_takeBytes? {count : Nat} {bytes taken rest : List UInt8}
    (read : takeBytes? count bytes = some (taken, rest)) : bytes.length = count + rest.length := by
  rw [takeBytes?] at read
  split at read
  · rename_i full
    cases read
    rw [List.length_take] at full
    rw [List.length_drop]
    omega
  · contradiction

theorem readRecord?_shortens {bytes rest : List UInt8} {e : Event} (read : readRecord? bytes = some (e, rest)) :
    rest.length < bytes.length := by
  simp only [readRecord?, readFrame?, Option.bind_eq_bind, Option.bind_eq_some_iff, Option.pure_def,
    Option.some.injEq, Prod.mk.injEq, Prod.exists, readWord32?] at read
  obtain ⟨payload, left, framed, event, decoded, same, rfl⟩ := read
  obtain ⟨size, afterSize, sized, taken, afterPayload, cut, sum, afterSum, summed, matched⟩ := framed
  split at summed
  · rename_i n final last
    cases summed
    split at matched
    · cases matched
      have first := length_of_readWord? sized
      have second := length_of_takeBytes? cut
      have third := length_of_readWord? last
      omega
    · contradiction
  · contradiction

theorem replayUpTo_eq_replay {limit : Nat} {bytes : List UInt8} (enough : bytes.length ≤ limit) :
    replayUpTo limit bytes = replay bytes := by
  -- By induction on a bound of the bytes left, for what a record leaves is shorter.
  have bounded : ∀ (size : Nat) (bytes : List UInt8), bytes.length ≤ size → ∀ limit, size ≤ limit →
      replayUpTo limit bytes = replayUpTo size bytes := by
    intro size
    induction size with
    | zero =>
      intro bytes empty limit _
      cases limit with
      | zero => rfl
      | succ limit =>
        rw [replayUpTo, replayUpTo]
        split
        · rename_i e rest read
          have shorter := readRecord?_shortens read
          omega
        · rfl
    | succ size ih =>
      intro bytes bound limit above
      obtain ⟨limit, rfl⟩ : ∃ n, limit = n + 1 := ⟨limit - 1, by omega⟩
      rw [replayUpTo, replayUpTo]
      split
      · rename_i e rest read
        have shorter := readRecord?_shortens read
        rw [ih rest (by omega) limit (by omega)]
      · rfl
  exact bounded bytes.length bytes (Nat.le_refl _) limit enough

theorem replay_of_some {bytes rest : List UInt8} {e : Event} (read : readRecord? bytes = some (e, rest)) :
    replay bytes = e :: replay rest := by
  have shorter := readRecord?_shortens read
  obtain ⟨size, found⟩ : ∃ n, bytes.length = n + 1 := ⟨bytes.length - 1, by omega⟩
  rw [replay, found, replayUpTo, read]
  dsimp only
  rw [replayUpTo_eq_replay (by omega)]

theorem replay_of_none {bytes : List UInt8} (bad : readRecord? bytes = none) : replay bytes = [] := by
  rw [← replayUpTo_eq_replay (Nat.le_succ bytes.length), replayUpTo, bad]

theorem replay_record_append {e : Event} (short : Short e) (bytes : List UInt8) :
    replay (record e ++ bytes) = e :: replay bytes := replay_of_some (readRecord?_record short bytes)

theorem replay_records_append {es : List Event} (short : ∀ e ∈ es, Short e) (bytes : List UInt8) :
    replay (records es ++ bytes) = es ++ replay bytes := by
  induction es with
  | nil => rfl
  | cons e es ih =>
    obtain ⟨first, rest⟩ := List.forall_mem_cons.mp short
    rw [records_cons, List.append_assoc, replay_record_append first, ih rest, List.cons_append]

theorem replay_records {es : List Event} (short : ∀ e ∈ es, Short e) : replay (records es) = es := by
  have whole := replay_records_append short []
  rw [List.append_nil] at whole
  rw [whole]
  exact List.append_nil es

end Bookings.Log
