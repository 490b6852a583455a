import Bookings.Proofs.Log.Replay

namespace Bookings.Log

/-- What a reader takes from the front, it takes from there whatever follows. -/
def Local {α : Type} (read : List UInt8 → Option (α × List UInt8)) : Prop :=
  ∀ {bytes a rest}, read bytes = some (a, rest) → ∀ more, read (bytes ++ more) = some (a, rest ++ more)

theorem local_readWord? (count : Nat) : Local (readWord? count) := by
  intro bytes n rest read more
  induction count generalizing bytes n with
  | zero =>
    cases read
    rfl
  | succ count ih =>
    cases bytes with
    | nil => contradiction
    | cons b bytes =>
      rw [readWord?] at read
      split at read
      · rename_i m left found
        cases read
        rw [List.cons_append, readWord?, ih found]
      · contradiction

theorem local_takeBytes? (count : Nat) : Local (takeBytes? count) := by
  intro bytes taken rest read more
  rw [takeBytes?] at read
  split at read
  · rename_i full
    cases read
    have enough : count ≤ bytes.length := by
      rw [List.length_take] at full
      omega
    rw [takeBytes?, List.take_append_of_le_length enough, if_pos full, List.drop_append_of_le_length enough]
  · contradiction

theorem local_readWord32? : Local readWord32? := by
  intro bytes n rest read more
  rw [readWord32?] at read
  split at read
  · rename_i m left found
    cases read
    rw [readWord32?, local_readWord? 4 found]
  · contradiction

theorem local_readFrame? : Local readFrame? := by
  intro bytes payload rest read more
  simp only [readFrame?, Option.bind_eq_bind, Option.bind_eq_some_iff, Prod.exists] at read
  obtain ⟨size, afterSize, sized, taken, afterPayload, cut, sum, afterSum, summed, matched⟩ := read
  simp only [readFrame?, Option.bind_eq_bind, Option.bind_some, local_readWord? 4 sized, local_takeBytes? size cut,
    local_readWord32? summed]
  split at matched
  · rename_i right
    cases matched
    rw [if_pos right]
    rfl
  · contradiction

theorem local_readRecord? : Local readRecord? := by
  intro bytes e rest read more
  simp only [readRecord?, Option.bind_eq_bind, Option.bind_eq_some_iff, Prod.exists] at read
  obtain ⟨payload, left, framed, event, decoded, same⟩ := read
  cases same
  simp only [readRecord?, Option.bind_eq_bind, Option.bind_some, local_readFrame? framed, decoded]
  rfl

theorem readRecord?_of_mismatch {bytes afterSize payload afterPayload rest : List UInt8} {size : Nat} {sum : UInt32}
    (sized : readWord? 4 bytes = some (size, afterSize)) (cut : takeBytes? size afterSize = some (payload, afterPayload))
    (summed : readWord32? afterPayload = some (sum, rest)) (wrong : sum ≠ checksum payload) (more : List UInt8) :
    readRecord? (bytes ++ more) = none := by
  have framed : readFrame? (bytes ++ more) = none := by
    simp only [readFrame?, Option.bind_eq_bind, Option.bind_some, local_readWord? 4 sized more,
      local_takeBytes? size cut more, local_readWord32? summed more, if_neg wrong]
  rw [readRecord?, framed]
  rfl

/-- The bytes behind the records that replay reads. -/
def unread (bytes : List UInt8) : List UInt8 :=
  match _ : readRecord? bytes with
  | some (_, rest) => unread rest
  | none => bytes
termination_by bytes.length
decreasing_by exact readRecord?_shortens ‹_›

theorem unread_of_some {bytes rest : List UInt8} {e : Event} (read : readRecord? bytes = some (e, rest)) :
    unread bytes = unread rest := by
  rw [unread]
  split
  · rename_i found
    rw [read] at found
    cases found
    rfl
  · rename_i none
    rw [read] at none
    contradiction

theorem unread_of_none {bytes : List UInt8} (bad : readRecord? bytes = none) : unread bytes = bytes := by
  rw [unread]
  split
  · rename_i found
    rw [bad] at found
    contradiction
  · rfl

def Intact (bytes : List UInt8) : Prop := unread bytes = []

/-- What is appended is replayed behind what was left unread, not behind the last record. -/
theorem replay_append (bytes more : List UInt8) :
    replay (bytes ++ more) = replay bytes ++ replay (unread bytes ++ more) := by
  induction bytes using unread.induct with
  | case1 bytes e rest read ih =>
    rw [replay_of_some (local_readRecord? read more), replay_of_some read, unread_of_some read, ih, List.cons_append]
  | case2 bytes bad => rw [unread_of_none bad, replay_of_none bad, List.nil_append]

theorem unread_append (bytes more : List UInt8) : unread (bytes ++ more) = unread (unread bytes ++ more) := by
  induction bytes using unread.induct with
  | case1 bytes e rest read ih =>
    rw [unread_of_some (local_readRecord? read more), unread_of_some read, ih]
  | case2 bytes bad => rw [unread_of_none bad]

theorem intact_records {es : List Event} (short : ∀ e ∈ es, Short e) : Intact (records es) := by
  induction es with
  | nil => exact unread_of_none rfl
  | cons e es ih =>
    obtain ⟨first, rest⟩ := List.forall_mem_cons.mp short
    rw [Intact, records_cons, unread_of_some (readRecord?_record first _)]
    exact ih rest

/-- A record that is cut off reads as nothing: what it read as would leave the missing bytes over. -/
theorem readRecord?_take_record {e : Event} (short : Short e) {count : Nat} (cut : count < (record e).length) :
    readRecord? ((record e).take count) = none := by
  cases read : readRecord? ((record e).take count) with
  | none => rfl
  | some found =>
    obtain ⟨other, rest⟩ := found
    have whole := local_readRecord? read ((record e).drop count)
    have exact_ := readRecord?_record short []
    rw [List.take_append_drop] at whole
    rw [List.append_nil, whole] at exact_
    have behind : rest ++ (record e).drop count = [] := congrArg Prod.snd (Option.some.inj exact_)
    have missing := congrArg List.length (List.append_eq_nil_iff.mp behind).2
    rw [List.length_drop, List.length_nil] at missing
    omega

/-- Replay of a log that is cut off at any byte gives the events whose records end there or before; the record of
the event that comes `i`-th ends where the records of the first `i` events do. -/
theorem replay_take_records {es : List Event} (short : ∀ e ∈ es, Short e) (count : Nat) :
    ∃ n ≤ es.length, replay ((records es).take count) = es.take n ∧
      ∀ i ≤ es.length, (records (es.take i)).length ≤ count ↔ i ≤ n := by
  induction es generalizing count with
  | nil =>
    refine ⟨0, Nat.le_refl 0, ?_, ?_⟩
    · rw [records, List.flatMap_nil, List.take_nil]
      rfl
    · intro i bound
      cases Nat.le_zero.mp bound
      exact iff_of_true (Nat.zero_le _) (Nat.le_refl 0)
  | cons e es ih =>
    obtain ⟨first, rest⟩ := List.forall_mem_cons.mp short
    have ends : ∀ i, (records ((e :: es).take (i + 1))).length = (record e).length + (records (es.take i)).length := by
      intro i
      rw [List.take_succ_cons, records_cons, List.length_append]
    by_cases whole : (record e).length ≤ count
    · -- The first record is whole, and the cut is as far behind it in the others.
      obtain ⟨n, bound, replayed, ending⟩ := ih rest (count - (record e).length)
      refine ⟨n + 1, Nat.succ_le_succ bound, ?_, ?_⟩
      · rw [records_cons, List.take_append, List.take_of_length_le whole, replay_record_append first, replayed,
          List.take_succ_cons]
      · intro i inside
        cases i with
        | zero => exact iff_of_true (Nat.zero_le _) (Nat.zero_le _)
        | succ i =>
          have next := ending i (Nat.le_of_succ_le_succ inside)
          rw [ends]
          omega
    · -- The cut falls into the first record.
      have cut : count < (record e).length := Nat.lt_of_not_le whole
      refine ⟨0, Nat.zero_le _, ?_, ?_⟩
      · rw [records_cons, List.take_append_of_le_length (Nat.le_of_lt cut),
          replay_of_none (readRecord?_take_record first cut), List.take_zero]
      · intro i inside
        cases i with
        | zero => exact iff_of_true (Nat.zero_le _) (Nat.zero_le _)
        | succ i =>
          rw [ends]
          omega

end Bookings.Log
