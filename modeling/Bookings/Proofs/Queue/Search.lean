import Bookings.Queue.Bisect

namespace Bookings

/-- Where the predicate holds on an initial part only, the search finds the end of that part. -/
theorem bisect_separates (holds : Nat → Bool) (fuel low high : Nat)
    (closed : ∀ i j, i ≤ j → holds j = true → holds i = true)
    (enough : high - low ≤ fuel) (ordered : low ≤ high)
    (below : ∀ i < low, holds i = true) (above : ∀ i, high ≤ i → holds i = false) :
    (∀ i < bisect holds fuel low high, holds i = true) ∧
      ∀ i, bisect holds fuel low high ≤ i → holds i = false := by
  induction fuel generalizing low high with
  | zero =>
    have met : low = high := by omega
    subst met
    exact ⟨below, above⟩
  | succ fuel ih =>
    -- Either half keeps the invariant: the predicate holds below `low` and fails from `high` on.
    rw [bisect]
    split
    · rename_i between
      have middle : low ≤ (low + high) / 2 ∧ (low + high) / 2 < high := by omega
      dsimp only
      split
      · rename_i held
        have start : ∀ i < (low + high) / 2 + 1, holds i = true :=
          fun i hi => closed i _ (by omega) held
        exact ih _ _ (by omega) (by omega) start above
      · rename_i failed
        have rest : ∀ i, (low + high) / 2 ≤ i → holds i = false :=
          fun i hi => Bool.eq_false_iff.mpr fun h => failed (closed _ i hi h)
        exact ih _ _ (by omega) (by omega) below rest
    · have met : low = high := by omega
      subst met
      exact ⟨below, above⟩

theorem lt_partitionPoint_iff {α : Type} (holds : α → Bool) (xs : Array α)
    (closed : xs.toList.Pairwise fun a b => holds b = true → holds a = true)
    (i : Nat) (bound : i < xs.size) :
    i < partitionPoint holds xs ↔ holds xs[i] = true := by
  have initial : ∀ i j : Nat, i ≤ j → (xs[j]?.map holds).getD false = true →
      (xs[i]?.map holds).getD false = true := by
    intro i j ordered h
    rcases Nat.eq_or_lt_of_le ordered with rfl | before
    · exact h
    · by_cases hj : j < xs.size
      · have hi : i < xs.size := by omega
        have pair := (List.pairwise_iff_getElem.mp closed) i j (by simpa using hi) (by simpa using hj) before
        simp only [Array.getElem_toList] at pair
        simp only [Array.getElem?_eq_getElem hj, Array.getElem?_eq_getElem hi, Option.map_some,
          Option.getD_some] at h ⊢
        exact pair h
      · rw [Array.getElem?_eq_none (by omega)] at h
        contradiction
  have none : ∀ i : Nat, xs.size ≤ i → (xs[i]?.map holds).getD false = false := by
    intro i outside
    rw [Array.getElem?_eq_none outside]
    rfl
  have separated := bisect_separates _ xs.size 0 xs.size initial (by omega) (by omega)
    (fun i h => absurd h (Nat.not_lt_zero i)) none
  have value : (xs[i]?.map holds).getD false = holds xs[i] := by
    rw [Array.getElem?_eq_getElem bound]
    rfl
  rw [← value]
  constructor
  · exact separated.1 i
  · intro h
    apply Nat.lt_of_not_le
    intro outside
    rw [separated.2 i outside] at h
    contradiction

theorem take_drop_eq_filter {α : Type} (p : α → Bool) (n : Nat) (l : List α)
    (split : ∀ i (h : i < l.length), i < n ↔ p l[i] = true) :
    l.take n = l.filter p ∧ l.drop n = l.filter fun a => !p a := by
  induction l generalizing n with
  | nil => simp
  | cons a l ih =>
    have head := split 0 (by simp)
    simp only [List.getElem_cons_zero] at head
    cases n with
    | zero =>
      have fails : p a = false := by simpa using head
      have rest := ih 0 fun i h => by
        have next := split (i + 1) (by simpa using h)
        simpa using next
      simp only [List.take_zero, List.drop_zero] at rest
      simp only [List.take_zero, List.drop_zero, List.filter_cons, fails, Bool.false_eq_true,
        if_false, Bool.not_false, if_true]
      exact ⟨rest.1, congrArg (a :: ·) rest.2⟩
    | succ n =>
      have holds : p a = true := head.mp (Nat.succ_pos n)
      have rest := ih n fun i h => by
        have next := split (i + 1) (by simpa using h)
        simpa using next
      simp only [List.take_succ_cons, List.drop_succ_cons, List.filter_cons, holds, if_true,
        Bool.not_true, Bool.false_eq_true, if_false]
      exact ⟨congrArg (a :: ·) rest.1, rest.2⟩

section

variable {α : Type} (holds : α → Bool) (xs : Array α)
  (closed : xs.toList.Pairwise fun a b => holds b = true → holds a = true)

include closed

theorem partitionPoint_split :
    xs.toList.take (partitionPoint holds xs) = xs.toList.filter holds ∧
      xs.toList.drop (partitionPoint holds xs) = xs.toList.filter fun a => !holds a :=
  take_drop_eq_filter holds _ _ fun i h => by
    simpa using lt_partitionPoint_iff holds xs closed i (by simpa using h)

theorem take_partitionPoint :
    xs.toList.take (partitionPoint holds xs) = xs.toList.filter holds :=
  (partitionPoint_split holds xs closed).1

theorem drop_partitionPoint :
    xs.toList.drop (partitionPoint holds xs) = xs.toList.filter fun a => !holds a :=
  (partitionPoint_split holds xs closed).2

end

end Bookings
