namespace Bookings

/-- Halves the positions between `low` and `high`; `fuel` bounds the number of halvings. -/
def bisect (holds : Nat → Bool) : (fuel low high : Nat) → Nat
  | 0, low, _ => low
  | fuel + 1, low, high =>
    if low < high then
      let middle := (low + high) / 2
      if holds middle then bisect holds fuel (middle + 1) high
      else bisect holds fuel low middle
    else low

theorem bisect_le (holds : Nat → Bool) (fuel low high : Nat) (ordered : low ≤ high) :
    bisect holds fuel low high ≤ high := by
  induction fuel generalizing low high with
  | zero => simpa only [bisect] using ordered
  | succ fuel ih =>
    simp only [bisect]
    split
    · split
      · exact ih _ _ (by omega)
      · exact Nat.le_trans (ih _ _ (by omega)) (by omega)
    · exact ordered

def partitionPoint {α : Type} (holds : α → Bool) (xs : Array α) : Nat :=
  bisect (fun i => (xs[i]?.map holds).getD false) xs.size 0 xs.size

theorem partitionPoint_le {α : Type} (holds : α → Bool) (xs : Array α) :
    partitionPoint holds xs ≤ xs.size :=
  bisect_le _ _ _ _ (Nat.zero_le _)

end Bookings
