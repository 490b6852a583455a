import Bookings.Proofs.Queue.Rows

namespace Bookings

namespace Slot

def tied (t : Instant) (rows : List Slot) : List Slot := rows.filter fun s => s.scheduledTime = t

theorem mem_tied {t : Instant} {rows : List Slot} {s : Slot} : s ∈ tied t rows ↔ s ∈ rows ∧ s.scheduledTime = t := by
  rw [tied, List.mem_filter, decide_eq_true_eq]

theorem tied_append (t : Instant) (rows more : List Slot) : tied t (rows ++ more) = tied t rows ++ tied t more :=
  List.filter_append _ _

theorem tied_cons (t : Instant) (s : Slot) (rows : List Slot) :
    tied t (s :: rows) = if s.scheduledTime = t then s :: tied t rows else tied t rows := by
  rw [tied, List.filter_cons, tied]
  simp only [decide_eq_true_eq]

theorem tied_filter (t : Instant) (p : Instant → Bool) (rows : List Slot) :
    tied t (rows.filter fun s => p s.scheduledTime) = if p t = true then tied t rows else [] := by
  have level : ∀ s : Slot, (decide (s.scheduledTime = t) && p s.scheduledTime) = (decide (s.scheduledTime = t) && p t) := by
    intro s
    by_cases same : s.scheduledTime = t
    · rw [same]
    · rw [decide_eq_false same, Bool.false_and, Bool.false_and]
  rw [tied, List.filter_filter, List.filter_congr fun s _ => level s, ← List.filter_filter]
  split
  · rename_i held
    rw [held, List.filter_true]
    rfl
  · rename_i failed
    rw [Bool.eq_false_iff.mpr failed, List.filter_false]
    rfl

def InOrder (rows : List Slot) : Prop := rows.Pairwise fun a b => a.scheduledTime ≤ b.scheduledTime

/-- Rows in order of their times, those of equal time in the order in which they came. -/
structure Ordered (came rows : List Slot) : Prop where
  sorted : InOrder rows
  ties : ∀ t, tied t rows = tied t came

section

variable {came rows others : List Slot}

theorem mem_of_ties (ties : ∀ t, tied t rows = tied t others) {s : Slot} (member : s ∈ rows) : s ∈ others := by
  have mine : s ∈ tied s.scheduledTime rows := mem_tied.mpr ⟨member, rfl⟩
  rw [ties] at mine
  exact (mem_tied.mp mine).1

theorem head_le_of_ties {first s : Slot} (sorted : InOrder (first :: others))
    (ties : ∀ t, tied t rows = tied t (first :: others)) (member : s ∈ rows) :
    first.scheduledTime ≤ s.scheduledTime := by
  rcases List.mem_cons.mp (mem_of_ties ties member) with rfl | behind
  · exact Int64.le_refl _
  · exact List.rel_of_pairwise_cons sorted behind

theorem eq_of_ties (mine : InOrder rows) (theirs : InOrder others) (ties : ∀ t, tied t rows = tied t others) :
    rows = others := by
  induction rows generalizing others with
  | nil =>
    have none : ∀ s, s ∉ others := fun s member => List.not_mem_nil (mem_of_ties (fun t => (ties t).symm) member)
    exact (List.eq_nil_iff_forall_not_mem.mpr none).symm
  | cons a rows ih =>
    cases others with
    | nil => exact absurd (mem_of_ties ties List.mem_cons_self) List.not_mem_nil
    | cons b others =>
      -- Both heads are of the least time, so they lead the same ties.
      have low := head_le_of_ties mine (fun t => (ties t).symm) List.mem_cons_self
      have high := head_le_of_ties theirs ties List.mem_cons_self
      have together : a.scheduledTime = b.scheduledTime := Int64.le_antisymm low high
      have heads := ties b.scheduledTime
      rw [tied_cons, tied_cons, if_pos together, if_pos rfl] at heads
      have tails : ∀ t, tied t rows = tied t others := by
        intro t
        have both := ties t
        rw [tied_cons, tied_cons, together] at both
        split at both
        · exact (List.cons.inj both).2
        · exact both
      rw [(List.cons.inj heads).1, ih mine.of_cons theirs.of_cons tails]

theorem Ordered.unique (first : Ordered came rows) (second : Ordered came others) : rows = others :=
  eq_of_ties first.sorted second.sorted fun t => (first.ties t).trans (second.ties t).symm

def notLater (a b : Slot) : Bool := a.scheduledTime ≤ b.scheduledTime

theorem notLater_iff (a b : Slot) : a.notLater b = true ↔ a.scheduledTime ≤ b.scheduledTime := by
  rw [notLater, decide_eq_true_eq]

theorem notLater_trans (a b c : Slot) (first : a.notLater b = true) (second : b.notLater c = true) :
    a.notLater c = true := by
  rw [notLater_iff] at first second ⊢
  exact Int64.le_trans first second

theorem notLater_total (a b : Slot) : (a.notLater b || b.notLater a) = true := by
  rw [Bool.or_eq_true, notLater_iff, notLater_iff]
  exact Int64.le_total _ _

theorem tied_mergeSort (t : Instant) (came : List Slot) : tied t (came.mergeSort notLater) = tied t came := by
  -- Rows of one time are in order as they stand, so the sort keeps them so, and it loses none.
  have level : (tied t came).Pairwise fun a b => a.notLater b = true := by
    refine List.pairwise_of_forall_mem_list fun a early b late => ?_
    rw [notLater_iff, (mem_tied.mp early).2, (mem_tied.mp late).2]
    exact Int64.le_refl t
  have kept := (List.sublist_mergeSort notLater_trans notLater_total level List.filter_sublist).filter
    fun s => decide (s.scheduledTime = t)
  have again : (tied t came).filter (fun s => decide (s.scheduledTime = t)) = tied t came := by
    rw [tied, List.filter_filter]
    simp only [Bool.and_self]
  rw [again] at kept
  have all := ((List.mergeSort_perm came notLater).filter fun s => decide (s.scheduledTime = t)).length_eq
  exact (kept.eq_of_length all.symm).symm

theorem ordered_mergeSort (came : List Slot) : Ordered came (came.mergeSort notLater) where
  sorted := (List.pairwise_mergeSort notLater_trans notLater_total came).imp (notLater_iff _ _).mp
  ties t := tied_mergeSort t came

end

end Slot

namespace Queue

/-- The new row is the last of its time: rows of another time are all before its place or all behind it. -/
theorem tied_insert {q : Queue} (sorted : q.Sorted) (slot : Slot) (t : Instant) :
    Slot.tied t (q.insert slot).rows = Slot.tied t q.rows ++ Slot.tied t [slot] := by
  rw [rows_insert sorted, Slot.tied_append, Slot.tied_cons, Slot.tied_cons,
    Slot.tied_filter t (fun time => decide (time ≤ slot.scheduledTime)),
    Slot.tied_filter t (fun time => decide (slot.scheduledTime < time))]
  rcases Int64.lt_or_le slot.scheduledTime t with early | late
  · have differs : slot.scheduledTime ≠ t := Int64.ne_of_lt early
    rw [if_neg differs, if_neg differs, if_neg (by simpa using early), if_pos (decide_eq_true early), List.nil_append]
    exact (List.append_nil _).symm
  · have none : ¬decide (slot.scheduledTime < t) = true := by simpa using late
    rw [if_pos (decide_eq_true late), if_neg none]
    rfl

theorem ordered_insert {q : Queue} {came : List Slot} (ordered : Slot.Ordered came q.rows) (slot : Slot) :
    Slot.Ordered (came ++ [slot]) (q.insert slot).rows where
  sorted := Sorted.insert ordered.sorted slot
  ties t := by rw [tied_insert ordered.sorted, Slot.tied_append, ordered.ties]

theorem ordered_foldl_insert {q : Queue} {came : List Slot} (ordered : Slot.Ordered came q.rows) (slots : List Slot) :
    Slot.Ordered (came ++ slots) (slots.foldl Queue.insert q).rows := by
  induction slots generalizing q came with
  | nil =>
    rw [List.append_nil]
    exact ordered
  | cons slot slots ih =>
    have rest := ih (ordered_insert ordered slot)
    rw [List.append_assoc] at rest
    exact rest

/-- Inserting rows one by one is a stable sort by time, and what a window, a timeslot or a student's name finds are
the rows that it describes, in that order. -/
theorem insertions_sort_and_searches_filter (slots : List Slot) :
    let q := slots.foldl Queue.insert .empty
    Slot.Ordered slots q.rows ∧ q.rows = slots.mergeSort Slot.notLater ∧
      ∀ w : Span, q.within w = (q.rows.filter fun s => w.contains s.scheduledTime) ∧
        (∀ timeslot : UInt32, q.atTimeslot w timeslot =
          q.rows.filter fun s => w.contains s.scheduledTime ∧ s.timeslot = timeslot) ∧
        ∀ email : String, q.claimedBy w email =
          q.rows.filter fun s => w.contains s.scheduledTime ∧ s.student = some email := by
  intro q
  have blank : Slot.Ordered [] empty.rows := ⟨sorted_empty, fun _ => rfl⟩
  have ordered : Slot.Ordered slots q.rows := ordered_foldl_insert blank slots
  have found := within_eq_filter (q := q) ordered.sorted
  refine ⟨ordered, ordered.unique (Slot.ordered_mergeSort slots), fun w => ⟨found w, fun timeslot => ?_, fun email => ?_⟩⟩
  · rw [atTimeslot, found, List.filter_filter]
    apply List.filter_congr
    intro s _
    simp [Bool.and_comm]
  · rw [claimedBy, found, List.filter_filter]
    apply List.filter_congr
    intro s _
    simp [Slot.isClaimedBy, Bool.and_comm, beq_eq_decide]

end Queue

end Bookings
