import Bookings.Proofs.Queue.Rows

namespace Bookings

theorem countP_modify_le_succ {α : Type} (p : α → Bool) (f : α → α) (i : Nat) (l : List α) :
    (l.modify i f).countP p ≤ l.countP p + 1 := by
  induction l generalizing i with
  | nil => simp
  | cons a l ih =>
    cases i with
    | zero =>
      rw [List.modify_zero_cons, List.countP_cons, List.countP_cons]
      split <;> split <;> omega
    | succ i =>
      have rest := ih i
      rw [List.modify_succ_cons, List.countP_cons, List.countP_cons]
      omega

namespace Queue

variable (p : Slot → Bool)

theorem countP_insert (q : Queue) (slot : Slot) :
    (q.insert slot).rows.countP p = q.rows.countP p + if p slot = true then 1 else 0 := by
  rw [(rows_insert_perm q slot).countP_eq, List.countP_cons]

theorem countP_foldl_insert (q : Queue) (slots : List Slot) (none : ∀ s ∈ slots, p s = false) :
    (slots.foldl Queue.insert q).rows.countP p = q.rows.countP p := by
  have others : slots.countP p = 0 := by
    rw [List.countP_eq_zero]
    intro s member held
    rw [none s member] at held
    contradiction
  rw [(rows_foldl_insert_perm q slots).countP_eq, List.countP_append, others, Nat.zero_add]

theorem countP_modify_of_same (q : Queue) (id : Id) (f : Slot → Slot) (same : ∀ s, p (f s) = p s) :
    (q.modify id f).rows.countP p = q.rows.countP p := by
  have images := map_rows_modify p q id f same
  have counted : ∀ rows : List Slot, rows.countP p = (rows.map p).countP fun b => b := by
    intro rows
    rw [List.countP_map]
    rfl
  rw [counted, images, ← counted]

theorem countP_modify_le {q : Queue} (distinct : q.Distinct) (id : Id) (f : Slot → Slot)
    (kept : ∀ s ∈ q.rows, s.id = id → p (f s) = true → p s = true) :
    (q.modify id f).rows.countP p ≤ q.rows.countP p := by
  rw [rows_modify distinct, List.countP_map]
  apply List.countP_mono_left
  intro s member held
  simp only [Function.comp_apply] at held
  split at held
  · rename_i named
    exact kept s member named held
  · exact held

theorem countP_rows_modify_le_succ (q : Queue) (id : Id) (f : Slot → Slot) :
    (q.modify id f).rows.countP p ≤ q.rows.countP p + 1 := by
  rw [rows_modify_cases]
  split
  · exact countP_modify_le_succ _ _ _ _
  · omega

theorem countP_modify {q : Queue} (distinct : q.Distinct) {row : Slot} (member : row ∈ q.rows) (f : Slot → Slot) :
    (q.modify row.id f).rows.countP p + (if p row = true then 1 else 0) =
      q.rows.countP p + if p (f row) = true then 1 else 0 := by
  rw [rows_modify distinct]
  rw [Distinct] at distinct
  obtain ⟨front, back, split⟩ := List.append_of_mem member
  rw [split] at distinct ⊢
  rw [List.map_append, List.map_cons, List.nodup_append, List.nodup_cons] at distinct
  obtain ⟨_, ⟨behind, _⟩, before⟩ := distinct
  have others : ∀ {rows : List Slot}, (∀ s ∈ rows, s.id ≠ row.id) →
      (rows.map fun s => if s.id = row.id then f s else s) = rows := by
    intro rows differ
    have same : (rows.map fun s => if s.id = row.id then f s else s) = rows.map fun s => s :=
      List.map_congr_left fun s present => if_neg (differ s present)
    rw [same, List.map_id']
  have early : ∀ s ∈ front, s.id ≠ row.id :=
    fun s present same => before _ (List.mem_map_of_mem present) _ List.mem_cons_self same
  have late : ∀ s ∈ back, s.id ≠ row.id := by
    intro s present same
    rw [← same] at behind
    exact behind (List.mem_map_of_mem present)
  rw [List.map_append, List.map_cons, others early, others late, if_pos rfl, List.countP_append, List.countP_append,
    List.countP_cons, List.countP_cons]
  omega

end Queue

end Bookings
