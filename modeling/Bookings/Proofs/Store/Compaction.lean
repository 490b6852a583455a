import Bookings.Proofs.Store.Snapshot
import Bookings.Proofs.Store.Written

namespace Bookings

namespace Store

def compactIn (s : Store) (queues : List (Id × Queue)) : Except StoreError Unit × Store :=
  match s.journal.compact (Register.snapshotOf queues) with
  | (.ok (), journal) => (.ok (), { s with journal })
  | (.error cause, journal) => (.error (.logFailed (.journal cause)), { s with journal })

theorem compact_eq (s : Store) : s.compact = s.compactIn s.register.queues.toList := rfl

theorem register_compactIn (s : Store) (queues : List (Id × Queue)) : (s.compactIn queues).2.register = s.register := by
  rw [compactIn]
  split <;> rfl

theorem ready_after {s : Store} (ready : s.journal.Ready) (calls : List Call) : (s.after calls).journal.Ready := by
  induction calls generalizing s with
  | nil => exact ready
  | cons c calls ih =>
    apply ih
    have written := fun e => ready.write e
    cases s.outcome c with
    | kept same journal => exact journal ▸ ready
    | unlogged e hoped cause admitted same refused =>
      have refusing := written e
      rw [refused] at refusing
      exact refusing
    | recorded e admitted same logged =>
      have logging := written e
      rw [logged] at logging
      exact logging

section

variable {s : Store} {queues : List (Id × Queue)}

theorem compactIn_ok (ready : s.journal.Ready) (queues : List (Id × Queue)) : (s.compactIn queues).1 = .ok () := by
  rcases s.journal.compact_cases (Register.snapshotOf queues) with ⟨k, done, _⟩ | ⟨cause, _, unready⟩
  · rw [compactIn, done]
  · exact absurd ready unready

theorem keeps_compactIn {es : List Event} (keeps : s.journal.Keeps es) (queues : List (Id × Queue)) :
    (s.compactIn queues).2.journal.Keeps
      (if (s.compactIn queues).1 = .ok () then Register.snapshotOf queues else es) := by
  rcases s.journal.compact_cases (Register.snapshotOf queues) with ⟨k, done, replaced⟩ | ⟨cause, failed, _⟩
  · rw [compactIn, done]
    exact replaced
  · rw [compactIn, failed]
    exact keeps

theorem faithful_compactIn {es : List Event} (faithful : s.Faithful es) (formed : s.register.WellFormed)
    (listed : queues.Perm s.register.queues.toList) :
    (s.compactIn queues).2.Faithful (if (s.compactIn queues).1 = .ok () then Register.snapshotOf queues else es) := by
  refine ⟨keeps_compactIn faithful.keeps queues, ?_⟩
  rw [register_compactIn]
  split
  · exact (formed.snapshotOf_same listed).symm
  · exact faithful.same

end

/-- Between calls, compaction in any order of queues changes nothing that a restart could show: not at once, not
after further calls, and not if it is cut off while it writes its draft. -/
theorem compaction_unobservable {d : Log.Disk} {calls : List Call} {queues : List (Id × Queue)} (steady : d.Steady)
    (blank : d.bytes = []) (supplied : (Store.open d).Supplied calls)
    (listed : queues.Perm ((Store.open d).after calls).register.queues.toList)
    (short : ∀ e ∈ (Store.open d).written calls ++ Register.snapshotOf queues, Log.Short e) :
    let s := (Store.open d).after calls
    let t := (s.compactIn queues).2
    t.register = s.register ∧
      (d.blocked = false → (s.compactIn queues).1 = .ok () ∧ ∀ more,
        (t.after more).journal.disk.bytes = Log.records (Register.snapshotOf queues ++ t.written more)) ∧
      (∀ more, (∀ e ∈ t.written more, Log.Short e) →
        (Store.open (t.after more).journal.disk).register.Same (t.after more).register) ∧
      ∀ count, (Store.open { s.journal.disk with
        draft := some ⟨((Log.records (Register.snapshotOf queues)).take count).toArray⟩ }).register.Same s.register := by
  intro s t
  have faithful : s.Faithful ((Store.open d).written calls) := (faithful_open steady blank).after calls
  have started : (Store.open d).register.WellFormed := by
    rw [Store.open, blank]
    exact Register.wellFormed_empty
  have formed : s.register.WellFormed :=
    keeps_after Register.wellFormed_keeps (fun _ _ _ => True.intro) supplied started
  have replaced := faithful_compactIn faithful formed listed
  refine ⟨register_compactIn s queues, ?_, ?_, ?_⟩
  · intro unblocked
    have done : (s.compactIn queues).1 = .ok () := compactIn_ok (ready_after ⟨rfl, unblocked⟩ calls) queues
    rw [if_pos done] at replaced
    exact ⟨done, fun more => (replaced.after more).keeps.bytes⟩
  · intro more appended
    refine (replaced.after more).reopen ?_ rfl
    intro e member
    rcases List.mem_append.mp member with old | new
    · apply short
      split at old
      · exact List.mem_append_right _ old
      · exact List.mem_append_left _ old
    · exact appended e new
  · intro count
    exact faithful.reopen (fun e member => short e (List.mem_append_left _ member)) rfl

def spreadCalls : List Call :=
  busyCalls ++ [.insert { bookedRow with id := Id.ofNat 3, queue := Id.ofNat 8 } ⟨⟨0, 1⟩, 1, none⟩]

theorem compaction_unobservable_spreadCalls :
    let s := (Store.open {}).after spreadCalls
    let queues := s.register.queues.toList.reverse
    let t := (s.compactIn queues).2
    queues.map Prod.fst = [Id.ofNat 8, Id.ofNat 7] ∧
      (t.after [.release (Id.ofNat 3) "ada@x.edu"]).journal.disk.bytes =
        Log.records (Register.snapshotOf queues ++ [.claimReleased (Id.ofNat 3) (Id.ofNat 8)]) ∧
      (Store.open (t.after [.release (Id.ofNat 3) "ada@x.edu"]).journal.disk).register.Same
        (t.after [.release (Id.ofNat 3) "ada@x.edu"]).register := by
  dsimp only
  have supplied : (Store.open {}).Supplied spreadCalls :=
    supplied_of_fresh (Register.fresh_empty (by decide +kernel))
  have listed := List.reverse_perm ((Store.open {}).after spreadCalls).register.queues.toList
  have short : ∀ e ∈ (Store.open {}).written spreadCalls ++
      Register.snapshotOf ((Store.open {}).after spreadCalls).register.queues.toList.reverse, Log.Short e := by
    decide +kernel
  have steady : Log.Disk.Steady {} := .inl ⟨rfl, rfl⟩
  obtain ⟨_, compacted, reopened, _⟩ := compaction_unobservable steady rfl supplied listed short
  have bytes := (compacted rfl).2 [.release (Id.ofNat 3) "ada@x.edu"]
  have again := reopened [.release (Id.ofNat 3) "ada@x.edu"]
  generalize replaced : (compactIn _ _).2 = t at bytes again ⊢
  have released : t.written [.release (Id.ofNat 3) "ada@x.edu"] = [.claimReleased (Id.ofNat 3) (Id.ofNat 8)] := by
    rw [← replaced]
    decide +kernel
  rw [released] at bytes again
  exact ⟨by decide +kernel, bytes, again (by decide +kernel)⟩

end Store

end Bookings
