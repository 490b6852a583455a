import Bookings.Proofs.Desk.Conduct
import Bookings.Proofs.Store.Consistency
import Mathlib.Data.List.Perm.Subperm

namespace Bookings

theorem flatten_map_set {α β : Type} {l : List (List α × β)} {i : Nat} {mine : List α} {b : β}
    (present : l[i]? = some (mine, b)) :
    ∃ others, (l.map Prod.fst).flatten.Perm (mine ++ others) ∧
      ∀ left c, ((l.set i (left, c)).map Prod.fst).flatten.Perm (left ++ others) := by
  have named : (l.map Prod.fst)[i]? = some mine := by rw [List.getElem?_map, present, Option.map_some]
  obtain ⟨others, whole, changed⟩ := flatten_split named
  refine ⟨others, whole, fun left c => ?_⟩
  rw [List.map_set]
  exact changed left

namespace Service

/-- What a service can come to, with the plans of the requests under way. Requests arrive from anyone at any time and
take steps in any order, each of which may meet faults. In between the log is compacted, and anything may become of it
and of its writer: the disk fills up or has room again, and what was held goes out late. The service starts again,
without the plans that were under way, from a log that tells the state in memory. -/
inductive Reached (ids : Nat → Id) (zone : Zone) : Service → List (Plan Response) → Prop
  | started {d : Log.Disk} (blank : d.bytes = []) : Reached ids zone (start d) []
  | arrived {s : Service} {plans : List (Plan Response)} (reached : Reached ids zone s plans) (now : Instant)
      (r : Request) : Reached ids zone s (plans ++ [(Desk.mk zone now).dispatch r])
  | stepped {s : Service} {plans : List (Plan Response)} {i : Nat} {p : Plan Response}
      (reached : Reached ids zone s plans) (chosen : plans[i]? = some p) (faults : Faults) :
      Reached ids zone (p.step (world ids faults) s).2 (plans.set i (p.step (world ids faults) s).1)
  | compacted {s : Service} {plans : List (Plan Response)} {queues : List (Id × Queue)}
      (reached : Reached ids zone s plans) (listed : queues.Perm s.store.register.queues.toList) :
      Reached ids zone { s with store := (s.store.compactIn queues).2 } plans
  | worn {s : Service} {plans : List (Plan Response)} (reached : Reached ids zone s plans) (journal : Log.Journal) :
      Reached ids zone { s with store := { s.store with journal } } plans
  | restarted {s : Service} {plans : List (Plan Response)} {d : Log.Disk} (reached : Reached ids zone s plans)
      (told : (Store.open d).register.Same s.store.register) : Reached ids zone { s with store := Store.open d } []

/-- The state is consistent and lawful. What calls have brought, and what the plans under way have taken and are still
to bring, are different identifiers of the supply. -/
structure Accounted (ids : Nat → Id) (zone : Zone) (s : Service) (used : List Id)
    (held : List (List Id × Plan Response)) : Prop where
  consistent : s.store.register.Consistent used
  lawful : s.store.register.Lawful zone
  proper : ∀ h ∈ held, h.2.Proper zone h.1
  drawn : List.Subperm (used ++ (held.map Prod.fst).flatten) ((List.range s.minted).map ids)

variable {ids : Nat → Id} {zone : Zone} {s : Service} {used : List Id} {held : List (List Id × Plan Response)}

theorem Accounted.distinct (accounted : s.Accounted ids zone used held)
    (distinct : ((List.range s.minted).map ids).Nodup) : (used ++ (held.map Prod.fst).flatten).Nodup := by
  obtain ⟨drawn, same, among⟩ := accounted.drawn
  exact same.nodup_iff.mp (distinct.sublist among)

/-- A step spends identifiers that the plan holds, or draws one. -/
theorem Accounted.step (accounted : s.Accounted ids zone used held)
    (distinct : ((List.range s.minted).map ids).Nodup) {i : Nat} {mine : List Id} {p : Plan Response}
    (chosen : held[i]? = some (mine, p)) (faults : Faults) :
    ∃ more left, (p.step (world ids faults) s).2.Accounted ids zone more
      (held.set i (left, (p.step (world ids faults) s).1)) := by
  have apart := accounted.distinct distinct
  obtain ⟨consistent, lawful, proper, drawn⟩ := accounted
  obtain ⟨asks⟩ := proper _ (List.mem_of_getElem? chosen)
  obtain ⟨others, whole, changed⟩ := flatten_map_set chosen
  have before := (whole.append_left used).subperm_right.mp drawn
  have after : ∀ {used left q} {t : Service}, List.Subperm (used ++ (left ++ others)) ((List.range t.minted).map ids) →
      List.Subperm (used ++ ((held.set i (left, q)).map Prod.fst).flatten) ((List.range t.minted).map ids) :=
    ((changed _ _).append_left _).subperm_right.mpr
  have each : ∀ {left q}, q.Proper zone left → ∀ h ∈ held.set i (left, q), h.2.Proper zone h.1 := by
    intro left q fits h member
    rcases List.mem_or_eq_of_mem_set member with old | rfl
    · exact proper h old
    · exact fits
  cases p with
  | done a => exact ⟨used, mine, consistent, lawful, each ⟨asks⟩, after before⟩
  | mint next =>
    refine ⟨used, ids s.minted :: mine, consistent, lawful, each ⟨asks _⟩, after ?_⟩
    show List.Subperm _ ((List.range (s.minted + 1)).map ids)
    rw [List.range_succ, List.map_append, List.cons_append]
    refine List.perm_middle.subperm_right.mpr (List.perm_append_comm.subperm_left.mp ?_)
    exact (List.subperm_cons _).mpr before
  | ask c next =>
    obtain ⟨allowed, spends, rest⟩ := asks
    have credible := Store.credible_answerWith lawful.sound faults c
    -- What is left to the plan is less than it held, by what the call brings.
    have fewer : List.Subperm (c.newIds ++ if c.newIds = [] then mine else []) mine := by
      split
      · rename_i none
        rw [none, List.nil_append]
      · rename_i some
        rw [List.append_nil]
        exact (spends.resolve_left some).subperm
    have spent : List.Subperm (used ++ (c.newIds ++ ((if c.newIds = [] then mine else []) ++ others)))
        ((List.range s.minted).map ids) := by
      rw [← List.append_assoc c.newIds]
      exact ((List.subperm_append_left used).mpr ((List.subperm_append_right others).mpr fewer)).trans before
    rcases (s.store.outcome_answerWith faults c).quiet_or_applied with ⟨_, same⟩ | ⟨e, admits, same⟩
    · refine ⟨used, _, consistent.of_same same, lawful.of_same same, each ⟨rest _ credible⟩, after ?_⟩
      have kept := (List.sublist_append_right c.newIds ((if c.newIds = [] then mine else []) ++ others)).append_left used
      exact kept.subperm.trans spent
    · have new : (used ++ e.newIds).Nodup := by
        rw [admits.newIds]
        have parts := (whole.append_left used).nodup_iff.mp apart
        rcases spends with none | all
        · rw [none, List.append_nil]
          exact (List.nodup_append.mp parts).1
        · rw [← List.append_assoc] at parts
          exact (all.append_left used).nodup_iff.mpr (List.nodup_append.mp parts).1
      have applied := consistent.apply admits new
      rw [admits.newIds] at applied
      refine ⟨used ++ c.newIds, _, applied.of_same same, (lawful.apply admits allowed).of_same same,
        each ⟨rest _ credible⟩, after ?_⟩
      rw [List.append_assoc]
      exact spent

theorem accounted_start {d : Log.Disk} (blank : d.bytes = []) : (start d).Accounted ids zone [] [] := by
  refine ⟨?_, ?_, List.forall_mem_nil _, List.nil_subperm⟩
  · rw [register_start blank]
    exact Register.consistent_empty
  · rw [register_start blank]
    exact Register.lawful_empty zone

variable {plans : List (Plan Response)}

theorem Reached.accounted (reached : Reached ids zone s plans) (distinct : ((List.range s.minted).map ids).Nodup) :
    ∃ used held, s.Accounted ids zone used held ∧ held.map Prod.snd = plans := by
  induction reached with
  | started blank => exact ⟨[], [], accounted_start blank, rfl⟩
  | arrived reached now r ih =>
    obtain ⟨used, held, ⟨consistent, lawful, proper, drawn⟩, rfl⟩ := ih distinct
    refine ⟨used, held ++ [([], _)], ⟨consistent, lawful, ?_, ?_⟩, List.map_append⟩
    · intro h member
      rcases List.mem_append.mp member with old | new
      · exact proper h old
      · cases List.mem_singleton.mp new
        exact Desk.proper_dispatch ⟨zone, now⟩ r
    · rw [List.map_append, List.flatten_append]
      simpa using drawn
  | stepped reached chosen faults ih =>
    rename_i s plans i p
    have fewer : (List.range s.minted).Sublist (List.range (p.step (world ids faults) s).2.minted) :=
      List.range_sublist.mpr (Plan.minted_le_step ids faults p s)
    have known := distinct.sublist (fewer.map ids)
    obtain ⟨used, held, accounted, rfl⟩ := ih known
    rw [List.getElem?_map, Option.map_eq_some_iff] at chosen
    obtain ⟨⟨mine, _⟩, chosen, rfl⟩ := chosen
    obtain ⟨more, left, stepped⟩ := accounted.step known chosen faults
    exact ⟨more, _, stepped, List.map_set⟩
  | compacted reached listed ih =>
    obtain ⟨used, held, ⟨consistent, lawful, proper, drawn⟩, same⟩ := ih distinct
    rename_i s _ queues
    have register := s.store.register_compactIn queues
    exact ⟨used, held, ⟨register.symm ▸ consistent, register.symm ▸ lawful, proper, drawn⟩, same⟩
  | worn reached journal ih =>
    obtain ⟨used, held, ⟨consistent, lawful, proper, drawn⟩, same⟩ := ih distinct
    exact ⟨used, held, ⟨consistent, lawful, proper, drawn⟩, same⟩
  | restarted reached told ih =>
    obtain ⟨used, held, ⟨consistent, lawful, _, drawn⟩, _⟩ := ih distinct
    refine ⟨used, [], ⟨consistent.of_same told, lawful.of_same told, List.forall_mem_nil _, ?_⟩, rfl⟩
    rw [List.map_nil, List.flatten_nil, List.append_nil]
    exact (List.sublist_append_left used _).subperm.trans drawn

theorem Reached.sound (reached : Reached ids zone s plans) (distinct : ((List.range s.minted).map ids).Nodup) :
    ∃ used, s.store.register.Consistent used ∧ s.store.register.Lawful zone := by
  obtain ⟨used, held, accounted, _⟩ := reached.accounted distinct
  exact ⟨used, accounted.consistent, accounted.lawful⟩

theorem Reached.supplied (reached : Reached ids zone s plans) {last : Nat} (bound : s.minted ≤ last)
    (distinct : ((List.range last).map ids).Nodup) :
    s.store.register.WellFormed ∧ s.store.register.Fresh (s.coming ids last) := by
  have whole : (List.range last).map ids = (List.range s.minted).map ids ++ s.coming ids last := by
    have parts := @List.range'_append_1 0 s.minted (last - s.minted)
    rw [Nat.zero_add, Nat.add_sub_cancel' bound] at parts
    rw [coming, ← List.map_append, List.range_eq_range', List.range_eq_range', parts]
  rw [whole] at distinct
  obtain ⟨known, coming, apart⟩ := List.nodup_append.mp distinct
  obtain ⟨used, held, accounted, _⟩ := reached.accounted known
  have drawn : used ⊆ (List.range s.minted).map ids :=
    List.Subset.trans (List.subset_append_left used _) accounted.drawn.subset
  have fresh : (used ++ s.coming ids last).Nodup :=
    List.nodup_append.mpr ⟨(List.nodup_append.mp (accounted.distinct known)).1, coming,
      fun id old other new => apart id (drawn old) other new⟩
  exact ⟨accounted.consistent.formed, accounted.consistent.fresh fresh⟩

theorem Reached.run (reached : Reached ids zone s plans) {i : Nat} {p : Plan Response} (chosen : plans[i]? = some p)
    (faults : Faults) :
    Reached ids zone (p.run (world ids faults) s).2 (plans.set i (.done (p.run (world ids faults) s).1)) := by
  induction p generalizing s plans with
  | done a => exact reached.stepped chosen faults
  | ask c next ih =>
    have rest := ih _ (reached.stepped chosen faults) (List.getElem?_set_self (List.getElem?_eq_some_iff.mp chosen).1)
    rw [List.set_set] at rest
    exact rest
  | mint next ih =>
    have rest := ih _ (reached.stepped chosen faults) (List.getElem?_set_self (List.getElem?_eq_some_iff.mp chosen).1)
    rw [List.set_set] at rest
    exact rest

theorem nodup_before_turns {faults : Faults} {turns : List Nat} {p : Plan Response} {i : Nat}
    (distinct : ((List.range (Plan.interleave (world ids faults) turns (plans.set i (p.step (world ids faults) s).1)
      (p.step (world ids faults) s).2).2.minted).map ids).Nodup) : ((List.range s.minted).map ids).Nodup := by
  have fewer := Nat.le_trans (Plan.minted_le_step ids faults p s)
    (Plan.minted_le_interleave ids faults turns (plans.set i (p.step (world ids faults) s).1) _)
  exact distinct.sublist ((List.range_sublist.mpr fewer).map ids)

/-- What every step of what is reached keeps, plans that take steps in turns keep. -/
theorem Reached.interleave_keeps {P : Service → List (Plan Response) → Prop} {faults : Faults} {turns : List Nat}
    (reached : Reached ids zone s plans)
    (distinct : ((List.range (Plan.interleave (world ids faults) turns plans s).2.minted).map ids).Nodup)
    (steps : ∀ (s : Service) (plans : List (Plan Response)) (i : Nat) (p : Plan Response), Reached ids zone s plans →
      ((List.range s.minted).map ids).Nodup → plans[i]? = some p → P s plans →
        P (p.step (world ids faults) s).2 (plans.set i (p.step (world ids faults) s).1))
    (holds : P s plans) :
    P (Plan.interleave (world ids faults) turns plans s).2 (Plan.interleave (world ids faults) turns plans s).1 := by
  induction turns generalizing s plans with
  | nil => exact holds
  | cons i turns ih =>
    rw [Plan.interleave] at distinct ⊢
    cases chosen : plans[i]? with
    | none =>
      rw [chosen] at distinct
      exact ih reached distinct holds
    | some p =>
      rw [chosen] at distinct
      have known := nodup_before_turns distinct
      exact ih (reached.stepped chosen faults) distinct (steps s plans i p reached known chosen holds)

theorem Reached.interleave (reached : Reached ids zone s plans) (faults : Faults) (turns : List Nat) :
    Reached ids zone (Plan.interleave (world ids faults) turns plans s).2
      (Plan.interleave (world ids faults) turns plans s).1 := by
  induction turns generalizing s plans with
  | nil => exact reached
  | cons i turns ih =>
    rw [Plan.interleave]
    cases chosen : plans[i]? with
    | none => exact ih reached
    | some p => exact ih (reached.stepped chosen faults)

def Logged (zone : Zone) (s : Service) : Prop := ∃ es, s.store.Faithful es ∧ ∀ e ∈ es, e.Sound zone

theorem logged_start {d : Log.Disk} (steady : d.Steady) (blank : d.bytes = []) : (start d).Logged zone :=
  ⟨[], Store.faithful_open steady blank, List.forall_mem_nil _⟩

theorem Reached.lawful_ask (reached : Reached ids zone s plans) (distinct : ((List.range s.minted).map ids).Nodup)
    {i : Nat} {c : Call} {next : c.Answer → Plan Response} (chosen : plans[i]? = some (.ask c next)) : c.Lawful zone := by
  obtain ⟨used, held, accounted, rfl⟩ := reached.accounted distinct
  rw [List.getElem?_map, Option.map_eq_some_iff] at chosen
  obtain ⟨⟨mine, _⟩, chosen, rfl⟩ := chosen
  obtain ⟨asks⟩ := accounted.proper _ (List.mem_of_getElem? chosen)
  exact asks.1

theorem Reached.logged_step (reached : Reached ids zone s plans) (distinct : ((List.range s.minted).map ids).Nodup)
    {i : Nat} {p : Plan Response} (chosen : plans[i]? = some p) (logged : s.Logged zone) (faults : Faults) :
    (p.step (world ids faults) s).2.Logged zone := by
  cases p with
  | done a => exact logged
  | mint next => exact logged
  | ask c next =>
    have lawful := reached.lawful_ask distinct chosen
    obtain ⟨es, faithful, sound⟩ := logged
    show ∃ fs, (s.store.answerWith faults c).2.Faithful fs ∧ ∀ e ∈ fs, e.Sound zone
    rcases s.store.answerWith_cases faults c with ⟨e, failed⟩ | ⟨_, kept⟩ | same
    · exact ⟨es, by rw [failed]; exact faithful, sound⟩
    · exact ⟨es, by rw [kept]; exact faithful, sound⟩
    · have extended := (Store.faithful_iff_extends.mp faithful).answer c
      rw [same]
      refine ⟨_, Store.faithful_iff_extends.mpr extended, List.forall_mem_append.mpr ⟨sound, fun e new => ?_⟩⟩
      rcases (s.store.outcome c).quiet_or_applied with ⟨quiet, _⟩ | ⟨f, admits, _⟩
      · rw [Call.event?_of_quiet _ quiet] at new
        cases new
      · rw [admits.event?_eq, Option.toList_some, List.mem_singleton] at new
        exact new ▸ admits.sound lawful.sound

theorem Reached.logged_compact (reached : Reached ids zone s plans) (distinct : ((List.range s.minted).map ids).Nodup)
    {queues : List (Id × Queue)} (listed : queues.Perm s.store.register.queues.toList) (logged : s.Logged zone) :
    Logged zone { s with store := (s.store.compactIn queues).2 } := by
  obtain ⟨used, consistent, lawful⟩ := reached.sound distinct
  obtain ⟨es, faithful, sound⟩ := logged
  refine ⟨_, Store.faithful_compactIn faithful consistent.formed listed, fun e member => ?_⟩
  split at member
  · exact lawful.sound.snapshotOf consistent.formed.placed listed member
  · exact sound e member

/-- What a service can come to where nothing disturbs its log: whatever becomes of the disk and of the writer, no bytes
get lost or go out late, and the service starts again from those that are there. -/
inductive Undisturbed (ids : Nat → Id) (zone : Zone) : Service → List (Plan Response) → Prop
  | started {d : Log.Disk} (steady : d.Steady) (blank : d.bytes = []) : Undisturbed ids zone (start d) []
  | arrived {s : Service} {plans : List (Plan Response)} (undisturbed : Undisturbed ids zone s plans) (now : Instant)
      (r : Request) : Undisturbed ids zone s (plans ++ [(Desk.mk zone now).dispatch r])
  | stepped {s : Service} {plans : List (Plan Response)} {i : Nat} {p : Plan Response}
      (undisturbed : Undisturbed ids zone s plans) (chosen : plans[i]? = some p) (faults : Faults) :
      Undisturbed ids zone (p.step (world ids faults) s).2 (plans.set i (p.step (world ids faults) s).1)
  | compacted {s : Service} {plans : List (Plan Response)} {queues : List (Id × Queue)}
      (undisturbed : Undisturbed ids zone s plans) (listed : queues.Perm s.store.register.queues.toList) :
      Undisturbed ids zone { s with store := (s.store.compactIn queues).2 } plans
  | worn {s : Service} {plans : List (Plan Response)} {journal : Log.Journal}
      (undisturbed : Undisturbed ids zone s plans) (holds : journal.Holds s.store.journal.disk.bytes) :
      Undisturbed ids zone { s with store := { s.store with journal } } plans
  | restarted {s : Service} {plans : List (Plan Response)} {d : Log.Disk} (undisturbed : Undisturbed ids zone s plans)
      (steady : d.Steady) (log : d.bytes = s.store.journal.disk.bytes) :
      Undisturbed ids zone { s with store := Store.open d } []

/-- An undisturbed log tells the state in memory at all times, so restarts need no more than its bytes. -/
theorem Undisturbed.reached (undisturbed : Undisturbed ids zone s plans)
    (distinct : ((List.range s.minted).map ids).Nodup) : Reached ids zone s plans ∧ s.Logged zone := by
  induction undisturbed with
  | started steady blank => exact ⟨.started blank, logged_start steady blank⟩
  | arrived undisturbed now r ih => exact ⟨(ih distinct).1.arrived now r, (ih distinct).2⟩
  | stepped undisturbed chosen faults ih =>
    rename_i s plans i p
    have fewer : (List.range s.minted).Sublist (List.range (p.step (world ids faults) s).2.minted) :=
      List.range_sublist.mpr (Plan.minted_le_step ids faults p s)
    have known := distinct.sublist (fewer.map ids)
    obtain ⟨reached, logged⟩ := ih known
    exact ⟨reached.stepped chosen faults, reached.logged_step known chosen logged faults⟩
  | compacted undisturbed listed ih =>
    obtain ⟨reached, logged⟩ := ih distinct
    exact ⟨reached.compacted listed, reached.logged_compact distinct listed logged⟩
  | worn undisturbed holds ih =>
    obtain ⟨reached, es, faithful, sound⟩ := ih distinct
    rw [faithful.keeps.bytes] at holds
    exact ⟨reached.worn _, es, ⟨holds, faithful.same⟩, sound⟩
  | restarted undisturbed steady log ih =>
    obtain ⟨reached, es, faithful, sound⟩ := ih distinct
    have told := faithful.reopen (fun e member => (sound e member).short) log
    refine ⟨reached.restarted told, es, ⟨?_, told.trans faithful.same⟩, sound⟩
    have opened := Log.Journal.holds_open steady
    rw [log, faithful.keeps.bytes] at opened
    exact opened

theorem Reached.arrivals (reached : Reached ids zone s plans) (arrivals : List (Instant × Request)) :
    Reached ids zone s (plans ++ arrivals.map fun a => (Desk.mk zone a.1).dispatch a.2) := by
  induction arrivals generalizing plans with
  | nil => simpa using reached
  | cons a arrivals ih => simpa using ih (reached.arrived a.1 a.2)

theorem respond_state {α : Type} (w : World Service) (a : Action α) (present : α → Response) (s : Service) :
    ((Desk.respond a present).run w s).2 = ((ExceptT.run a).run w s).2 := by
  rw [Desk.respond, Plan.run_bind]
  cases ((ExceptT.run a).run w s).1 with
  | ok r => rfl
  | error e => rfl

theorem Reached.visit (reached : Reached ids zone s plans) (v : Visit) :
    ∃ others, Reached ids zone (s.visit ids zone v) others := by
  have ran := (reached.arrived v.now v.operation.request).run List.getElem?_concat_length v.faults
  rw [Desk.dispatch_request, respond_state] at ran
  exact ⟨_, ran⟩

theorem Reached.visits (reached : Reached ids zone s plans) (vs : List Visit) :
    ∃ others, Reached ids zone (s.visits ids zone vs) others := by
  induction vs generalizing s plans with
  | nil => exact ⟨plans, reached⟩
  | cons v vs ih =>
    obtain ⟨others, visited⟩ := reached.visit v
    exact ih visited

end Service

end Bookings
