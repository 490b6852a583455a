import Bookings.Proofs.Desk.Faultless
import Bookings.Proofs.Store.Restart

namespace Bookings

def tooManyQueues : StoreError := .limitExceeded "too many queues"

theorem ne_tooMany_of_plain {α : Type} {a : Except StoreError α} (plain : Plain a) : a ≠ .error tooManyQueues :=
  fun refused => plain _ refused rfl

theorem error_ne_tooMany {α : Type} :
    (.error (.limitExceeded "too many appointments in queue") : Except StoreError α) ≠ .error tooManyQueues := by
  intro same
  exact absurd (Except.error.inj same) (by decide)

def Decision.Avoids {α : Type} (decision : Decision α) (e : StoreError) : Prop :=
  match decision with
  | .answer a => a ≠ .error e
  | .record _ reply => ∀ r, reply r ≠ .error e

def Queue.holds (q : Queue) : Bool := q ≠ .empty

namespace Register

variable {r : Register} {queue : Id} {c : Call}

def holding (r : Register) : Nat := (r.queues.filter fun _ q => q.holds).size

def idle (r : Register) : Nat := (r.queues.filter fun _ q => !q.holds).size

theorem queueCount_eq (r : Register) : r.queueCount = r.holding + r.idle := by
  have parts := r.queues.toList.length_eq_countP_add_countP fun entry => entry.2.holds
  rw [List.countP_eq_length_filter, List.countP_eq_length_filter] at parts
  rw [queueCount, holding, idle, ← Std.ExtTreeMap.length_toList, ← Std.ExtTreeMap.length_toList,
    ← Std.ExtTreeMap.length_toList, Std.ExtTreeMap.toList_filter, Std.ExtTreeMap.toList_filter]
  simpa using parts

theorem queueCount_addQueue (missing : r.queue? queue = none) : (r.addQueue queue).queueCount = r.queueCount + 1 := by
  have absent : queue ∉ r.queues := by
    rw [Std.ExtTreeMap.mem_iff_isSome_getElem?]
    rw [queue?] at missing
    rw [missing]
    exact Bool.false_ne_true
  exact Std.ExtTreeMap.size_alter_eq_add_one absent rfl

theorem holding_addQueue (missing : r.queue? queue = none) : (r.addQueue queue).holding = r.holding := by
  have same : ((r.addQueue queue).queues.filter fun _ q => q.holds) = r.queues.filter fun _ q => q.holds := by
    refine Std.ExtTreeMap.ext_getElem? fun id => ?_
    rw [Std.ExtTreeMap.getElem?_filter', Std.ExtTreeMap.getElem?_filter']
    change ((r.addQueue queue).queue? id).filter Queue.holds = (r.queue? id).filter Queue.holds
    rw [queue?_addQueue]
    split
    · rename_i own
      rw [own, missing]
      rfl
    · rfl
  rw [holding, same, holding]

def lacks (r : Register) (queue : Id) : Bool := (r.queue? queue).isNone

theorem lacks_iff : r.lacks queue = true ↔ r.queue? queue = none := Option.isNone_iff_eq_none

theorem lacks_addQueue (r : Register) (queue other : Id) :
    (r.addQueue queue).lacks other = (!(other == queue) && r.lacks other) := by
  rw [lacks, queue?_addQueue, lacks]
  by_cases own : other = queue <;> simp [own]

def housing (r : Register) (c : Call) : Register :=
  match c.home? with
  | none => r
  | some queue => if r.lacks queue ∧ r.queueCount < maxQueues then r.addQueue queue else r

/-- The queues that calls bring into being: those that they write to and that are missing, in order, while there is
room for more. -/
def opened (r : Register) (calls : List Call) : List Id :=
  ((calls.filterMap Call.home?).filter r.lacks).eraseDups.take (maxQueues - r.queueCount)

theorem opened_of_full (full : maxQueues ≤ r.queueCount) (calls : List Call) : r.opened calls = [] := by
  rw [opened, Nat.sub_eq_zero_of_le full, List.take_zero]

theorem opened_of_added (missing : r.lacks queue = true) (room : r.queueCount < maxQueues) (home : c.home? = some queue)
    (calls : List Call) : r.opened (c :: calls) = queue :: (r.addQueue queue).opened calls := by
  have left : maxQueues - r.queueCount = maxQueues - (r.addQueue queue).queueCount + 1 := by
    rw [queueCount_addQueue (lacks_iff.mp missing)]
    omega
  -- The queues behind it that are missing there are those that were missing before and differ from it.
  have others : (fun other => !(other == queue) && r.lacks other) = (r.addQueue queue).lacks :=
    funext fun other => (r.lacks_addQueue queue other).symm
  rw [opened, List.filterMap_cons_some home, List.filter_cons_of_pos missing, List.eraseDups_cons, List.filter_filter,
    others, left, List.take_succ_cons, opened]

theorem opened_cons (r : Register) (c : Call) (calls : List Call) :
    (r.housing c = r ∧ r.opened (c :: calls) = r.opened calls) ∨
      ∃ queue, r.queue? queue = none ∧ r.housing c = r.addQueue queue ∧
        r.opened (c :: calls) = queue :: (r.addQueue queue).opened calls := by
  unfold housing
  cases home : c.home? with
  | none => exact .inl ⟨rfl, by rw [opened, List.filterMap_cons_none home, opened]⟩
  | some queue =>
    by_cases room : r.queueCount < maxQueues
    · by_cases missing : r.lacks queue = true
      · exact .inr ⟨queue, lacks_iff.mp missing, if_pos ⟨missing, room⟩, opened_of_added missing room home calls⟩
      · refine .inl ⟨if_neg fun both => missing both.1, ?_⟩
        rw [opened, List.filterMap_cons_some home, List.filter_cons_of_neg missing, opened]
    · refine .inl ⟨if_neg fun both => room both.2, ?_⟩
      rw [opened_of_full (Nat.le_of_not_lt room), opened_of_full (Nat.le_of_not_lt room)]

theorem opened_nil (r : Register) : r.opened [] = [] := by
  rw [opened, List.filterMap_nil, List.filter_nil, List.eraseDups_nil, List.take_nil]

theorem foldl_housing (r : Register) (calls : List Call) : calls.foldl housing r = (r.opened calls).foldl addQueue r := by
  induction calls generalizing r with
  | nil => rw [opened_nil, List.foldl_nil, List.foldl_nil]
  | cons c calls ih =>
    rw [List.foldl_cons]
    rcases r.opened_cons c calls with ⟨kept, same⟩ | ⟨queue, _, grown, more⟩
    · rw [kept, same, ih]
    · rw [grown, more, ih, List.foldl_cons]

theorem counts_foldl_housing (r : Register) (calls : List Call) :
    (calls.foldl housing r).queueCount = r.queueCount + (r.opened calls).length ∧
      (calls.foldl housing r).holding = r.holding := by
  induction calls generalizing r with
  | nil =>
    rw [opened_nil]
    exact ⟨rfl, rfl⟩
  | cons c calls ih =>
    rw [List.foldl_cons]
    rcases r.opened_cons c calls with ⟨kept, same⟩ | ⟨queue, missing, grown, more⟩
    · rw [kept, same]
      exact ih r
    · obtain ⟨count, held⟩ := ih (r.addQueue queue)
      rw [grown, more, count, held, queueCount_addQueue missing, holding_addQueue missing, List.length_cons]
      exact ⟨by omega, rfl⟩

theorem opened_eq_nil_iff (r : Register) (calls : List Call) :
    r.opened calls = [] ↔ maxQueues ≤ r.queueCount ∨
      ∀ c ∈ calls, ∀ queue, c.home? = some queue → (r.queue? queue).isSome = true := by
  have known : ((calls.filterMap Call.home?).filter r.lacks).eraseDups = [] ↔
      ∀ c ∈ calls, ∀ queue, c.home? = some queue → (r.queue? queue).isSome = true := by
    rw [List.eq_nil_iff_forall_not_mem]
    simp only [List.mem_eraseDups, List.mem_filter, List.mem_filterMap, lacks, Option.isNone_iff_eq_none,
      ← Option.ne_none_iff_isSome]
    constructor
    · intro none c member queue home missing
      exact none queue ⟨⟨c, member, home⟩, missing⟩
    · rintro each queue ⟨⟨c, member, home⟩, missing⟩
      exact each c member queue home missing
  rw [opened, List.take_eq_nil_iff, Nat.sub_eq_zero_iff_le, known]

/-- Of the refusals that a caller can do nothing about, the state gives only the one for a crowded queue. -/
theorem decide_avoids (r : Register) (c : Call) : (r.decide c).Avoids tooManyQueues := by
  -- A crowded queue is refused in other words; no other refusal is of this kind.
  by_cases crowded : r.Overfilled c
  · obtain ⟨queue, home, filled, crowded⟩ := crowded
    cases c with
    | insert slot guard =>
      cases home
      show (r.decideInsert slot guard).Avoids tooManyQueues
      rw [decideInsert, slotCount_eq, if_pos (Nat.le_of_lt_succ crowded)]
      exact error_ne_tooMany
    | publish other slots =>
      rw [Call.home?] at home
      split at home
      · cases home
      · rename_i listed
        cases home
        change maxSlotsPerQueue < (r.rows queue).length + slots.length at crowded
        show (r.decidePublish queue slots).Avoids tooManyQueues
        rw [decidePublish, if_neg listed, slotCount_eq, if_pos crowded]
        exact error_ne_tooMany
    | _ => cases home <;> exact absurd rfl filled
  · have plain := plain_decide crowded
    cases decided : r.decide c with
    | answer a =>
      rw [decided] at plain
      exact ne_tooMany_of_plain plain
    | record e reply =>
      rw [decided] at plain
      exact fun t => ne_tooMany_of_plain (plain t)

end Register

namespace Store

variable {s : Store} {c : Call}

def Shut (s : Store) (c : Call) : Prop :=
  ∃ queue, c.home? = some queue ∧ s.register.queue? queue = none ∧ maxQueues ≤ s.register.queueCount

theorem prepare_cases (s : Store) (c : Call) :
    (s.Shut c ∧ s.register.housing c = s.register ∧ s.prepare c = .error tooManyQueues) ∨
      ¬s.Shut c ∧ s.prepare c = .ok { s with register := s.register.housing c } := by
  unfold prepare Register.housing Register.prepare
  cases home : c.home? with
  | none =>
    refine .inr ⟨?_, rfl⟩
    rintro ⟨queue, named, _⟩
    cases home.symm.trans named
  | some queue =>
    dsimp only
    cases stored : s.register.queue? queue with
    | some q =>
      have present : ¬(s.register.lacks queue = true ∧ s.register.queueCount < maxQueues) := by
        rintro ⟨missing, _⟩
        cases stored.symm.trans (Register.lacks_iff.mp missing)
      rw [if_neg present]
      refine .inr ⟨?_, rfl⟩
      rintro ⟨other, named, missing, _⟩
      cases home.symm.trans named
      cases stored.symm.trans missing
    | none =>
      have missing := Register.lacks_iff.mpr stored
      by_cases full : maxQueues ≤ s.register.queueCount
      · rw [if_neg fun both => Nat.not_lt.mpr full both.2, if_pos full]
        exact .inl ⟨⟨queue, home, stored, full⟩, rfl, rfl⟩
      · rw [if_pos ⟨missing, Nat.lt_of_not_le full⟩, if_neg full]
        refine .inr ⟨?_, rfl⟩
        rintro ⟨_, _, _, crowded⟩
        exact full crowded

theorem settle_avoids {α : Type} {decision : Decision α} (avoids : decision.Avoids tooManyQueues) (s : Store) :
    (s.settle decision).1 ≠ .error tooManyQueues := by
  obtain ⟨register, journal⟩ := s
  cases decision with
  | answer a => exact avoids
  | record e reply =>
    rw [settle, commit]
    cases logged : journal.write e with
    | mk result after =>
      cases result with
      | ok done => exact avoids _
      | error cause =>
        intro same
        cases same

theorem answer_eq_tooMany_iff (s : Store) (c : Call) : (s.answer c).1 = .error tooManyQueues ↔ s.Shut c := by
  unfold answer
  rcases s.prepare_cases c with ⟨shut, _, refused⟩ | ⟨apart, prepared⟩
  · rw [refused]
    exact ⟨fun _ => shut, fun _ => rfl⟩
  · rw [prepared]
    exact ⟨fun told => absurd told (settle_avoids (Register.decide_avoids _ c) _), fun shut => absurd shut apart⟩

theorem answer_of_failed (failed : (s.answer c).1.isOk = false) :
    (s.answer c).2.register = s.register.housing c ∧
      (s.journal.disk.Steady → (s.answer c).2.journal.disk = s.journal.disk) := by
  unfold answer at failed ⊢
  rcases s.prepare_cases c with ⟨_, kept, refused⟩ | ⟨_, prepared⟩
  · rw [refused]
    exact ⟨kept.symm, fun _ => rfl⟩
  · rw [prepared] at failed ⊢
    dsimp only at failed ⊢
    have decided := (s.register.housing c).decides c
    generalize (s.register.housing c).decide c = decision at decided failed ⊢
    cases decided with
    | answer quiet => exact ⟨rfl, fun _ => rfl⟩
    | record admitted =>
      rename_i e reply
      rw [settle, commit] at failed ⊢
      cases logged : s.journal.write e with
      | mk result after =>
        rw [logged] at failed
        cases result with
        | ok done =>
          -- What has been logged is acknowledged.
          have acknowledged := admitted.acknowledges
          dsimp only at failed
          cases told : reply ((s.register.housing c).apply e) with
          | ok a =>
            rw [told] at failed
            cases failed
          | error cause =>
            rw [told, c.acknowledges_error] at acknowledged
            cases acknowledged
        | error cause => exact ⟨rfl, fun steady => Log.Journal.disk_of_write_error steady logged⟩

theorem after_of_failed {calls : List Call} (failed : ∀ x ∈ s.history calls, x.answer.isOk = false) :
    (s.after calls).register = calls.foldl Register.housing s.register ∧
      (s.journal.disk.Steady → (s.after calls).journal.disk = s.journal.disk) := by
  induction calls generalizing s with
  | nil => exact ⟨rfl, fun _ => rfl⟩
  | cons c calls ih =>
    obtain ⟨first, rest⟩ := List.forall_mem_cons.mp failed
    obtain ⟨register, disk⟩ := answer_of_failed first
    obtain ⟨registers, disks⟩ := ih rest
    rw [register] at registers
    refine ⟨registers, fun steady => ?_⟩
    exact (disks (disk steady ▸ steady)).trans (disk steady)

/-- Calls that fail leave the queues behind that they were to write to: empty, but counted. -/
theorem failed_calls_open_queues {calls : List Call} (failed : ∀ x ∈ s.history calls, x.answer.isOk = false) :
    let opened := s.register.opened calls
    let t := s.after calls
    t.register = opened.foldl Register.addQueue s.register ∧
      (s.journal.disk.Steady → t.journal.disk = s.journal.disk) ∧
      t.register.queueCount = s.register.queueCount + opened.length ∧ t.register.holding = s.register.holding ∧
      (t.register.queueCount = s.register.queueCount ↔ maxQueues ≤ s.register.queueCount ∨
        ∀ c ∈ calls, ∀ queue, c.home? = some queue → (s.register.queue? queue).isSome = true) ∧
      ∀ c, (t.answer c).1 = .error (.limitExceeded "too many queues") ↔
        ∃ queue, c.home? = some queue ∧ t.register.queue? queue = none ∧
          maxQueues ≤ t.register.holding + s.register.idle + opened.length := by
  intro opened t
  obtain ⟨register, disk⟩ := after_of_failed failed
  obtain ⟨count, holding⟩ := s.register.counts_foldl_housing calls
  rw [← register] at count holding
  have total : t.register.queueCount = t.register.holding + s.register.idle + opened.length := by
    rw [count, holding, s.register.queueCount_eq]
  refine ⟨register.trans (s.register.foldl_housing calls), disk, count, holding, ?_, fun c => ?_⟩
  · rw [← s.register.opened_eq_nil_iff, count, ← List.length_eq_zero_iff]
    omega
  · rw [← total]
    exact t.answer_eq_tooMany_iff c

/-- Writes that a full disk or the state refuses. Two of them are to create the same queue, one creates another, and the
last three create none. -/
def failingCalls : List Call :=
  [replacement, .insert bookedRow ⟨⟨0, 1⟩, 0, none⟩, .publish (Id.ofNat 8) [bookedRow],
    .claim (Id.ofNat 9) ⟨0, 10⟩ 0 1 "ada@x.edu", sameTexts, .release bookedRow.id "ada@x.edu"]

theorem failed_calls_open_queues_fullDisk :
    let s := (Store.open {}).fill
    (∀ x ∈ s.history failingCalls, x.answer.isOk = false) ∧ s.register.queueCount = 0 ∧
      s.register.opened failingCalls = [Id.ofNat 7, Id.ofNat 8] ∧
        (s.after failingCalls).register.queueCount = 2 ∧ (s.after failingCalls).register.holding = 0 := by
  intro s
  have failed : ∀ x ∈ s.history failingCalls, x.answer.isOk = false := by decide +kernel
  have opened : s.register.opened failingCalls = [Id.ofNat 7, Id.ofNat 8] := by decide +kernel
  obtain ⟨_, _, count, holding, _⟩ := failed_calls_open_queues failed
  rw [opened] at count
  exact ⟨failed, rfl, opened, count, holding⟩

theorem refused_schedule_counts :
    let s := (Store.open {}).fill
    let t := (s.answer replacement).2
    (s.answer replacement).1 = .error (.logFailed (.journal (.disk .full))) ∧ t.journal.disk = s.journal.disk ∧
      s.register.queueCount = 0 ∧ t.register.queueCount = 1 ∧ t.register.holding = 0 := by
  intro s t
  have refused : (s.answer replacement).1 = .error (.logFailed (.journal (.disk .full))) := by
    with_unfolding_all rfl
  have still : t.journal.disk = s.journal.disk := (answer_of_failed (by rw [refused]; rfl)).2 (.inr rfl)
  have counted : t.register.queueCount = 1 := by decide +kernel
  have kept : t.register.holding = 0 := by decide +kernel
  exact ⟨refused, still, rfl, counted, kept⟩

end Store

end Bookings
