import Bookings.Proofs.Desk.Overbooking

namespace Bookings

def Call.usesSchedule : Call → Bool
  | .scheduleFor .. | .insert .. | .publish .. | .claim .. => true
  | _ => false

theorem Call.Fits.of_unused {d : Desk} {schedules : Schedules} {c : Call} (fits : c.Fits d schedules)
    (unused : c.usesSchedule = false) (other : Schedules) : c.Fits d other := by
  cases c with
  | replaceSchedule queue schedule w => exact fits
  | insert slot guard => contradiction
  | publish queue slots => contradiction
  | claim queue w timeslot capacity email => contradiction
  | _ => exact True.intro

namespace Moment

def current (m : Moment) (schedules : Schedules) : Bool :=
  match m.call with
  | .scheduleFor queue weekday => schedules queue weekday = m.schedules queue weekday
  | _ => true

/-- When a plan comes to use a schedule, what it looked up before still stands. -/
def Steady (m n : Moment) : Prop := m.plan = n.plan → n.call.usesSchedule = true → m.current n.schedules = true

instance : DecidableRel Steady := fun m n => inferInstanceAs (Decidable (m.plan = n.plan → _ → _))

theorem current_of_unused {m : Moment} (unused : m.call.usesSchedule = false) (schedules : Schedules) :
    m.current schedules = true := by
  rw [current]
  split
  · rename_i looked
    rw [looked] at unused
    contradiction
  · rfl

theorem current_self (m : Moment) : m.current m.schedules = true := by
  rw [current]
  split
  · exact decide_eq_true rfl
  · rfl

theorem truthful_of_current {i : Nat} {c : Call} {seen schedules : Schedules} {a : c.Answer}
    (truthful : c.Truthful seen a) (standing : (Moment.mk i c seen).current schedules = true) :
    c.Truthful schedules a := by
  cases c with
  | scheduleFor queue weekday =>
    have same : schedules queue weekday = seen queue weekday := of_decide_eq_true standing
    cases a with
    | ok found => exact Eq.trans truthful same.symm
    | error e => exact True.intro
  | _ => exact True.intro

end Moment

namespace Plan

variable {α : Type} {permitted : Schedules → Call → Prop} {ids : Nat → Id} {last : Nat} {faults : Faults}
  {I : Register → Prop} {s : Service} {past : List Moment} {i : Nat} {mine : List Id}

def Believes (past : List Moment) (i : Nat) (schedules : Schedules) : Prop :=
  ∀ m ∈ past, m.plan = i → m.current schedules = true

structure Informed (permitted : Schedules → Call → Prop) (past : List Moment) (i : Nat) (mine : List Id)
    (p : Plan α) : Prop where
  consistent : ∃ schedules, Believes past i schedules
  asks : ∀ schedules, Believes past i schedules → p.Asks permitted (fun _ _ _ => True) schedules mine

theorem informed_start {p : Plan α} (asks : ∀ schedules, p.Asks permitted (fun _ _ _ => True) schedules mine) :
    p.Informed permitted [] i mine :=
  ⟨⟨fun _ _ => none, fun _ member => absurd member List.not_mem_nil⟩, fun schedules _ => asks schedules⟩

theorem Believes.of_append {more : List Moment} {schedules : Schedules}
    (believes : Believes (past ++ more) i schedules) : Believes past i schedules :=
  fun m member => believes m (List.mem_append_left more member)

theorem Believes.snoc {m : Moment} {schedules : Schedules} (believes : Believes past i schedules)
    (new : m.plan = i → m.current schedules = true) : Believes (past ++ [m]) i schedules := by
  intro n member own
  rcases List.mem_append.mp member with old | last
  · exact believes n old own
  · cases List.mem_singleton.mp last
    exact new own

theorem Informed.other {j : Nat} {p q : Plan α} (differ : i ≠ j) (informed : q.Informed permitted past j mine) :
    q.Informed permitted (past ++ (p.moment? i s).toList) j mine := by
  refine ⟨?_, fun schedules believes => informed.asks schedules believes.of_append⟩
  obtain ⟨schedules, believes⟩ := informed.consistent
  cases p with
  | ask c next => exact ⟨schedules, believes.snoc fun own => absurd own differ⟩
  | done a => exact ⟨schedules, (List.append_nil past).symm ▸ believes⟩
  | mint next => exact ⟨schedules, (List.append_nil past).symm ▸ believes⟩

theorem Informed.step {p : Plan α} {others : List Id} (keeps : Register.Keeps I permitted)
    (plain : ∀ {c : Call} {schedules : Schedules}, c.usesSchedule = false → permitted schedules c →
      ∀ other, permitted other c)
    (informed : p.Informed permitted past i mine) (safe : s.Safe I ids last (mine ++ others))
    (enough : (p.step (Service.world ids faults) s).2.minted ≤ last)
    (steady : ∀ m ∈ past, ∀ n ∈ p.moment? i s, m.Steady n) :
    ∃ left, (p.step (Service.world ids faults) s).1.Informed permitted (past ++ (p.moment? i s).toList) i left ∧
      (p.step (Service.world ids faults) s).2.Safe I ids last (left ++ others) := by
  obtain ⟨schedules, believes⟩ := informed.consistent
  cases p with
  | done a =>
    rw [moment?, Option.toList_none, List.append_nil]
    exact ⟨mine, informed, safe⟩
  | mint next =>
    rw [moment?, Option.toList_none, List.append_nil]
    refine ⟨ids s.minted :: mine, ⟨informed.consistent, ?_⟩, safe.mint enough⟩
    exact fun schedules believes => informed.asks schedules believes (ids s.minted)
  | ask c next =>
    rw [moment?, Option.toList_some]
    obtain ⟨allowed, spends, _⟩ := informed.asks schedules believes
    -- Where the call uses a schedule, the plan may take the present ones for what they are.
    have present : c.usesSchedule = true → Believes past i s.store.register.schedule? :=
      fun uses m member own => steady m member _ rfl own uses
    have permits : permitted s.store.register.schedule? c := by
      by_cases uses : c.usesSchedule = true
      · exact (informed.asks _ (present uses)).1
      · exact plain (Bool.eq_false_iff.mpr uses) allowed _
    refine ⟨if c.newIds = [] then mine else [], ⟨?_, ?_⟩, safe_answer keeps permits spends safe⟩
    · by_cases uses : c.usesSchedule = true
      · exact ⟨_, (present uses).snoc fun _ => Moment.current_self _⟩
      · exact ⟨schedules, believes.snoc fun _ => Moment.current_of_unused (Bool.eq_false_iff.mpr uses) schedules⟩
    · intro other believed
      have learned := believed _ (List.mem_append_right past (List.mem_singleton.mpr rfl)) rfl
      have truthful := Call.truthful_answerWith s.store faults c
      exact (informed.asks other believed.of_append).2.2 _ other (fun _ => rfl)
        (Moment.truthful_of_current truthful learned)

end Plan

namespace Service

variable {ids : Nat → Id} {zone : Zone}

def calls (ids : Nat → Id) (faults : Faults) (zone : Zone) (s : Service) (tasks : List (Instant × Operation))
    (turns : List Nat) : List Moment :=
  Plan.moments (world ids faults) turns (tasks.map fun t => task zone t.1 t.2) s

theorem asks_task_replacing (zone : Zone) (now : Instant) (op : Operation) (schedules : Schedules) :
    (task zone now op).Asks ((Desk.mk zone now).Permits true) (fun _ _ _ => True) schedules [] := by
  have asks : Action.Asks ((Desk.mk zone now).Permits op.replaces) (fun _ _ _ => True) schedules []
      ((Desk.mk zone now).perform op) := Desk.asks_perform ⟨zone, now⟩ op
  rw [task, Plan.asks_bind]
  exact asks.run.mono (fun _ _ permitted => ⟨permitted.1, fun _ => rfl⟩) fun _ _ _ _ => True.intro

/-- Requests of one time that take steps in turns, replacements of schedules among them, never overbook as long as
each request that books does so under the schedule that it looked up. -/
theorem seats_hold_under_steady_schedules {disk : Log.Disk} {now : Instant} {tasks : List (Instant × Operation)}
    {turns : List Nat} {faults : Faults} {queue : Id} {weekday : UInt8} {w : Span} (blank : disk.bytes = [])
    (simultaneous : ∀ t ∈ tasks, t.1 = now)
    (steady : ((start disk).calls ids faults zone tasks turns).Pairwise Moment.Steady)
    (fresh : ((List.range ((start disk).concurrently ids faults zone tasks turns).minted).map ids).Nodup)
    (bounds : weekdayBounds weekday now zone = some w) (timeslot : UInt32) :
    let s := (start disk).concurrently ids faults zone tasks turns
    s.store.register.taken queue w.contains timeslot ≤
      Schedules.capacity s.store.register.schedule? queue weekday timeslot := by
  intro s
  have safe : (start disk).Safe (Register.Booked zone now) ids s.minted (tasks.map fun _ => ([] : List Id)).flatten := by
    rw [List.flatten_eq_nil_iff.mpr (by simp)]
    exact safe_start blank (Register.booked_empty zone now) fresh
  have related : ([] ++ (start disk).calls ids faults zone tasks turns).Pairwise Moment.Steady := steady
  have booked : s.store.register.Booked zone now := by
    refine Plan.interleave_holds (fun past i mine p => p.Informed ((Desk.mk zone now).Permits true) past i mine)
      ?_ ?_ ?_ safe related (Nat.le_refl _)
    · intro past i mine others p t informed safe enough steady
      refine informed.step (Register.booked_keeps ⟨zone, now⟩ true) ?_ safe enough steady
      exact fun unused permitted other => ⟨permitted.1.of_unused unused other, permitted.2⟩
    · exact fun differ informed => informed.other differ
    · intro i p chosen
      rw [List.getElem?_map, Option.map_eq_some_iff] at chosen
      obtain ⟨t, member, rfl⟩ := chosen
      refine ⟨[], ?_, Plan.informed_start fun schedules => ?_⟩
      · rw [List.getElem?_map, member, Option.map_some]
      · rw [simultaneous t (List.mem_of_getElem? member)]
        exact asks_task_replacing zone now t.2 schedules
  rw [contains_eq_onDay bounds]
  exact booked.seated queue weekday (weekday_le bounds) timeslot

def replacementRace (weekday : UInt8) : List (Instant × Operation) :=
  let draft : Draft := { name := some "Ada", description := some "limits", location := some "room 1" }
  let staff : Caller := ⟨"staff@x.edu", true⟩
  [(1700000000000, .updateSchedule (Id.ofNat 7) 3 30 ⟨['1'].filterMap Capacities.digit?⟩ staff),
    (1700000000000, .signup (Id.ofNat 7) 3 0 draft ⟨"ada@x.edu", false⟩),
    (1700000000000, .updateSchedule (Id.ofNat 7) weekday 30 ⟨['0'].filterMap Capacities.digit?⟩ staff)]

def replacementTurns : List Nat := [0, 0, 1, 2, 2, 1, 1, 1, 1]

theorem seats_hold_under_steady_schedules_otherDay :
    let s := (start {}).concurrently (fun n => Id.ofNat (n + 1)) noFaults Zone.utc (replacementRace 4) replacementTurns
    s.store.register.taken (Id.ofNat 7) (Span.contains ⟨1700006400000, 1700092800000⟩) 0 = 1 ∧
      s.store.register.taken (Id.ofNat 7) (Span.contains ⟨1700006400000, 1700092800000⟩) 0 ≤
        Schedules.capacity s.store.register.schedule? (Id.ofNat 7) 3 0 := by
  have bounds : weekdayBounds 3 1700000000000 Zone.utc = some ⟨1700006400000, 1700092800000⟩ := by decide +kernel
  exact ⟨by decide +kernel, seats_hold_under_steady_schedules rfl (by decide) (by decide +kernel) (by decide +kernel)
    bounds 0⟩

theorem overbooked_by_replacement :
    let s := (start {}).concurrently (fun n => Id.ofNat (n + 1)) noFaults Zone.utc (replacementRace 3) replacementTurns
    weekdayBounds 3 1700000000000 Zone.utc = some ⟨1700006400000, 1700092800000⟩ ∧
      ((List.range s.minted).map fun n => Id.ofNat (n + 1)).Nodup ∧
      s.store.register.taken (Id.ofNat 7) (Span.contains ⟨1700006400000, 1700092800000⟩) 0 = 1 ∧
      Schedules.capacity s.store.register.schedule? (Id.ofNat 7) 3 0 = 0 := by decide +kernel

end Service

end Bookings
