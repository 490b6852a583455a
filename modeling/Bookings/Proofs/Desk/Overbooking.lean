import Bookings.Proofs.Desk.Booked

namespace Bookings

/-- A request made alone, with what is wrong with the store at the time. -/
structure Visit where
  now : Instant
  operation : Operation
  faults : Faults := Service.noFaults

namespace Service

def start (disk : Log.Disk) : Service := ⟨Store.open disk, 0⟩

def visit (ids : Nat → Id) (zone : Zone) (s : Service) (v : Visit) : Service :=
  ((ExceptT.run ((Desk.mk zone v.now).perform v.operation)).run (world ids v.faults) s).2

def visits (ids : Nat → Id) (zone : Zone) (s : Service) (vs : List Visit) : Service := vs.foldl (visit ids zone) s

variable {ids : Nat → Id} {zone : Zone} {last : Nat} {s : Service}

theorem register_start {disk : Log.Disk} (blank : disk.bytes = []) : (start disk).store.register = Register.empty := by
  rw [start, Store.open, blank]
  rfl

theorem safe_start {disk : Log.Disk} {I : Register → Prop} (blank : disk.bytes = []) (holds : I Register.empty)
    (fresh : ((List.range last).map ids).Nodup) : (start disk).Safe I ids last [] := by
  have none := register_start blank
  constructor
  · rw [none]
    exact holds
  · rw [none, List.nil_append, coming, start, Nat.sub_zero, ← List.range_eq_range']
    exact Register.fresh_empty fresh

def task (zone : Zone) (now : Instant) (op : Operation) : Plan (Σ op : Operation, Except BookingError op.Result) :=
  (ExceptT.run ((Desk.mk zone now).perform op)).bind fun answer => .done ⟨op, answer⟩

/-- The service after some requests, each of its own time, have taken steps in turns. -/
def concurrently (ids : Nat → Id) (faults : Faults) (zone : Zone) (s : Service) (tasks : List (Instant × Operation))
    (turns : List Nat) : Service :=
  (Plan.interleave (world ids faults) turns (tasks.map fun t => task zone t.1 t.2) s).2

/-- What requests of any times may call while schedules stay as they are. -/
def Permits (zone : Zone) (schedules : Schedules) (c : Call) : Prop :=
  c.replaces = false ∧ ∃ now, c.Fits ⟨zone, now⟩ schedules

theorem asks_task {schedules : Schedules} (zone : Zone) (now : Instant) {op : Operation} (keeps : op.replaces = false) :
    (task zone now op).Asks (Permits zone) (fun _ _ _ => True) schedules [] := by
  have asks : Action.Asks ((Desk.mk zone now).Permits op.replaces) (fun _ _ _ => True) schedules []
      ((Desk.mk zone now).perform op) := Desk.asks_perform ⟨zone, now⟩ op
  rw [task, Plan.asks_bind]
  refine asks.run.mono ?_ fun _ _ _ _ => True.intro
  intro schedules c permitted
  refine ⟨Bool.eq_false_iff.mpr fun replaces => ?_, now, permitted.1⟩
  rw [permitted.2 replaces] at keeps
  contradiction

theorem minted_le_visits (vs : List Visit) (s : Service) : s.minted ≤ (s.visits ids zone vs).minted := by
  induction vs generalizing s with
  | nil => exact Nat.le_refl _
  | cons v vs ih => exact Nat.le_trans (Plan.minted_le_run ids v.faults _ s) (ih _)

theorem Safe.booked_later {now later : Instant} {taken : List Id} (ordered : now ≤ later)
    (safe : s.Safe (Register.Booked zone now) ids last taken) :
    s.Safe (Register.Booked zone later) ids last taken := ⟨safe.holds.later ordered, safe.fresh⟩

theorem safe_visit {I : Register → Prop} {v : Visit}
    (keeps : Register.Keeps I ((Desk.mk zone v.now).Makes v.operation)) (safe : s.Safe I ids last [])
    (enough : (s.visit ids zone v).minted ≤ last) : (s.visit ids zone v).Safe I ids last [] := by
  have asks : Action.Asks ((Desk.mk zone v.now).Makes v.operation) (fun _ _ _ => True)
      s.store.register.schedule? [] ((Desk.mk zone v.now).perform v.operation) :=
    Desk.asks_makes ⟨zone, v.now⟩ v.operation
  have alone : s.Safe I ids last ([] ++ []) := safe
  obtain ⟨left, after⟩ := asks.run.run keeps alone enough
  exact after.drop

theorem safe_visits {I : Register → Prop} {vs : List Visit}
    (keeps : ∀ now op, Register.Keeps I ((Desk.mk zone now).Makes op)) (safe : s.Safe I ids last [])
    (enough : (s.visits ids zone vs).minted ≤ last) : (s.visits ids zone vs).Safe I ids last [] := by
  induction vs generalizing s with
  | nil => exact safe
  | cons v vs ih =>
    have first := Nat.le_trans (minted_le_visits vs _) enough
    exact ih (safe_visit (keeps v.now v.operation) safe first) enough

theorem booked_visit {v : Visit} (safe : s.Safe (Register.Booked zone v.now) ids last [])
    (enough : (s.visit ids zone v).minted ≤ last) :
    (s.visit ids zone v).Safe (Register.Booked zone v.now) ids last [] :=
  safe_visit ((Register.booked_keeps ⟨zone, v.now⟩ v.operation.replaces).mono fun _ _ makes => makes.permits) safe enough

theorem booked_visits {vs : List Visit} {now later : Instant}
    (safe : s.Safe (Register.Booked zone now) ids last []) (started : ∀ v ∈ vs, now ≤ v.now)
    (monotone : vs.Pairwise fun u v => u.now ≤ v.now) (latest : ∀ v ∈ vs, v.now ≤ later) (ordered : now ≤ later)
    (enough : (s.visits ids zone vs).minted ≤ last) :
    (s.visits ids zone vs).store.register.Booked zone later := by
  induction vs generalizing s now with
  | nil => exact safe.holds.later ordered
  | cons v vs ih =>
    obtain ⟨next, rest⟩ := List.pairwise_cons.mp monotone
    have before := safe.booked_later (started v List.mem_cons_self)
    have first := Nat.le_trans (minted_le_visits vs _) enough
    exact ih (booked_visit before first) next rest (fun u member => latest u (List.mem_cons_of_mem v member))
      (latest v List.mem_cons_self) enough

/-- Whatever requests were made of a service whose log was blank, at times that never went back, in each
window of the current week the rows are at timeslots of the weekday's present schedule, and at each of these
no more seats are taken than it has. -/
theorem visits_never_overbook {disk : Log.Disk} {vs : List Visit} {now : Instant} {queue : Id} {weekday : UInt8}
    {w : Span} (blank : disk.bytes = []) (monotone : vs.Pairwise fun u v => u.now ≤ v.now)
    (latest : ∀ v ∈ vs, v.now ≤ now)
    (fresh : ((List.range ((start disk).visits ids zone vs).minted).map ids).Nodup)
    (bounds : weekdayBounds weekday now zone = some w) :
    (∀ row ∈ ((start disk).visits ids zone vs).store.register.rows queue,
      w.contains row.scheduledTime = true →
        ∃ schedule, ((start disk).visits ids zone vs).store.register.schedule? queue weekday = some schedule ∧
          row.timeslot.toNat < schedule.timeslots) ∧
      ∀ timeslot, ((start disk).visits ids zone vs).store.register.taken queue w.contains timeslot ≤
        Schedules.capacity ((start disk).visits ids zone vs).store.register.schedule? queue weekday timeslot := by
  have none : (start disk).store.register = Register.empty := by
    rw [start, Store.open, blank]
    rfl
  have booked : ((start disk).visits ids zone vs).store.register.Booked zone now := by
    cases vs with
    | nil =>
      rw [visits, List.foldl_nil, none]
      exact Register.booked_empty zone now
    | cons v vs =>
      have safe : (start disk).Safe (Register.Booked zone v.now) ids
          ((start disk).visits ids zone (v :: vs)).minted [] := by
        constructor
        · rw [none]
          exact Register.booked_empty zone v.now
        · rw [none, List.nil_append, coming, start, Nat.sub_zero, ← List.range_eq_range']
          exact Register.fresh_empty fresh
      have started : ∀ u ∈ v :: vs, v.now ≤ u.now := by
        intro u member
        rcases List.mem_cons.mp member with rfl | later
        · exact Int64.le_refl _
        · exact (List.pairwise_cons.mp monotone).1 u later
      exact booked_visits safe started monotone latest (latest v List.mem_cons_self) (Nat.le_refl _)
  have known := weekday_le bounds
  rw [contains_eq_onDay bounds]
  exact ⟨booked.slotted queue weekday known, booked.seated queue weekday known⟩

def wednesday : List Visit :=
  let draft : Draft := { name := some "Ada", description := some "limits", location := some "room 1" }
  let capacities : Capacities := ⟨['1', '2'].filterMap Capacities.digit?⟩
  [⟨1700000000000, .updateSchedule (Id.ofNat 7) 3 30 capacities ⟨"staff@x.edu", true⟩, noFaults⟩,
    ⟨1700000000000, .publishOpenSlots (Id.ofNat 7) 3 draft ⟨"staff@x.edu", true⟩, noFaults⟩,
    ⟨1700000060000, .claimTimeslot (Id.ofNat 7) 3 1 ⟨"ada@x.edu", false⟩, noFaults⟩,
    ⟨1700000120000, .signup (Id.ofNat 7) 3 1 draft ⟨"bob@x.edu", false⟩, noFaults⟩,
    ⟨1700000180000, .claimTimeslot (Id.ofNat 7) 3 1 ⟨"cyd@x.edu", false⟩, noFaults⟩]

theorem visits_never_overbook_wednesday :
    ((start {}).visits (fun n => Id.ofNat (n + 1)) Zone.utc wednesday).minted = 4 ∧
      ((start {}).visits (fun n => Id.ofNat (n + 1)) Zone.utc wednesday).store.register.taken (Id.ofNat 7)
        (Span.contains ⟨1700006400000, 1700092800000⟩) 1 = 2 ∧
      ((start {}).visits (fun n => Id.ofNat (n + 1)) Zone.utc wednesday).store.register.taken (Id.ofNat 7)
        (Span.contains ⟨1700006400000, 1700092800000⟩) 1 ≤
        Schedules.capacity ((start {}).visits (fun n => Id.ofNat (n + 1)) Zone.utc wednesday).store.register.schedule?
          (Id.ofNat 7) 3 1 := by
  have bounds : weekdayBounds 3 1700000180000 Zone.utc = some ⟨1700006400000, 1700092800000⟩ := by decide +kernel
  refine ⟨by decide +kernel, by decide +kernel, ?_⟩
  exact (visits_never_overbook rfl (by decide) (by decide) (by decide +kernel) bounds).2 1

structure Limited (schedules : Schedules) (queue : Id) (times : Instant → Bool) (timeslot : UInt32) (limit : Nat)
    (r : Register) : Prop where
  orderly : r.Orderly
  stored : r.schedule? = schedules
  bound : r.taken queue times timeslot ≤ limit

theorem limited_keeps (zone : Zone) {schedules : Schedules} (valid : schedules.Valid) (queue : Id) {weekday : UInt8}
    (known : weekday ≤ 6) (now : Instant) (timeslot : UInt32) :
    Register.Keeps (Limited schedules queue (zone.onDay (zone.sundayOf now + weekday.toNat)) timeslot
      (schedules.capacity queue weekday timeslot)) (Permits zone) where
  same := by
    intro r t same limited
    refine ⟨limited.orderly.of_same same, same.schedule?.trans limited.stored, ?_⟩
    rw [Register.taken_of_same same]
    exact limited.bound
  apply := by
    intro r c e a admitted permitted fresh limited
    obtain ⟨keeps, time, fits⟩ := permitted
    rw [limited.stored] at fits
    exact ⟨limited.orderly.apply e fresh, (admitted.keeps_schedules keeps).trans limited.stored,
      Register.taken_apply_le limited.orderly admitted (fits.counts valid known now queue timeslot) limited.bound⟩

theorem keeps_interleave {tasks : List (Instant × Operation)} {turns : List Nat} {faults : Faults}
    {schedules : Schedules} {I : Register → Prop} (kept : Register.Keeps I (Permits zone))
    (fixed : ∀ r, I r → r.schedule? = schedules) (keeps : ∀ t ∈ tasks, t.2.replaces = false) (holds : I s.store.register)
    (fresh : s.store.register.Fresh (s.coming ids last))
    (enough : (Plan.interleave (world ids faults) turns (tasks.map fun t => task zone t.1 t.2) s).2.minted ≤ last) :
    I (Plan.interleave (world ids faults) turns (tasks.map fun t => task zone t.1 t.2) s).2.store.register := by
  have safe : s.Safe I ids last (tasks.map fun _ => ([] : List Id)).flatten := by
    refine ⟨holds, ?_⟩
    rw [List.flatten_eq_nil_iff.mpr (by simp), List.nil_append]
    exact fresh
  refine Plan.interleave_safe kept fixed ?_ safe enough
  intro i p chosen
  rw [List.getElem?_map, Option.map_eq_some_iff] at chosen
  obtain ⟨t, member, rfl⟩ := chosen
  refine ⟨[], ?_, asks_task zone t.1 (keeps t (List.mem_of_getElem? member))⟩
  rw [List.getElem?_map, member, Option.map_some]

theorem taken_concurrently_le {tasks : List (Instant × Operation)} {turns : List Nat} {faults : Faults} {queue : Id}
    {weekday : UInt8} {now : Instant} {w : Span} {timeslot : UInt32}
    (orderly : s.store.register.Orderly) (valid : Schedules.Valid s.store.register.schedule?)
    (keeps : ∀ t ∈ tasks, t.2.replaces = false)
    (fresh : s.store.register.Fresh (s.coming ids (s.concurrently ids faults zone tasks turns).minted))
    (bounds : weekdayBounds weekday now zone = some w)
    (bound : s.store.register.taken queue w.contains timeslot ≤
      Schedules.capacity s.store.register.schedule? queue weekday timeslot) :
    (s.concurrently ids faults zone tasks turns).store.register.taken queue w.contains timeslot ≤
      Schedules.capacity s.store.register.schedule? queue weekday timeslot := by
  rw [contains_eq_onDay bounds] at bound ⊢
  have kept := limited_keeps zone valid queue (weekday_le bounds) now timeslot
  exact (keeps_interleave kept (fun r limited => limited.stored) keeps ⟨orderly, rfl, bound⟩ fresh (Nat.le_refl _)).bound

/-- Calls on behalf of any clients, in any order and answered in any way, keep the seats taken in a window and at
a timeslot within a limit that each of them respects; so do requests that take turns call by call. -/
theorem seats_hold_in_any_order :
    (∀ {s : Store} {calls : List Call} {queue : Id} {w : Span} {timeslot : UInt32} {limit : Nat},
      s.register.Orderly → s.Supplied calls → (∀ c ∈ calls, c.Counts queue w timeslot limit) →
        s.register.taken queue w.contains timeslot ≤ limit → ∀ n,
          (s.after (calls.take n)).register.Orderly ∧
            (s.after (calls.take n)).register.taken queue w.contains timeslot ≤ limit) ∧
      ∀ {ids : Nat → Id} {faults : Faults} {zone : Zone} {s : Service} {tasks : List (Instant × Operation)}
        {turns : List Nat} {queue : Id} {weekday : UInt8} {now : Instant} {w : Span} {timeslot : UInt32},
        s.store.register.Orderly → Schedules.Valid s.store.register.schedule? →
          (∀ t ∈ tasks, t.2.replaces = false) →
            s.store.register.Fresh (s.coming ids (s.concurrently ids faults zone tasks turns).minted) →
              weekdayBounds weekday now zone = some w →
                s.store.register.taken queue w.contains timeslot ≤
                    Schedules.capacity s.store.register.schedule? queue weekday timeslot →
                  (s.concurrently ids faults zone tasks turns).store.register.taken queue w.contains timeslot ≤
                    Schedules.capacity s.store.register.schedule? queue weekday timeslot := by
  constructor
  · intro s calls queue w timeslot limit orderly supplied counts bound n
    rw [← List.take_append_drop n calls] at supplied
    refine Store.keeps_after (Register.taken_keeps queue w.contains timeslot limit) ?_ supplied.of_append.1
      ⟨orderly, bound⟩
    exact fun c member _ => (counts c (List.mem_of_mem_take member)).at_contains
  · intro ids faults zone s tasks turns queue weekday now w timeslot
    exact taken_concurrently_le

def oneSeat : Service :=
  let schedule : Schedule := ⟨3, 30, ⟨['1'].filterMap Capacities.digit?⟩⟩
  ⟨⟨Register.empty.apply (.scheduleReplaced (Id.ofNat 7) schedule), Log.Journal.open {}⟩, 0⟩

def rivals : List (Instant × Operation) :=
  let draft : Draft := { name := some "Ada", description := some "limits", location := some "room 1" }
  [(1700000000000, .signup (Id.ofNat 7) 3 0 draft ⟨"ada@x.edu", false⟩),
    (1700000000000, .signup (Id.ofNat 7) 3 0 draft ⟨"bob@x.edu", false⟩)]

def rivalCalls : List Call :=
  let details : Details := ⟨"Ada", "limits", "room 1", .zero, .zero⟩
  let w : Span := ⟨1700006400000, 1700092800000⟩
  [.insert ⟨Id.ofNat 1, Id.ofNat 7, 0, 1700006400000, 30, some "ada@x.edu", details⟩ ⟨w, 1, none⟩,
    .insert ⟨Id.ofNat 2, Id.ofNat 7, 0, 1700006400000, 30, some "bob@x.edu", details⟩ ⟨w, 1, none⟩,
    .claim (Id.ofNat 7) w 0 1 "cyd@x.edu"]

theorem seats_hold_for_rivals :
    (((Store.open {}).after (rivalCalls.take 2)).register.taken (Id.ofNat 7)
        (Span.contains ⟨1700006400000, 1700092800000⟩) 0 = 1 ∧
      ((Store.open {}).after (rivalCalls.take 2)).register.taken (Id.ofNat 7)
        (Span.contains ⟨1700006400000, 1700092800000⟩) 0 ≤ 1) ∧
      (oneSeat.concurrently (fun n => Id.ofNat (n + 1)) noFaults Zone.utc rivals
          [0, 1, 0, 1, 0, 1, 0, 1, 0, 1]).store.register.taken (Id.ofNat 7)
            (Span.contains ⟨1700006400000, 1700092800000⟩) 0 = 1 ∧
        (oneSeat.concurrently (fun n => Id.ofNat (n + 1)) noFaults Zone.utc rivals
          [0, 1, 0, 1, 0, 1, 0, 1, 0, 1]).store.register.taken (Id.ofNat 7)
            (Span.contains ⟨1700006400000, 1700092800000⟩) 0 ≤
          Schedules.capacity oneSeat.store.register.schedule? (Id.ofNat 7) 3 0 := by
  have bounds : weekdayBounds 3 1700000000000 Zone.utc = some ⟨1700006400000, 1700092800000⟩ := by decide +kernel
  have booked : oneSeat.store.register.Booked Zone.utc 1700000000000 :=
    (Register.booked_empty Zone.utc 1700000000000).apply_replacing (d := ⟨Zone.utc, 1700000000000⟩)
      (by rw [Register.content_empty, Queue.within_empty]) bounds rfl
  have counts : ∀ c ∈ rivalCalls, c.Counts (Id.ofNat 7) ⟨1700006400000, 1700092800000⟩ 0 1 := by
    simp [rivalCalls, Call.Counts]
  refine ⟨⟨by decide +kernel, ?_⟩, by decide +kernel, ?_⟩
  · exact (seats_hold_in_any_order.1 Register.orderly_empty
      (Store.supplied_of_fresh (Register.fresh_empty (by decide +kernel))) counts (by decide +kernel) 2).2
  · refine seats_hold_in_any_order.2 booked.orderly booked.valid (by decide +kernel) ?_ bounds (by decide +kernel)
    exact Register.Fresh.apply (Register.fresh_empty (by decide +kernel))

end Service

end Bookings
