import Bookings.Store.Decision

namespace Bookings

structure Store where
  register : Register
  journal : Log.Journal

namespace Store

def «open» (d : Log.Disk) : Store :=
  ⟨Register.ofEvents (Log.replay d.bytes), Log.Journal.open d⟩

/-- Logs an event and applies it; memory keeps still if the log refuses. -/
def commit : Store → Event → Except StoreError Unit × Store
  | ⟨register, journal⟩, e =>
    match journal.write e with
    | (.ok (), journal) => (.ok (), ⟨register.apply e, journal⟩)
    | (.error cause, journal) => (.error (.logFailed (.journal cause)), ⟨register, journal⟩)

def prepare (s : Store) (c : Call) : Except StoreError Store :=
  match c.home? with
  | none => .ok s
  | some queue =>
    match s.register.prepare queue with
    | .ok register => .ok { s with register }
    | .error e => .error e

def settle {α : Type} (s : Store) : Decision α → Except StoreError α × Store
  | .answer a => (a, s)
  | .record e reply =>
    match s.commit e with
    | (.ok (), s) => (reply s.register, s)
    | (.error e, s) => (.error e, s)

def answer (s : Store) (c : Call) : c.Answer × Store :=
  match s.prepare c with
  | .error e => (.error e, s)
  | .ok s => s.settle (s.register.decide c)

def compact (s : Store) : Except StoreError Unit × Store :=
  match s.journal.compact s.register.snapshot with
  | (.ok (), journal) => (.ok (), { s with journal })
  | (.error cause, journal) => (.error (.logFailed (.journal cause)), { s with journal })

def compactIfDue (s : Store) (threshold : Nat) : Bool × Store :=
  if s.journal.appends < threshold then (false, s)
  else
    match s.compact with
    | (.ok (), s) => (true, s)
    | (.error _, s) => (false, s)

def compactEvery (s : Store) (threshold : Nat) : (ticks : Nat) → Store
  | 0 => s
  | ticks + 1 => (s.compactIfDue threshold).2.compactEvery threshold ticks

end Store

end Bookings
