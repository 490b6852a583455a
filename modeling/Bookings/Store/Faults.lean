import Bookings.Store.Basic

namespace Bookings

inductive Capability where
  | fetch
  | within
  | atTimeslot
  | claimedBy
  | scheduleFor
  | allSchedules
  | replaceSchedule
  | insert
  | publish
  | edit
  | release
  | claim
deriving DecidableEq

def Call.capability : Call → Capability
  | .fetch _ => .fetch
  | .within .. => .within
  | .atTimeslot .. => .atTimeslot
  | .claimedBy .. => .claimedBy
  | .scheduleFor .. => .scheduleFor
  | .allSchedules _ => .allSchedules
  | .replaceSchedule .. => .replaceSchedule
  | .insert .. => .insert
  | .publish .. => .publish
  | .edit .. => .edit
  | .release .. => .release
  | .claim .. => .claim

inductive Fault where
  | fails (e : StoreError)
  | findsNothing
  | showsStudent (student : Option String)
deriving DecidableEq

abbrev Faults : Type := Capability → Option Fault

namespace Store

def answerThrough (s : Store) (fault : Fault) (c : Call) : c.Answer × Store :=
  match fault, c with
  | .fails e, _ => (.error e, s)
  | .findsNothing, .within .. => (.ok [], s)
  | .findsNothing, .atTimeslot .. => (.ok [], s)
  | .findsNothing, .claimedBy .. => (.ok [], s)
  | .showsStudent student, .fetch id =>
    let (a, s) := s.answer (.fetch id)
    (a.map fun slot => { slot with student }, s)
  | _, c => s.answer c

def answerWith (s : Store) (faults : Faults) (c : Call) : c.Answer × Store :=
  match faults c.capability with
  | some fault => s.answerThrough fault c
  | none => s.answer c

end Store

end Bookings
