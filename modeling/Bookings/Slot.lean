import Bookings.Id
import Bookings.Span
import Bookings.Number.Binary

namespace Bookings

structure Caller where
  email : String
  admin : Bool
deriving DecidableEq

structure Draft where
  timeslot : Option UInt32 := none
  name : Option String := none
  description : Option String := none
  location : Option String := none
  mapX : Option Single := none
  mapY : Option Single := none
deriving DecidableEq

structure Details where
  name : String
  description : String
  location : String
  mapX : Single
  mapY : Single
deriving DecidableEq

/-- A row of a queue: one seat at a timeslot of a day. While `student` is missing, nobody holds
it. -/
structure Slot where
  id : Id
  queue : Id
  timeslot : UInt32
  scheduledTime : Instant
  duration : UInt32
  student : Option String
  details : Details
deriving DecidableEq

namespace Slot

def isClaimed (s : Slot) : Bool := s.student.isSome

def isClaimedBy (s : Slot) (email : String) : Bool := s.student == some email

end Slot

/-- Seats left at a timeslot: its capacity less the claimed rows; negative when overbooked. -/
def openSeats (capacity : Nat) (rows : List Slot) : Int :=
  capacity - rows.countP Slot.isClaimed

def hasRoom (seats : Int) : Bool := 1 ≤ seats

end Bookings
