import Bookings.Id
import Bookings.Log.Disk

namespace Bookings

inductive LogFault where
  | journal (cause : Log.JournalError)
  | reported (text : String)
deriving DecidableEq

inductive StoreError where
  | notFound (id : Id)
  | capacityExhausted (timeslot : UInt32) (capacity : Nat)
  | studentBusy (existing : Id)
  | windowOccupied (appointments : Nat)
  | noOpenSlot (timeslot : UInt32)
  | claimedByOther (id : Id)
  | vacated (id : Id)
  | limitExceeded (limit : String)
  | logFailed (cause : LogFault)
deriving DecidableEq

/-- Disk faults are told apart by kind only, without the words of the system. -/
def LogFault.message : LogFault → String
  | .journal .writerStopped => "WAL writer shut down"
  | .journal (.disk _) => "io"
  | .reported text => text

def StoreError.message : StoreError → String
  | .notFound id => "not found: " ++ id.text
  | .capacityExhausted timeslot capacity =>
    "timeslot " ++ toString timeslot.toNat ++ " is at capacity " ++ toString capacity
  | .studentBusy existing => "student already holds appointment " ++ existing.text
  | .windowOccupied appointments => toString appointments ++ " appointments exist in the window"
  | .noOpenSlot timeslot => "no open slot at timeslot " ++ toString timeslot.toNat
  | .claimedByOther id => "appointment " ++ id.text ++ " is held by another student"
  | .vacated id => "appointment " ++ id.text ++ " has no student"
  | .limitExceeded limit => "limit exceeded: " ++ limit
  | .logFailed cause => "WAL error: " ++ cause.message

end Bookings
