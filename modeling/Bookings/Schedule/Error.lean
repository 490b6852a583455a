import Bookings.Text.Quoted

namespace Bookings

inductive ScheduleError where
  | notADigit (index : Nat) (found : Char)
  | zeroDuration
  | weekdayOutOfRange (weekday : UInt8)
  | overflow (timeslots : Nat) (duration : UInt32)
deriving DecidableEq

def ScheduleError.message : ScheduleError → String
  | .notADigit index found =>
    "capacity at timeslot " ++ toString index ++ " is " ++ Text.quoted found ++
      ", expected a digit 0-9"
  | .zeroDuration => "slot duration must be positive"
  | .weekdayOutOfRange weekday => "weekday " ++ toString weekday.toNat ++ " is not in 0-6"
  | .overflow timeslots duration =>
    toString timeslots ++ " timeslots of " ++ toString duration.toNat ++
      " minutes do not fit in one day"

end Bookings
