import Bookings.Slot
import Bookings.Text.Blank
import Bookings.Desk.Error

namespace Bookings.Rules

def maxFieldBytes : Nat := 1024

def maxEmailBytes : Nat := 320

def required (text : Option String) (field : String) : Except BookingError String :=
  let trimmed := Text.trim (text.getD "")
  if trimmed.isEmpty then .error (.missingField field)
  else if maxFieldBytes < trimmed.utf8ByteSize then .error (.fieldTooLong field)
  else .ok trimmed

/-- Name, description and location are required, in this order; the place on the map defaults to
the origin. -/
def details (d : Draft) : Except BookingError Details := do
  let name ← required d.name "name"
  let description ← required d.description "description"
  let location ← required d.location "location"
  return ⟨name, description, location, d.mapX.getD .zero, d.mapY.getD .zero⟩

def weekday (weekday : UInt8) : Except BookingError Unit :=
  if weekday > 6 then .error (.invalidWeekday weekday) else .ok ()

def caller (c : Caller) : Except BookingError Unit :=
  if (Text.trim c.email).isEmpty then .error (.missingField "email")
  else if maxEmailBytes < c.email.utf8ByteSize then .error (.fieldTooLong "email")
  else .ok ()

def admin (c : Caller) : Except BookingError Unit :=
  if c.admin then .ok () else .error .adminOnly

def owner (slot : Slot) (c : Caller) : Except BookingError Unit :=
  if slot.isClaimedBy c.email then .ok () else .error (.notOwner slot.id)

def notStarted (scheduledTime now : Instant) : Except BookingError Unit :=
  if scheduledTime < now then .error (.inThePast scheduledTime) else .ok ()

def cancellable (slot : Slot) (now : Instant) : Except BookingError Unit :=
  if slot.scheduledTime < now then .error (.cancelAfterStart slot.scheduledTime) else .ok ()

end Bookings.Rules
