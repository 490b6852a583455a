import Bookings.Main
import Bookings.Proofs.Desk.Replacement
import Bookings.Proofs.Desk.Upcoming
import Bookings.Proofs.Store.Compaction
import Bookings.Proofs.Store.Restart
import Bookings.Proofs.Store.Lifecycle
import Bookings.Proofs.Desk.Refusals
import Bookings.Proofs.Desk.Accepted
import Bookings.Proofs.Desk.Advice
import Bookings.Proofs.Desk.Balance
import Bookings.Proofs.Desk.Requests
import Bookings.Proofs.Desk.Timely
import Bookings.Proofs.Desk.Ahead
import Bookings.Proofs.Desk.UnderWay
import Bookings.Proofs.Desk.Retry
import Bookings.Proofs.Desk.Conduct
import Bookings.Proofs.Desk.Reached
import Bookings.Proofs.Desk.Publishing
import Bookings.Proofs.Desk.Overfill
import Bookings.Proofs.Desk.Authority
import Bookings.Proofs.Calendar
import Bookings.Proofs.Desk.Faultless
import Bookings.Proofs.Arithmetic
import Bookings.Proofs.Desk.Overflow
import Bookings.Proofs.Desk.Disclosure
import Bookings.Proofs.Desk.Listings
import Bookings.Proofs.Store.LogOrder
import Bookings.Proofs.Protocol.Overlong
import Bookings.Proofs.Log.Rewriting
import Bookings.Proofs.Desk.Cancellation
import Bookings.Proofs.Json.Reading
import Bookings.Proofs.Number.Narrowing
import Bookings.Proofs.Protocol.RoundTrip
import Bookings.Proofs.Desk.Coordinates
import Bookings.Proofs.Store.Quota
import Bookings.Proofs.Queue.Order
import Bookings.Proofs.Capacities
import Bookings.Proofs.Settings
