import Bookings.Log.Checksum
import Bookings.Log.Layout

namespace Bookings.Log

/-- The record of an event's bytes; only the low 32 bits of their number are kept. -/
def frame (payload : List UInt8) : List UInt8 :=
  wordBytes 4 payload.length ++ (payload ++ word32Bytes (checksum payload))

def record (e : Event) : List UInt8 := frame (eventBytes e)

def records (es : List Event) : List UInt8 := es.flatMap record

theorem records_cons (e : Event) (es : List Event) : records (e :: es) = record e ++ records es :=
  List.flatMap_cons

theorem records_append (es fs : List Event) : records (es ++ fs) = records es ++ records fs :=
  List.flatMap_append

def readFrame? (bytes : List UInt8) : Option (List UInt8 × List UInt8) := do
  let (size, bytes) ← readWord? 4 bytes
  let (payload, bytes) ← takeBytes? size bytes
  let (sum, bytes) ← readWord32? bytes
  if sum = checksum payload then return (payload, bytes) else none

def readRecord? (bytes : List UInt8) : Option (Event × List UInt8) := do
  let (payload, bytes) ← readFrame? bytes
  let e ← readEvent? payload
  return (e, bytes)

def replayUpTo : (limit : Nat) → List UInt8 → List Event
  | 0, _ => []
  | limit + 1, bytes =>
    match readRecord? bytes with
    | some (e, rest) => e :: replayUpTo limit rest
    | none => []

/-- All events before the first bad record; a record has eight bytes at least. -/
def replay (bytes : List UInt8) : List Event := replayUpTo bytes.length bytes

end Bookings.Log
