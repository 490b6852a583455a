import Bookings.Week
import Bookings.Number.Whole
import Bookings.Text.Blank

namespace Bookings

def maxOffsetMinutes : Nat := 1080

structure Settings where
  bind : String
  listenPort : Nat
  dataDir : String
  maxConnections : Nat
  compactThreshold : Nat
  metricsPort : Option Nat
  utcOffsetMinutes : Int32
deriving DecidableEq

inductive SettingsError where
  | utcOffsetOutOfRange (minutes : Int32)
deriving DecidableEq

def SettingsError.message : SettingsError → String
  | .utcOffsetOutOfRange minutes =>
    "OFFICEHOURS_UTC_OFFSET_MINUTES=" ++ toString minutes.toInt ++ " is outside ±" ++
      toString maxOffsetMinutes

namespace Settings

def keys : List String :=
  ["OFFICEHOURS_BIND", "OFFICEHOURS_PORT", "OFFICEHOURS_DATA_DIR", "OFFICEHOURS_MAX_CONNECTIONS",
    "OFFICEHOURS_COMPACT_THRESHOLD", "OFFICEHOURS_METRICS_PORT", "OFFICEHOURS_UTC_OFFSET_MINUTES"]

def parsed? {α : Type} (lookup : String → Option String) (read : String → Option α)
    (key : String) : Option α :=
  (lookup key).bind fun s => read (Text.trim s)

/-- A number in a word of 32 bits with sign. One that the word does not hold is an overflow, which has no result. -/
def int32? (n : Int) : Option Int32 :=
  if -2147483648 ≤ n ∧ n < 2147483648 then some (Int32.ofInt n) else none

/-- The settings, or why they are refused; a number that cannot be read counts as missing. Without a result where the
size of the offset overflows. -/
def ofLookup (lookup : String → Option String) : Option (Except SettingsError Settings) := do
  let minutes := (parsed? lookup Whole.int32? "OFFICEHOURS_UTC_OFFSET_MINUTES").getD 0
  let size ← int32? minutes.toInt.natAbs
  if Int32.ofNat maxOffsetMinutes < size then return .error (.utcOffsetOutOfRange minutes)
  else return .ok {
    bind := (lookup "OFFICEHOURS_BIND").getD "0.0.0.0"
    listenPort := (parsed? lookup (Whole.below? 65536) "OFFICEHOURS_PORT").getD 7878
    dataDir := (lookup "OFFICEHOURS_DATA_DIR").getD "./data"
    maxConnections :=
      (parsed? lookup (Whole.below? 18446744073709551616) "OFFICEHOURS_MAX_CONNECTIONS").getD 256
    compactThreshold :=
      (parsed? lookup (Whole.below? 18446744073709551616) "OFFICEHOURS_COMPACT_THRESHOLD").getD 1000
    metricsPort := parsed? lookup (Whole.below? 65536) "OFFICEHOURS_METRICS_PORT"
    utcOffsetMinutes := minutes }

def address (s : Settings) : String := s.bind ++ ":" ++ toString s.listenPort

def zone (s : Settings) : Option (Except SettingsError Zone) := do
  let seconds ← int32? (s.utcOffsetMinutes.toInt * 60)
  match Zone.ofSeconds? seconds.toInt with
  | some z => return .ok z
  | none => return .error (.utcOffsetOutOfRange s.utcOffsetMinutes)

end Settings

end Bookings
