namespace Bookings

/-- Milliseconds since 1970-01-01T00:00:00Z, in 64 bits with sign. -/
abbrev Instant := Int64

def minuteMs : Int := 60000

def dayMs : Int := 86400000

def farFuture : Instant := 4611686018427387903

/-- The instants from `start` up to but not including `stop`. -/
structure Span where
  start : Instant
  stop : Instant
deriving DecidableEq

def Span.contains (w : Span) (t : Instant) : Bool :=
  w.start ≤ t && t < w.stop

theorem Span.contains_iff (w : Span) (t : Instant) :
    w.contains t = true ↔ w.start ≤ t ∧ t < w.stop := by
  simp only [contains, Bool.and_eq_true, decide_eq_true_eq]

end Bookings
