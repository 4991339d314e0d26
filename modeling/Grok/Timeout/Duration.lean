/-!
Spans of time, in whole nanoseconds, and instants on a clock that never runs backwards.
-/
namespace Grok.Timeout

structure Duration where
  nanos : Nat
  deriving DecidableEq, Repr

namespace Duration

def zero : Duration := ⟨0⟩

def ofMillis (ms : Nat) : Duration := ⟨ms * 1000000⟩

def toMillis (d : Duration) : Nat := d.nanos / 1000000

def isZero (d : Duration) : Bool := d.nanos == 0

@[simp] theorem toMillis_ofMillis (ms : Nat) : (ofMillis ms).toMillis = ms := by
  simp [toMillis, ofMillis]

end Duration

/-- Nanoseconds after some fixed moment. -/
abbrev Instant := Int

end Grok.Timeout
