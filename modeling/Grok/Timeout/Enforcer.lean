import Grok.Log
import Grok.Timeout.Deadline
import Grok.Timeout.Ledger
/-!
Enforcers hand out deadlines and keep what all workers share: the ledger, and whether a monitor
scans it.
-/
namespace Grok.Timeout

structure Enforcer where
  /-- The time for a unit of work, never zero. No time sets no bounds. -/
  timeout : Option Duration
  /-- The time between two scans of the monitor. -/
  interval : Duration
  ledger : Ledger
  /-- Whether a monitor has been started and not been stopped since. -/
  monitored : Bool
  /-- The evaluations that workers stopped waiting for. -/
  abandoned : Nat
  deriving DecidableEq, Repr

namespace Enforcer

def defaultInterval : Duration := .ofMillis 250

/-- The count of abandoned evaluations from which every doubling is reported. -/
def reportThreshold : Nat := 8

/-- An enforcer that gives every unit of work the same time. No time at all sets no bounds. -/
def new (timeout : Duration) : Enforcer where
  timeout := if timeout.isZero then none else some timeout
  interval := defaultInterval
  ledger := .empty
  monitored := false
  abandoned := 0

def disabled : Enforcer := new .zero

/-- An interval is a millisecond at least. -/
def withInterval (e : Enforcer) (interval : Duration) : Enforcer :=
  { e with interval := ⟨max interval.nanos (Duration.ofMillis 1).nanos⟩ }

def isEnabled (e : Enforcer) : Bool := e.timeout.isSome

def isRunning (e : Enforcer) : Bool := e.monitored

def inFlight (e : Enforcer) : Nat := e.ledger.size

def deadline (e : Enforcer) (now : Instant) : Deadline := .startingAt now e.timeout

/-- Starts the monitor, unless there are no bounds or a monitor runs already. -/
def start (e : Enforcer) : Enforcer × Log :=
  match e.timeout with
  | none => (e, [])
  | some t =>
    if e.monitored then (e, [])
    else
      ({ e with monitored := true },
        [⟨.info, "Grok timeout enforcer started",
          [("timeout_ms", toString t.toMillis), ("interval_ms", toString e.interval.toMillis)]⟩])

def stop (e : Enforcer) : Enforcer × Log :=
  if e.monitored then
    ({ e with monitored := false }, [⟨.debug, "Grok timeout enforcer stopped", []⟩])
  else (e, [])

def countAbandoned (e : Enforcer) : Enforcer := { e with abandoned := e.abandoned + 1 }

def isPowerOfTwo (n : Nat) : Bool := n != 0 && Nat.pow 2 n.log2 == n

def reports (count : Nat) : Bool := reportThreshold ≤ count && isPowerOfTwo count

@[simp] theorem ledger_start (e : Enforcer) : e.start.1.ledger = e.ledger := by
  unfold start
  split
  · rfl
  · split <;> rfl

@[simp] theorem ledger_stop (e : Enforcer) : e.stop.1.ledger = e.ledger := by
  unfold stop
  split <;> rfl

@[simp] theorem abandoned_start (e : Enforcer) : e.start.1.abandoned = e.abandoned := by
  unfold start
  split
  · rfl
  · split <;> rfl

@[simp] theorem abandoned_stop (e : Enforcer) : e.stop.1.abandoned = e.abandoned := by
  unfold stop
  split <;> rfl

@[simp] theorem ledger_countAbandoned (e : Enforcer) : e.countAbandoned.ledger = e.ledger := rfl

@[simp] theorem abandoned_countAbandoned (e : Enforcer) :
    e.countAbandoned.abandoned = e.abandoned + 1 := rfl

end Enforcer

end Grok.Timeout
