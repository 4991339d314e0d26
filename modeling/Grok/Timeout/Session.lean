import Grok.Matcher
import Grok.Timeout.Enforcer
import Grok.Timeout.Mailbox
/-!
Sessions: one worker that uses an enforcer, on a clock of their own. The clock runs while matchers
work, at a fixed time for every step, so that an attempt runs over its deadline exactly if it needs
more steps than fit in front of it.
-/
namespace Grok.Timeout

/-- The result of a job: the captures of a match, if there is one, or why matching failed. -/
abbrev JobResult := Except Error (Option (List Capture))

/-- A matcher that failed is reported. -/
def failureLog (m : Matcher) : JobResult → Log
  | .ok _ => []
  | .error e =>
    [⟨.warn, "Grok regexp runtime error", [("pattern", m.source), ("error", e.message)]⟩]

structure Worker where
  id : WorkerId
  mailbox : Mailbox JobResult
  lastJob : JobId

structure Session where
  enforcer : Enforcer
  worker : Worker
  now : Instant

namespace Session

/-- The time that a step of a matcher takes, in nanoseconds. -/
def stepNanos : Nat := 8

def new (enforcer : Enforcer) : Session := ⟨enforcer, ⟨0, .empty, 0⟩, 0⟩

def deadline (s : Session) : Deadline := s.enforcer.deadline s.now

def start (s : Session) : Session × Log :=
  let (e, log) := s.enforcer.start
  ({ s with enforcer := e }, log)

def stop (s : Session) : Session × Log :=
  let (e, log) := s.enforcer.stop
  ({ s with enforcer := e }, log)

def elapse (s : Session) (steps : Nat) : Session := { s with now := s.now + steps * stepNanos }

def runInline (s : Session) (m : Matcher) (text : String) : MatchOutcome × Session :=
  match m.attempt none text with
  | .done captures steps => (.ofCaptures captures, s.elapse steps)
  | .cutOff => (.notMatched, s)

def submit (s : Session) (expires : Instant) : Session :=
  let job := s.worker.lastJob + 1
  { s with
    worker := ⟨s.worker.id, s.worker.mailbox.clearInterrupt.expect job, job⟩
    enforcer := { s.enforcer with ledger := s.enforcer.ledger.register s.worker.id expires } }

def deliver (s : Session) (result : JobResult) : Session :=
  { s with worker := { s.worker with mailbox := s.worker.mailbox.deliver s.worker.lastJob result } }

/-- A scan of the monitor at some instant. -/
def scan (s : Session) (now : Instant) : Session :=
  let mailbox :=
    if (s.enforcer.ledger.overdue now).contains s.worker.id then s.worker.mailbox.interrupt
    else s.worker.mailbox
  { s with
    now := now
    worker := { s.worker with mailbox := mailbox }
    enforcer := { s.enforcer with ledger := s.enforcer.ledger.expire now } }

/-- Strikes the worker out of the ledger. If the monitor has done so, its interrupt is cleared. -/
def leave (s : Session) : Session :=
  if s.enforcer.ledger.contains s.worker.id then
    { s with enforcer := { s.enforcer with ledger := s.enforcer.ledger.erase s.worker.id } }
  else { s with worker := { s.worker with mailbox := s.worker.mailbox.clearInterrupt } }

/-- Waits for a job, or for an interrupt, and leaves the ledger. -/
def wait (s : Session) : Option (Wake JobResult) × Session :=
  match s.worker.mailbox.collect? with
  | some (wake, mailbox) => (some wake, { s with worker := { s.worker with mailbox } }.leave)
  | none => (none, s.leave)

/-- Counts an abandoned evaluation, and reports the count if it has doubled. -/
def abandon (s : Session) (m : Matcher) : Session × Log :=
  let e := s.enforcer.countAbandoned
  ({ s with enforcer := e },
    if Enforcer.reports e.abandoned then
      [⟨.warn, "Grok abandoned executors still hold threads until their matches finish",
        [("abandoned", toString e.abandoned), ("pattern", m.source)]⟩]
    else [])

/-- Lets the matcher work until it is done, or until the monitor interrupts it. -/
def evaluate (s : Session) (m : Matcher) (text : String) (expires : Instant) : Session :=
  match m.attempt (some ((expires - s.now).toNat / stepNanos)) text with
  | .done captures steps => (s.elapse steps).deliver (.ok captures)
  | .cutOff => s.scan expires

/-- Runs a matcher that is interrupted when `expires` has come. -/
def runBounded (s : Session) (m : Matcher) (text : String) (expires : Instant) :
    MatchOutcome × Log × Session :=
  match ((s.submit expires).evaluate m text expires).wait with
  | (some (.finished result), s') => (.ofResult result, failureLog m result, s')
  | (some .interrupted, s') =>
    let (s'', log) := s'.abandon m
    (.timedOut ⟨(s'.now - s.now).toNat⟩, log, s'')
  | (none, s') => (.notMatched, [], s')

/-- Runs a matcher under a deadline. Without a bound, or without a monitor, it runs to its end; once
the deadline has passed it does not run at all. -/
def run (s : Session) (m : Matcher) (text : String) (d : Deadline) : MatchOutcome × Log × Session :=
  match d.expires? with
  | none =>
    let (o, s) := s.runInline m text
    (o, [], s)
  | some expires =>
    if expires ≤ s.now then (.timedOut .zero, [], s)
    else if s.enforcer.isRunning then s.runBounded m text expires
    else
      let (o, s) := s.runInline m text
      let entry : LogEntry :=
        ⟨.debug, "Grok timeout monitor not running, matching inline", [("pattern", m.source)]⟩
      (o, [entry], s)

end Session

end Grok.Timeout
