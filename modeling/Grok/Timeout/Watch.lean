import Grok.Timeout.Enforcer
/-!
Watches: the monitors of one enforcer, which any number of callers start and stop. The handle of the
monitor and the running flag have a lock each, and whatever is done under one of them is one act.
-/
namespace Grok.Timeout

abbrev MonitorId := Nat

abbrev CallerId := Nat

/-- How far a monitor is in its loop. -/
inductive Monitor where
  | absent
  /-- It looks at the running flag next. -/
  | looking
  /-- It sleeps for an interval, or until it is told to look. -/
  | resting
  | scanning
  | ended
  deriving DecidableEq, Repr

def Monitor.isAlive : Monitor → Bool
  | .looking | .resting | .scanning => true
  | .absent | .ended => false

/-- How far a start is that has the lock on the handle. -/
inductive Launch where
  | begun
  | raised
  | launched (m : MonitorId)
  | failed
  deriving DecidableEq, Repr

/-- The handle, or the start that has the lock on it and has found none. -/
inductive Slot where
  | free (handle : Option MonitorId)
  | held (c : CallerId) (stage : Launch)
  deriving DecidableEq, Repr

inductive Caller where
  | idle
  | starting
  | launching
  | stopping
  /-- A stop has taken the handle, and the flag is up still. -/
  | taken (m : MonitorId)
  | joining (m : MonitorId)
  deriving DecidableEq, Repr

structure Watch where
  enforcer : Enforcer
  slot : Slot
  monitors : MonitorId → Monitor
  callers : CallerId → Caller

namespace Watch

inductive Act where
  | start (c : CallerId)
  | stop (c : CallerId)
  /-- A call finds nothing to do. -/
  | pass (c : CallerId)
  | lock (c : CallerId)
  | raise (c : CallerId)
  | launch (c : CallerId)
  /-- No monitor can be had. -/
  | lack (c : CallerId)
  | recover (c : CallerId)
  | store (c : CallerId)
  | take (c : CallerId)
  | lower (c : CallerId)
  | join (c : CallerId)
  | look (m : MonitorId)
  | stir (m : MonitorId)
  | scan (m : MonitorId)
  deriving DecidableEq, Repr

def new (timeout interval : Duration) : Watch where
  enforcer := (Enforcer.new timeout).withInterval interval
  slot := .free none
  monitors _ := .absent
  callers _ := .idle

def isRunning (s : Watch) : Bool := s.enforcer.isRunning

/-- Whether no start and no stop is in progress. -/
def Quiescent (s : Watch) : Prop := ∀ c, s.callers c = .idle

def setFlag (s : Watch) (flag : Bool) : Watch :=
  { s with enforcer := { s.enforcer with monitored := flag } }

def setSlot (s : Watch) (slot : Slot) : Watch := { s with slot }

def setMonitor (s : Watch) (m : MonitorId) (p : Monitor) : Watch :=
  { s with monitors := fun n => if n = m then p else s.monitors n }

def setCaller (s : Watch) (c : CallerId) (p : Caller) : Watch :=
  { s with callers := fun d => if d = c then p else s.callers d }

inductive Step : Watch → Act → Watch → Prop
  | start {s c} : s.callers c = .idle → Step s (.start c) (s.setCaller c .starting)
  | stop {s c} : s.callers c = .idle → Step s (.stop c) (s.setCaller c .stopping)
  | disabled {s c} : s.callers c = .starting → s.enforcer.isEnabled = false →
      Step s (.pass c) (s.setCaller c .idle)
  | occupied {s c m} : s.callers c = .starting → s.enforcer.isEnabled = true →
      s.slot = .free (some m) → Step s (.pass c) (s.setCaller c .idle)
  | lock {s c} : s.callers c = .starting → s.enforcer.isEnabled = true → s.slot = .free none →
      Step s (.lock c) ((s.setSlot (.held c .begun)).setCaller c .launching)
  | raise {s c} : s.slot = .held c .begun →
      Step s (.raise c) ((s.setFlag true).setSlot (.held c .raised))
  | launch {s c m} : s.slot = .held c .raised → s.monitors m = .absent →
      Step s (.launch c) ((s.setMonitor m .looking).setSlot (.held c (.launched m)))
  | lack {s c} : s.slot = .held c .raised → Step s (.lack c) (s.setSlot (.held c .failed))
  | recover {s c} : s.slot = .held c .failed →
      Step s (.recover c) (((s.setFlag false).setSlot (.free none)).setCaller c .idle)
  | store {s c m} : s.slot = .held c (.launched m) →
      Step s (.store c) ((s.setSlot (.free (some m))).setCaller c .idle)
  | vacant {s c} : s.callers c = .stopping → s.slot = .free none →
      Step s (.pass c) (s.setCaller c .idle)
  | take {s c m} : s.callers c = .stopping → s.slot = .free (some m) →
      Step s (.take c) ((s.setSlot (.free none)).setCaller c (.taken m))
  | lower {s c m} : s.callers c = .taken m →
      Step s (.lower c) ((s.setFlag false).setCaller c (.joining m))
  | join {s c m} : s.callers c = .joining m → s.monitors m = .ended →
      Step s (.join c) (s.setCaller c .idle)
  | look {s m} : s.monitors m = .looking →
      Step s (.look m) (s.setMonitor m (if s.isRunning then .resting else .ended))
  | stir {s m} : s.monitors m = .resting →
      Step s (.stir m) (s.setMonitor m (if s.isRunning then .scanning else .ended))
  | scan {s m} : s.monitors m = .scanning → Step s (.scan m) (s.setMonitor m .looking)

/-- What an enforcer can come to. The acts stand newest first. -/
inductive Run (s : Watch) : List Act → Watch → Prop
  | nil : Run s [] s
  | step {history s' a s''} : Run s history s' → Step s' a s'' → Run s (a :: history) s''

/-- The stops that have taken a handle and have the flag to lower yet. The acts stand newest
first. -/
def pendingStops : List Act → List CallerId
  | [] => []
  | .take c :: history => c :: pendingStops history
  | .lower c :: history => (pendingStops history).erase c
  | _ :: history => pendingStops history

/-- Whether the flag was last raised before a stop of an earlier monitor came to lower it. -/
def overtaken : List Act → Bool
  | [] => false
  | .raise _ :: history => !(pendingStops history).isEmpty
  | _ :: history => overtaken history

variable (s : Watch) {m n : MonitorId} {c d : CallerId}

@[simp] theorem slot_setFlag {b : Bool} : (s.setFlag b).slot = s.slot := rfl

@[simp] theorem isRunning_setFlag {b : Bool} : (s.setFlag b).isRunning = b := rfl

@[simp] theorem monitors_setFlag {b : Bool} : (s.setFlag b).monitors = s.monitors := rfl

@[simp] theorem callers_setFlag {b : Bool} : (s.setFlag b).callers = s.callers := rfl

@[simp] theorem slot_setSlot {x : Slot} : (s.setSlot x).slot = x := rfl

@[simp] theorem isRunning_setSlot {x : Slot} : (s.setSlot x).isRunning = s.isRunning := rfl

@[simp] theorem monitors_setSlot {x : Slot} : (s.setSlot x).monitors = s.monitors := rfl

@[simp] theorem callers_setSlot {x : Slot} : (s.setSlot x).callers = s.callers := rfl

@[simp] theorem slot_setMonitor {p : Monitor} : (s.setMonitor m p).slot = s.slot := rfl

@[simp] theorem isRunning_setMonitor {p : Monitor} :
    (s.setMonitor m p).isRunning = s.isRunning := rfl

@[simp] theorem callers_setMonitor {p : Monitor} : (s.setMonitor m p).callers = s.callers := rfl

@[simp] theorem monitors_setMonitor_self {p : Monitor} : (s.setMonitor m p).monitors m = p :=
  if_pos rfl

@[simp] theorem monitors_setMonitor_of_ne {p : Monitor} (h : n ≠ m) :
    (s.setMonitor m p).monitors n = s.monitors n := if_neg h

@[simp] theorem enforcer_setCaller {p : Caller} : (s.setCaller c p).enforcer = s.enforcer := rfl

@[simp] theorem slot_setCaller {p : Caller} : (s.setCaller c p).slot = s.slot := rfl

@[simp] theorem isRunning_setCaller {p : Caller} : (s.setCaller c p).isRunning = s.isRunning := rfl

@[simp] theorem monitors_setCaller {p : Caller} : (s.setCaller c p).monitors = s.monitors := rfl

@[simp] theorem callers_setCaller_self {p : Caller} : (s.setCaller c p).callers c = p := if_pos rfl

@[simp] theorem callers_setCaller_of_ne {p : Caller} (h : d ≠ c) :
    (s.setCaller c p).callers d = s.callers d := if_neg h

end Watch

end Grok.Timeout
