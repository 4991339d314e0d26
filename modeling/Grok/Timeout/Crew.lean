import Grok.Timeout.Session
/-!
Crews: any number of workers that share any number of enforcers, and the executors that evaluate
their jobs. Whatever is done under one lock is one act, and the acts of workers, executors and
monitors come in any order. A session is a crew of one whose acts come in a fixed order.
-/
namespace Grok.Timeout

abbrev EnforcerId := Nat

abbrev ExecutorId := Nat

structure Job where
  worker : WorkerId
  id : JobId
  matcher : Matcher
  text : String

inductive Executor where
  | absent
  /-- No job is queued any more once the queue is closed. -/
  | live (queue : List Job) (current : Option Job) (isOpen : Bool)
  | gone

namespace Executor

def jobs : Executor → List Job
  | .live queue current _ => current.toList ++ queue
  | .absent | .gone => []

def enqueue (j : Job) : Executor → Executor
  | .live queue current isOpen => .live (queue ++ [j]) current isOpen
  | x => x

def close : Executor → Executor
  | .live queue current _ => .live queue current false
  | x => x

end Executor

/-- What a worker asks of an enforcer. -/
structure Call where
  enforcer : EnforcerId
  matcher : Matcher
  text : String
  deadline : Deadline

/-- The outcome that a call has without a bound. -/
def Call.inline (execute : Matcher → String → JobResult) (c : Call) : MatchOutcome :=
  .ofResult (execute c.matcher c.text)

/-- A call that runs in front of its deadline, as the job of some number. -/
structure Stint where
  call : Call
  started : Instant
  expires : Instant
  job : JobId

def Stint.order (t : Stint) (w : WorkerId) : Job := ⟨w, t.job, t.call.matcher, t.call.text⟩

/-- What a stint comes to, unless it could not get an executor. -/
abbrev StintResult := Except Error (Wake JobResult)

/-- How far a worker is in a stint, named for what it does next. -/
inductive Stage where
  | clear
  | announce
  | equip
  | register (x : ExecutorId)
  | submit (x : ExecutorId)
  | wait (asleep : Bool)
  | leave (r : StintResult)
  /-- The entry was gone, so that there is an interrupt to clear. -/
  | unsignal (r : StintResult)
  | part (r : StintResult)

inductive Phase where
  | idle
  | called (c : Call)
  /-- The deadline has not passed. Whether a monitor runs is still to be seen. -/
  | inTime (c : Call) (started expires : Instant)
  | bounded (t : Stint) (stage : Stage)
  | returned (t : Stint) (r : StintResult)
  /-- The call is over without a stint. -/
  | settled (c : Call) (o : MatchOutcome)

def Phase.call? : Phase → Option Call
  | .idle => none
  | .called c | .inTime c _ _ | .settled c _ => some c
  | .bounded t _ | .returned t _ => some t.call

def Phase.isBounded : Phase → Bool
  | .bounded .. => true
  | .idle | .called _ | .inTime .. | .returned .. | .settled .. => false

def Phase.stint? : Phase → Option Stint
  | .bounded t _ | .returned t _ => some t
  | .idle | .called _ | .inTime .. | .settled .. => none

/-- Phases that differ in nothing but whether the worker sleeps. -/
inductive Phase.Alike : Phase → Phase → Prop
  | refl (p : Phase) : Alike p p
  | wait {t : Stint} {asleep asleep' : Bool} :
      Alike (.bounded t (.wait asleep)) (.bounded t (.wait asleep'))

def Phase.result? : Phase → Option StintResult
  | .bounded _ (.leave r) | .bounded _ (.unsignal r) | .bounded _ (.part r)
  | .returned _ r => some r
  | _ => none

/-- A worker, with the executor that it keeps for its next job. -/
structure Member where
  mailbox : Mailbox JobResult
  executor : Option ExecutorId
  lastJob : JobId
  phase : Phase

namespace Member

def new : Member := ⟨.empty, none, 0, .idle⟩

def go (m : Member) (p : Phase) : Member := { m with phase := p }

/-- A worker that sleeps looks into its mailbox again. -/
def rouse (m : Member) : Member :=
  match m.phase with
  | .bounded t (.wait _) => m.go (.bounded t (.wait false))
  | _ => m

def interrupt (m : Member) : Member := { m with mailbox := m.mailbox.interrupt }

/-- A result comes in. Only the awaited one is taken. -/
def receive (m : Member) (job : JobId) (r : JobResult) : Member :=
  if m.mailbox.awaited = job then { m with mailbox := m.mailbox.deliver job r }.rouse else m

@[simp] theorem phase_go (m : Member) (p : Phase) : (m.go p).phase = p := rfl

@[simp] theorem mailbox_go (m : Member) (p : Phase) : (m.go p).mailbox = m.mailbox := rfl

@[simp] theorem executor_go (m : Member) (p : Phase) : (m.go p).executor = m.executor := rfl

@[simp] theorem lastJob_go (m : Member) (p : Phase) : (m.go p).lastJob = m.lastJob := rfl

theorem alike_rouse (m : Member) : m.rouse.phase.Alike m.phase := by
  unfold rouse
  split
  · next hp =>
    rw [hp]
    exact .wait
  · exact .refl _

theorem alike_receive (m : Member) (job : JobId) (r : JobResult) :
    (m.receive job r).phase.Alike m.phase := by
  unfold receive
  split
  · exact alike_rouse _
  · exact .refl _

@[simp] theorem mailbox_rouse (m : Member) : m.rouse.mailbox = m.mailbox := by
  unfold rouse
  split <;> rfl

@[simp] theorem executor_rouse (m : Member) : m.rouse.executor = m.executor := by
  unfold rouse
  split <;> rfl

@[simp] theorem lastJob_rouse (m : Member) : m.rouse.lastJob = m.lastJob := by
  unfold rouse
  split <;> rfl

@[simp] theorem executor_receive (m : Member) (job : JobId) (r : JobResult) :
    (m.receive job r).executor = m.executor := by
  unfold receive
  split <;> simp

end Member

/-- A scan of a ledger, which holds the ledger until it is through. -/
structure Scan where
  instant : Instant
  /-- The worker that has an interrupt and is to be woken for it. -/
  signalling : Option WorkerId

structure Crew where
  now : Instant
  enforcers : EnforcerId → Enforcer
  scans : EnforcerId → Option Scan
  members : WorkerId → Member
  executors : ExecutorId → Executor

/-- What is done. Worker `w` waits until `wake`, and is back with an outcome at `answer`. -/
inductive Act where
  | tick (t : Instant)
  | start (e : EnforcerId)
  | stop (e : EnforcerId)
  | scan (e : EnforcerId) (t : Instant)
  | strike (e : EnforcerId) (w : WorkerId)
  | signal (e : EnforcerId)
  | scanned (e : EnforcerId)
  | take (x : ExecutorId)
  | deliver (x : ExecutorId)
  | exit (x : ExecutorId)
  | crash (x : ExecutorId)
  | call (w : WorkerId) (c : Call)
  | work (w : WorkerId)
  /-- No executor can be had. -/
  | lack (w : WorkerId)
  | wake (w : WorkerId) (k : Wake JobResult)
  | answer (w : WorkerId) (o : MatchOutcome)

/-- What threads can fail to do: an executor ends with its jobs undone, or cannot be had. -/
def Act.isFault : Act → Bool
  | .crash _ | .lack _ => true
  | _ => false

def Act.worker? : Act → Option WorkerId
  | .call w _ | .work w | .lack w | .wake w _ | .answer w _ => some w
  | _ => none

/-- What a move of a worker changes besides the worker. -/
inductive Effect where
  | none
  | hire (x : ExecutorId)
  | dismiss (x : Option ExecutorId)
  | post (x : ExecutorId) (j : Job)
  | register (e : EnforcerId) (expires : Instant)
  | erase (e : EnforcerId)
  | abandon (e : EnforcerId)

namespace Crew

def new (timeouts intervals : EnforcerId → Duration) (now : Instant) : Crew where
  now := now
  enforcers e := (Enforcer.new (timeouts e)).withInterval (intervals e)
  scans _ := none
  members _ := .new
  executors _ := .absent

def ledger (s : Crew) (e : EnforcerId) : Ledger := (s.enforcers e).ledger

def Listed (s : Crew) (w : WorkerId) (e : EnforcerId) (expires : Instant) : Prop :=
  (w, expires) ∈ (s.ledger e).entries

/-- Whether some executor has a job of a worker and has not delivered its result. -/
def Owed (s : Crew) (w : WorkerId) (j : Job) : Prop :=
  j.worker = w ∧ ∃ x, j ∈ (s.executors x).jobs

def setMember (s : Crew) (w : WorkerId) (m : Member) : Crew :=
  { s with members := fun v => if v = w then m else s.members v }

def setEnforcer (s : Crew) (e : EnforcerId) (f : Enforcer) : Crew :=
  { s with enforcers := fun d => if d = e then f else s.enforcers d }

def setLedger (s : Crew) (e : EnforcerId) (l : Ledger) : Crew :=
  s.setEnforcer e { s.enforcers e with ledger := l }

def setScan (s : Crew) (e : EnforcerId) (c : Option Scan) : Crew :=
  { s with scans := fun d => if d = e then c else s.scans d }

def setExecutor (s : Crew) (x : ExecutorId) (y : Executor) : Crew :=
  { s with executors := fun z => if z = x then y else s.executors z }

def apply (s : Crew) (w : WorkerId) : Effect → Crew
  | .none | .dismiss none => s
  | .hire x => s.setExecutor x (.live [] none true)
  | .dismiss (some x) => s.setExecutor x (s.executors x).close
  | .post x j => s.setExecutor x ((s.executors x).enqueue j)
  | .register e expires => s.setLedger e ((s.ledger e).register w expires)
  | .erase e => s.setLedger e ((s.ledger e).erase w)
  | .abandon e => s.setEnforcer e (s.enforcers e).countAbandoned

variable (s : Crew) {w v : WorkerId} {m : Member} {e d : EnforcerId} {x z : ExecutorId}

@[simp] theorem members_setMember_self : (s.setMember w m).members w = m := if_pos rfl

@[simp] theorem members_setMember_of_ne (h : v ≠ w) :
    (s.setMember w m).members v = s.members v := if_neg h

@[simp] theorem setMember_setMember {n : Member} :
    (s.setMember w m).setMember w n = s.setMember w n := by
  have h (v : WorkerId) : ((s.setMember w m).setMember w n).members v =
      (s.setMember w n).members v := by
    by_cases hv : v = w
    · subst hv
      simp
    · simp [hv]
  simp only [setMember] at h ⊢
  congr 1
  funext v
  exact h v

@[simp] theorem enforcers_setMember : (s.setMember w m).enforcers = s.enforcers := rfl

@[simp] theorem scans_setMember : (s.setMember w m).scans = s.scans := rfl

@[simp] theorem now_setMember : (s.setMember w m).now = s.now := rfl

@[simp] theorem executors_setMember : (s.setMember w m).executors = s.executors := rfl

@[simp] theorem listed_setMember : (s.setMember w m).Listed = s.Listed := rfl

@[simp] theorem members_setEnforcer {f : Enforcer} : (s.setEnforcer e f).members = s.members := rfl

@[simp] theorem members_setLedger {l : Ledger} : (s.setLedger e l).members = s.members := rfl

@[simp] theorem executors_setLedger {l : Ledger} : (s.setLedger e l).executors = s.executors := rfl

@[simp] theorem members_setExecutor {y : Executor} : (s.setExecutor x y).members = s.members := rfl

@[simp] theorem scans_setScan_self {c : Option Scan} : (s.setScan e c).scans e = c := if_pos rfl

@[simp] theorem scans_setScan_of_ne {c : Option Scan} (h : d ≠ e) :
    (s.setScan e c).scans d = s.scans d := if_neg h

@[simp] theorem members_setScan {c : Option Scan} : (s.setScan e c).members = s.members := rfl

@[simp] theorem listed_setScan {c : Option Scan} : (s.setScan e c).Listed = s.Listed := rfl

@[simp] theorem enforcers_setExecutor {y : Executor} :
    (s.setExecutor x y).enforcers = s.enforcers := rfl

@[simp] theorem listed_setExecutor {y : Executor} : (s.setExecutor x y).Listed = s.Listed := rfl

@[simp] theorem executors_setExecutor_self {y : Executor} :
    (s.setExecutor x y).executors x = y := if_pos rfl

@[simp] theorem executors_setExecutor_of_ne {y : Executor} (h : z ≠ x) :
    (s.setExecutor x y).executors z = s.executors z := if_neg h

@[simp] theorem enforcers_setEnforcer_self {f : Enforcer} :
    (s.setEnforcer e f).enforcers e = f := if_pos rfl

@[simp] theorem enforcers_setEnforcer_of_ne {f : Enforcer} (h : d ≠ e) :
    (s.setEnforcer e f).enforcers d = s.enforcers d := if_neg h

@[simp] theorem ledger_setLedger_self {l : Ledger} : (s.setLedger e l).ledger e = l := by
  simp [ledger, setLedger]

@[simp] theorem ledger_setLedger_of_ne {l : Ledger} (h : d ≠ e) :
    (s.setLedger e l).ledger d = s.ledger d := by
  simp [ledger, setLedger, h]

theorem setEnforcer_congr {α : Type} (g : Enforcer → α) {f : Enforcer}
    (h : g f = g (s.enforcers e)) (d : EnforcerId) :
    g ((s.setEnforcer e f).enforcers d) = g (s.enforcers d) := by
  by_cases hd : d = e
  · subst hd
    rw [enforcers_setEnforcer_self, h]
  · rw [enforcers_setEnforcer_of_ne _ hd]

theorem ledger_setEnforcer {f : Enforcer} (h : f.ledger = (s.enforcers e).ledger)
    (d : EnforcerId) : (s.setEnforcer e f).ledger d = s.ledger d :=
  s.setEnforcer_congr Enforcer.ledger h d

theorem listed_setEnforcer {f : Enforcer} (h : f.ledger = (s.enforcers e).ledger) {t : Instant} :
    (s.setEnforcer e f).Listed v d t ↔ s.Listed v d t := by
  rw [Listed, ledger_setEnforcer s h, Listed]

@[simp] theorem members_apply (f : Effect) : (s.apply w f).members = s.members := by
  cases f with
  | dismiss x => cases x <;> rfl
  | _ => rfl

@[simp] theorem scans_apply (f : Effect) : (s.apply w f).scans = s.scans := by
  cases f with
  | dismiss x => cases x <;> rfl
  | _ => rfl

@[simp] theorem now_apply (f : Effect) : (s.apply w f).now = s.now := by
  cases f with
  | dismiss x => cases x <;> rfl
  | _ => rfl

theorem listed_setLedger {l : Ledger} {t : Instant} :
    (s.setLedger e l).Listed v d t ↔
      if d = e then (v, t) ∈ l.entries else s.Listed v d t := by
  by_cases hd : d = e
  · subst hd
    simp [Listed]
  · simp [Listed, hd]

theorem listed_apply_of_ne (h : v ≠ w) (f : Effect) : (s.apply w f).Listed v = s.Listed v := by
  funext d t
  cases f with
  | register e expires =>
    by_cases hd : d = e <;> simp [apply, Ledger.mem_register, hd, h, Listed]
  | erase e => by_cases hd : d = e <;> simp [apply, Ledger.mem_erase, hd, h, Listed]
  | abandon e => exact propext (listed_setEnforcer s (Enforcer.ledger_countAbandoned _))
  | dismiss x => cases x <;> rfl
  | none | hire x | post x j => rfl

theorem listed_apply_self (f : Effect) {t : Instant} :
    (s.apply w f).Listed w d t ↔
      match f with
      | .register e expires => if d = e then t = expires else s.Listed w d t
      | .erase e => d ≠ e ∧ s.Listed w d t
      | _ => s.Listed w d t := by
  cases f with
  | register e expires =>
    by_cases hd : d = e <;> simp [apply, listed_setLedger, Ledger.mem_register, hd]
  | erase e => by_cases hd : d = e <;> simp [apply, listed_setLedger, Ledger.mem_erase, hd]
  | abandon e => exact listed_setEnforcer s (Enforcer.ledger_countAbandoned _)
  | dismiss x => cases x <;> rfl
  | none | hire x | post x j => rfl

end Crew

def executorTerminated : Error := .executorUnavailable "executor thread terminated"

variable (execute : Matcher → String → JobResult)

/-- The moves of a worker, in the order of a call. -/
inductive Move (s : Crew) (w : WorkerId) : Act → Member → Effect → Prop
  | call : (s.members w).phase = .idle →
      Move s w (.call w c) ((s.members w).go (.called c)) .none
  | unbounded : (s.members w).phase = .called c → c.deadline.expires? = none →
      Move s w (.work w) ((s.members w).go (.settled c (c.inline execute))) .none
  | late : (s.members w).phase = .called c → c.deadline.expires? = some expires →
      expires ≤ s.now → Move s w (.work w) ((s.members w).go (.settled c (.timedOut .zero))) .none
  | early : (s.members w).phase = .called c → c.deadline.expires? = some expires →
      s.now < expires → Move s w (.work w) ((s.members w).go (.inTime c s.now expires)) .none
  | unmonitored : (s.members w).phase = .inTime c started expires →
      (s.enforcers c.enforcer).isRunning = false →
      Move s w (.work w) ((s.members w).go (.settled c (c.inline execute))) .none
  | enlist : (s.members w).phase = .inTime c started expires →
      (s.enforcers c.enforcer).isRunning = true →
      Move s w (.work w)
        { s.members w with
          lastJob := (s.members w).lastJob + 1
          phase := .bounded ⟨c, started, expires, (s.members w).lastJob + 1⟩ .clear } .none
  | clear : (s.members w).phase = .bounded t .clear →
      Move s w (.work w)
        { s.members w with
          mailbox := (s.members w).mailbox.clearInterrupt
          phase := .bounded t .announce } .none
  | announce : (s.members w).phase = .bounded t .announce →
      Move s w (.work w)
        { s.members w with
          mailbox := (s.members w).mailbox.expect t.job
          phase := .bounded t .equip } .none
  | reuse : (s.members w).phase = .bounded t .equip → (s.members w).executor = some x →
      Move s w (.work w)
        { s.members w with executor := none, phase := .bounded t (.register x) } .none
  | hire : (s.members w).phase = .bounded t .equip → (s.members w).executor = none →
      s.executors x = .absent →
      Move s w (.work w) ((s.members w).go (.bounded t (.register x))) (.hire x)
  | lack : (s.members w).phase = .bounded t .equip → (s.members w).executor = none →
      Move s w (.lack w)
        ((s.members w).go (.returned t (.error (.executorUnavailable detail)))) .none
  | register : (s.members w).phase = .bounded t (.register x) → s.scans t.call.enforcer = none →
      Move s w (.work w) ((s.members w).go (.bounded t (.submit x)))
        (.register t.call.enforcer t.expires)
  | submit : (s.members w).phase = .bounded t (.submit x) →
      s.executors x = .live queue current isOpen →
      Move s w (.work w)
        { s.members w with executor := some x, phase := .bounded t (.wait false) }
        (.post x (t.order w))
  | refuse : (s.members w).phase = .bounded t (.submit x) → s.executors x = .gone →
      Move s w (.work w) ((s.members w).go (.bounded t (.leave (.error executorTerminated)))) .none
  | sleep : (s.members w).phase = .bounded t (.wait false) →
      (s.members w).mailbox.collect? = none →
      Move s w (.work w) ((s.members w).go (.bounded t (.wait true))) .none
  | stir : (s.members w).phase = .bounded t (.wait true) →
      Move s w (.work w) ((s.members w).go (.bounded t (.wait false))) .none
  | wake : (s.members w).phase = .bounded t (.wait false) →
      (s.members w).mailbox.collect? = some (k, mailbox) →
      Move s w (.wake w k)
        { s.members w with mailbox := mailbox, phase := .bounded t (.leave (.ok k)) } .none
  | leave : (s.members w).phase = .bounded t (.leave r) → s.scans t.call.enforcer = none →
      (s.ledger t.call.enforcer).contains w = true →
      Move s w (.work w) ((s.members w).go (.bounded t (.part r))) (.erase t.call.enforcer)
  | miss : (s.members w).phase = .bounded t (.leave r) → s.scans t.call.enforcer = none →
      (s.ledger t.call.enforcer).contains w = false →
      Move s w (.work w) ((s.members w).go (.bounded t (.unsignal r))) .none
  | unsignal : (s.members w).phase = .bounded t (.unsignal r) →
      Move s w (.work w)
        { s.members w with
          mailbox := (s.members w).mailbox.clearInterrupt
          phase := .bounded t (.part r) } .none
  | keep : (s.members w).phase = .bounded t (.part r) → r ≠ .ok .interrupted →
      Move s w (.work w) ((s.members w).go (.returned t r)) .none
  | drop : (s.members w).phase = .bounded t (.part (.ok .interrupted)) →
      Move s w (.work w)
        { s.members w with executor := none, phase := .returned t (.ok .interrupted) }
        (.dismiss (s.members w).executor)
  | settle : (s.members w).phase = .settled c o →
      Move s w (.answer w o) ((s.members w).go .idle) .none
  | finish : (s.members w).phase = .returned t (.ok (.finished r)) →
      Move s w (.answer w (.ofResult r)) ((s.members w).go .idle) .none
  | abandon : (s.members w).phase = .returned t (.ok .interrupted) →
      Move s w (.answer w (.timedOut ⟨(s.now - t.started).toNat⟩)) ((s.members w).go .idle)
        (.abandon t.call.enforcer)
  | fail : (s.members w).phase = .returned t (.error e) →
      Move s w (.answer w .notMatched) ((s.members w).go .idle) .none

inductive Step : Crew → Act → Crew → Prop
  | move {s w a m f} : Move execute s w a m f → Step s a ((s.apply w f).setMember w m)
  | tick {s t} : s.now ≤ t → Step s (.tick t) { s with now := t }
  | start {s e} : Step s (.start e) (s.setEnforcer e (s.enforcers e).start.1)
  | stop {s e} : Step s (.stop e) (s.setEnforcer e (s.enforcers e).stop.1)
  | scan {s e t} : s.scans e = none → t ≤ s.now → Step s (.scan e t) (s.setScan e (some ⟨t, none⟩))
  | strike {s e t w expires} : s.scans e = some ⟨t, none⟩ → s.Listed w e expires → expires ≤ t →
      Step s (.strike e w)
        (((s.setLedger e ((s.ledger e).erase w)).setScan e (some ⟨t, some w⟩)).setMember w
          (s.members w).interrupt)
  | signal {s e t w} : s.scans e = some ⟨t, some w⟩ →
      Step s (.signal e) ((s.setScan e (some ⟨t, none⟩)).setMember w (s.members w).rouse)
  | scanned {s e t} : s.scans e = some ⟨t, none⟩ → (s.ledger e).overdue t = [] →
      Step s (.scanned e) (s.setScan e none)
  | take {s x j queue isOpen} : s.executors x = .live (j :: queue) none isOpen →
      Step s (.take x) (s.setExecutor x (.live queue (some j) isOpen))
  | deliver {s x queue j isOpen} : s.executors x = .live queue (some j) isOpen →
      Step s (.deliver x)
        ((s.setExecutor x (.live queue none isOpen)).setMember j.worker
          ((s.members j.worker).receive j.id (execute j.matcher j.text)))
  | exit {s x} : s.executors x = .live [] none false → Step s (.exit x) (s.setExecutor x .gone)
  | crash {s x queue current isOpen} : s.executors x = .live queue current isOpen →
      Step s (.crash x) (s.setExecutor x .gone)

variable {execute}

theorem Move.worker? {s : Crew} {w : WorkerId} {a : Act} {m : Member} {f : Effect}
    (hm : Move execute s w a m f) : a.worker? = some w := by
  cases hm <;> rfl

theorem Step.now_le {s s' : Crew} {a : Act} (hs : Step execute s a s') : s.now ≤ s'.now := by
  cases hs with
  | tick ht => exact ht
  | move => simp
  | start | stop | scan | strike | signal | scanned | take | deliver | exit | crash =>
    exact Int.le_refl _

/-- What a step means for one worker: a move of its own, an interrupt, a signal, a result, or
nothing. -/
theorem Step.member {s s' : Crew} {a : Act} (hs : Step execute s a s') (w : WorkerId) :
    (∃ m f, Move execute s w a m f ∧ s' = (s.apply w f).setMember w m) ∨
    (a.worker? ≠ some w ∧
      (s'.members w = s.members w ∨ s'.members w = (s.members w).interrupt ∨
        s'.members w = (s.members w).rouse ∨
        ∃ x queue j isOpen, a = .deliver x ∧ s.executors x = .live queue (some j) isOpen ∧
          j.worker = w ∧
          s'.members w = (s.members w).receive j.id (execute j.matcher j.text))) := by
  cases hs with
  | @move v _ m f hm =>
    by_cases hw : w = v
    · subst hw
      exact .inl ⟨m, f, hm, rfl⟩
    · exact .inr ⟨by rw [hm.worker?]; simpa using Ne.symm hw, .inl (by simp [hw])⟩
  | @strike e u v expires =>
    refine .inr ⟨nofun, ?_⟩
    by_cases hw : w = v
    · subst hw
      exact .inr (.inl (by simp))
    · exact .inl (by simp [hw])
  | @signal e u v =>
    refine .inr ⟨nofun, ?_⟩
    by_cases hw : w = v
    · subst hw
      exact .inr (.inr (.inl (by simp)))
    · exact .inl (by simp [hw])
  | @deliver x queue j isOpen hx =>
    refine .inr ⟨nofun, ?_⟩
    by_cases hw : w = j.worker
    · subst hw
      exact .inr (.inr (.inr ⟨x, queue, j, isOpen, rfl, hx, rfl, by simp⟩))
    · exact .inl (by simp [hw])
  | tick | start | stop | scan | scanned | take | exit | crash => exact .inr ⟨nofun, .inl rfl⟩

theorem Step.alike {s s' : Crew} {a : Act} (hs : Step execute s a s') (w : WorkerId) :
    (∃ m f, Move execute s w a m f ∧ s' = (s.apply w f).setMember w m) ∨
    (a.worker? ≠ some w ∧ (s'.members w).executor = (s.members w).executor ∧
      (s'.members w).phase.Alike (s.members w).phase) := by
  refine (hs.member w).imp id fun ⟨hw, he⟩ => ⟨hw, ?_⟩
  obtain he | he | he | ⟨x, queue, j, isOpen, -, -, -, he⟩ := he
  · rw [he]
    exact ⟨rfl, .refl _⟩
  · rw [he]
    exact ⟨rfl, .refl _⟩
  · rw [he]
    exact ⟨by simp, Member.alike_rouse _⟩
  · rw [he]
    exact ⟨by simp, Member.alike_receive ..⟩

variable (execute)

/-- What a crew can come to. The acts stand newest first. -/
inductive Run (s : Crew) : List Act → Crew → Prop
  | nil : Run s [] s
  | step : Run s history s' → Step execute s' a s'' → Run s (a :: history) s''

theorem Run.trans {execute : Matcher → String → JobResult} {s s' s'' : Crew}
    {early late : List Act} (h : Run execute s early s') (h' : Run execute s' late s'') :
    Run execute s (late ++ early) s'' := by
  induction h' with
  | nil => exact h
  | step _ hs ih => exact ih.step hs

end Grok.Timeout
