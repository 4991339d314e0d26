/-!
Mailboxes. A worker that waits for a job looks into its mailbox, where the result of the job is
delivered and where it can be told to stop waiting.
-/
namespace Grok.Timeout

universe u

/-- Jobs of a worker are numbered in the order in which it submits them. -/
abbrev JobId := Nat

/-- Why a worker stops waiting. -/
inductive Wake (α : Type u) where
  | finished (result : α)
  | interrupted
  deriving DecidableEq, Repr

structure Mailbox (α : Type u) where
  interrupted : Bool
  /-- The job that the worker waits for, or waited for last. -/
  awaited : JobId
  result : Option α
  deriving DecidableEq, Repr

namespace Mailbox

variable {α : Type u}

def empty : Mailbox α := ⟨false, 0, none⟩

/-- Announces the next job. Results of other jobs are not taken from now on. -/
def expect (m : Mailbox α) (job : JobId) : Mailbox α := { m with awaited := job, result := none }

def deliver (m : Mailbox α) (job : JobId) (result : α) : Mailbox α :=
  if m.awaited = job then { m with result := some result } else m

def interrupt (m : Mailbox α) : Mailbox α := { m with interrupted := true }

def clearInterrupt (m : Mailbox α) : Mailbox α := { m with interrupted := false }

/-- What wakes the worker, if anything does. A result comes before an interrupt and is taken out. -/
def collect? (m : Mailbox α) : Option (Wake α × Mailbox α) :=
  match m.result with
  | some r => some (.finished r, { m with result := none })
  | none => if m.interrupted then some (.interrupted, m) else none

@[simp] theorem interrupted_expect (m : Mailbox α) (job : JobId) :
    (m.expect job).interrupted = m.interrupted := rfl

@[simp] theorem interrupted_interrupt (m : Mailbox α) : m.interrupt.interrupted = true := rfl

@[simp] theorem interrupted_clearInterrupt (m : Mailbox α) :
    m.clearInterrupt.interrupted = false := rfl

@[simp] theorem interrupted_deliver (m : Mailbox α) (job : JobId) (r : α) :
    (m.deliver job r).interrupted = m.interrupted := by
  unfold deliver
  split <;> rfl

@[simp] theorem awaited_deliver (m : Mailbox α) (job : JobId) (r : α) :
    (m.deliver job r).awaited = m.awaited := by
  unfold deliver
  split <;> rfl

theorem deliver_of_ne {m : Mailbox α} {job : JobId} (h : m.awaited ≠ job) (r : α) :
    m.deliver job r = m := by
  simp [deliver, h]

theorem collect?_deliver_expect (m : Mailbox α) (job : JobId) (r : α) :
    ((m.expect job).deliver job r).collect? =
      some (.finished r, { m with awaited := job, result := none }) := by
  simp [deliver, expect, collect?]

theorem collect?_eq_finished_iff {m n : Mailbox α} {r : α} :
    m.collect? = some (.finished r, n) ↔ m.result = some r ∧ n = { m with result := none } := by
  unfold collect?
  cases hr : m.result <;> cases m.interrupted <;> simp [eq_comm]

theorem collect?_eq_interrupted_iff {m n : Mailbox α} :
    m.collect? = some (.interrupted, n) ↔ m.result = none ∧ m.interrupted = true ∧ n = m := by
  unfold collect?
  cases hr : m.result <;> cases m.interrupted <;> simp [eq_comm]

theorem interrupted_of_collect? {m n : Mailbox α} {k : Wake α} (h : m.collect? = some (k, n)) :
    n.interrupted = m.interrupted := by
  cases k with
  | finished r => rw [(collect?_eq_finished_iff.1 h).2]
  | interrupted => rw [(collect?_eq_interrupted_iff.1 h).2.2]

theorem collect?_eq_none_iff (m : Mailbox α) :
    m.collect? = none ↔ m.result = none ∧ m.interrupted = false := by
  unfold collect?
  cases m.result <;> cases m.interrupted <;> simp

end Mailbox

end Grok.Timeout
