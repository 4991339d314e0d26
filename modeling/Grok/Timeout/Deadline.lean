import Grok.Error
import Grok.Timeout.Duration
/-!
Deadlines, and which attempts share one.
-/
namespace Grok.Timeout

/-- The unit of work that a budget is for. -/
inductive Scope where
  /-- Every attempt has a budget of its own. -/
  | pattern
  /-- All attempts on a field share one. -/
  | field
  /-- All attempts on a record share one. -/
  | event
  deriving DecidableEq, Repr

namespace Scope

def isPooled : Scope → Bool
  | .pattern => false
  | .field | .event => true

def name : Scope → String
  | .pattern => "pattern"
  | .field => "field"
  | .event => "event"

def ofName? : String → Option Scope
  | "pattern" => some .pattern
  | "field" => some .field
  | "event" => some .event
  | _ => none

def ofName (text : String) : Except Error Scope :=
  match ofName? text with
  | some s => .ok s
  | none => .error (.config (.unknownScope text))

@[simp] theorem ofName?_name (s : Scope) : ofName? s.name = some s := by cases s <;> rfl

end Scope

inductive Deadline where
  | unbounded
  | at (started expires : Instant)
  deriving DecidableEq, Repr

namespace Deadline

/-- A deadline one timeout after `started`. A missing or empty timeout sets no bound. -/
def startingAt (started : Instant) : Option Duration → Deadline
  | some d => if d.isZero then .unbounded else .at started (started + d.nanos)
  | none => .unbounded

def isUnbounded : Deadline → Bool
  | .unbounded => true
  | .at .. => false

def expires? : Deadline → Option Instant
  | .unbounded => none
  | .at _ e => some e

/-- The time left, which is nothing once the deadline has passed. -/
def remaining (now : Instant) (d : Deadline) : Option Duration :=
  d.expires?.map fun e => ⟨(e - now).toNat⟩

def isExpired (now : Instant) (d : Deadline) : Bool :=
  d.expires?.any (· ≤ now)

end Deadline

end Grok.Timeout
