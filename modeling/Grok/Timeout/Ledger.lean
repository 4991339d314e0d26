import Grok.Timeout.Duration
/-!
The ledger of matches in flight: which workers wait, and until when. The monitor strikes out the
workers whose time has passed.
-/
namespace Grok.Timeout

abbrev WorkerId := Nat

structure Ledger where
  entries : List (WorkerId × Instant)
  deriving DecidableEq, Repr

namespace Ledger

def empty : Ledger := ⟨[]⟩

def size (l : Ledger) : Nat := l.entries.length

def expiry? (l : Ledger) (w : WorkerId) : Option Instant := l.entries.lookup w

def contains (l : Ledger) (w : WorkerId) : Bool := l.entries.any (·.1 == w)

def erase (l : Ledger) (w : WorkerId) : Ledger := ⟨l.entries.filter (·.1 != w)⟩

/-- Enters a worker, in place of an earlier entry of its. -/
def register (l : Ledger) (w : WorkerId) (expires : Instant) : Ledger :=
  ⟨(w, expires) :: (l.erase w).entries⟩

/-- The workers whose time has passed. -/
def overdue (l : Ledger) (now : Instant) : List WorkerId :=
  (l.entries.filter (·.2 ≤ now)).map (·.1)

/-- Strikes out the workers whose time has passed. -/
def expire (l : Ledger) (now : Instant) : Ledger := ⟨l.entries.filter (now < ·.2)⟩

/-- Whether no worker has two entries. -/
def Distinct (l : Ledger) : Prop := (l.entries.map (·.1)).Nodup

theorem contains_iff {l : Ledger} {w : WorkerId} :
    l.contains w = true ↔ ∃ t, (w, t) ∈ l.entries := by
  simp [contains]

theorem contains_eq_false_iff {l : Ledger} {w : WorkerId} :
    l.contains w = false ↔ ∀ t, (w, t) ∉ l.entries := by
  rw [← Bool.not_eq_true, contains_iff, not_exists]

theorem mem_erase {l : Ledger} {w : WorkerId} {e : WorkerId × Instant} :
    e ∈ (l.erase w).entries ↔ e ∈ l.entries ∧ e.1 ≠ w := by
  simp [erase]

theorem mem_register {l : Ledger} {w : WorkerId} {t : Instant} {e : WorkerId × Instant} :
    e ∈ (l.register w t).entries ↔ e = (w, t) ∨ e ∈ l.entries ∧ e.1 ≠ w := by
  simp [register, mem_erase]

theorem distinct_erase {l : Ledger} (h : l.Distinct) (w : WorkerId) : (l.erase w).Distinct :=
  List.Nodup.sublist (List.filter_sublist.map _) h

theorem distinct_register {l : Ledger} (h : l.Distinct) (w : WorkerId) (t : Instant) :
    (l.register w t).Distinct := by
  refine List.nodup_cons.2 ⟨?_, distinct_erase h w⟩
  simp [erase]

theorem mem_overdue {l : Ledger} {now : Instant} {w : WorkerId} :
    w ∈ l.overdue now ↔ ∃ t, (w, t) ∈ l.entries ∧ t ≤ now := by
  simp [overdue]

theorem mem_expire {l : Ledger} {now : Instant} {e : WorkerId × Instant} :
    e ∈ (l.expire now).entries ↔ e ∈ l.entries ∧ now < e.2 := by
  simp [expire]

/-- A scan loses nobody: who is not overdue stays. -/
theorem size_expire (l : Ledger) (now : Instant) :
    (l.expire now).size + (l.overdue now).length = l.size := by
  obtain ⟨es⟩ := l
  induction es with
  | nil => rfl
  | cons e es ih =>
    have ih : (es.filter (now < ·.2)).length + (es.filter (·.2 ≤ now)).length = es.length := by
      simpa [size, expire, overdue] using ih
    by_cases h : now < e.2
    · have hn : ¬ e.2 ≤ now := Int.not_le.2 h
      simp only [size, expire, overdue, List.filter_cons, h, hn, decide_true, decide_false, if_true,
        List.length_map, List.length_cons]
      simp
      omega
    · have hn : e.2 ≤ now := Int.not_lt.1 h
      simp only [size, expire, overdue, List.filter_cons, h, hn, decide_true, decide_false, if_true,
        List.length_map, List.length_cons]
      simp
      omega

end Ledger

end Grok.Timeout
