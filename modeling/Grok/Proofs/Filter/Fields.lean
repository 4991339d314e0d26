import Mathlib
import Grok.Proofs.Filter.Footprint
/-!
What captures do to one field. A field that is apart from all others that are captured changes with
its own captures only. Main statement: when the captures of a match are written, the field goes
through those of its captures that are kept, one after the other, and is replaced or joined by each.
-/
namespace Grok

namespace Capture

/-- The capture is written, given all captures of its field: it took part in the match or none of
them did, and it is not empty unless empty ones are kept. -/
def Kept (o : Options) (own : List Capture) (c : Capture) : Prop :=
  ¬ (c.value = none ∧ ∃ d ∈ own, d.value ≠ none) ∧ ¬ (c.isEmpty ∧ o.keepEmpty = false)

instance (o : Options) (own : List Capture) (c : Capture) : Decidable (c.Kept o own) :=
  inferInstanceAs (Decidable (¬ (_ ∧ _) ∧ ¬ (_ ∧ _)))

/-- What a field holds after a capture. A stored null counts as nothing, and a capture without a
value puts a null. -/
def change (o : Options) (name : String) (stored : Option Value) (c : Capture) : Option Value :=
  let v := c.value.getD .null
  if o.overwrites name then some v
  else
    match stored with
    | none | some .null => some v
    | some (.array vs) => some (.array (vs ++ [v]))
    | some w => some (.array [w, v])

end Capture

namespace Filter

open Event (keyPath Apart)

variable {o : Options} {name : String} {c : Capture} {cs : List Capture}

/-! ### One capture -/

theorem keeps_iff (hname : c.field = name) :
    keeps o cs c ↔ c.Kept o (cs.filter (·.field = name)) := by
  have hany : (cs.any fun d => d.field == c.field && d.value.isSome) ↔
      ∃ d ∈ cs.filter (·.field = name), d.value ≠ none := by
    simp [hname, Option.isSome_iff_ne_none, and_assoc]
  rw [Capture.Kept, ← hany, keeps]
  cases hvalue : c.value <;> cases hempty : c.isEmpty <;> simp

theorem get_write_self (h : keyPath c.field ≠ []) (e : Event) :
    (write o e c).get c.field = c.change o c.field (e.get c.field) := by
  dsimp only [write, Capture.change]
  split
  · exact Event.get_set_self h
  · rw [Event.merge, Event.get_set_self h, Event.getField]
    cases e.get c.field with
    | none => rfl
    | some w => cases w <;> rfl

theorem write_of_keyPath_eq_nil (h : keyPath c.field = []) (e : Event) : write o e c = e := by
  have hset (v : Value) : e.set c.field v = e := by
    rw [Event.set, h]
    rfl
  rw [write]
  split
  · exact hset _
  · exact hset _

/-- What is captured for another field leaves this one alone. -/
theorem get_write_of_ne (h : keyPath c.field = [] ∨ Apart (keyPath name) (keyPath c.field))
    (e : Event) : (write o e c).get name = e.get name := by
  obtain h | h := h
  · rw [write_of_keyPath_eq_nil h]
  · exact get_write_of_apart h

/-! ### All captures of a match -/

/-- In a sequence of captures, a field changes at its own ones. -/
theorem get_foldl_write (hname : keyPath name ≠ [])
    (hcs : ∀ c ∈ cs, c.field ≠ name →
      keyPath c.field = [] ∨ Apart (keyPath name) (keyPath c.field)) (e : Event) :
    (cs.foldl (write o) e).get name =
      (cs.filter (·.field = name)).foldl (Capture.change o name) (e.get name) := by
  induction cs generalizing e with
  | nil => rfl
  | cons c cs ih =>
    obtain ⟨hc, hcs⟩ := List.forall_mem_cons.1 hcs
    rw [List.foldl_cons, ih hcs]
    by_cases hfield : c.field = name
    · subst hfield
      rw [List.filter_cons_of_pos (by simp), List.foldl_cons, get_write_self hname]
    · rw [List.filter_cons_of_neg (by simpa using hfield), get_write_of_ne (hc hfield)]

/-- Where no other captured field leads to a field or further along it, what it holds after a match
comes from its own captures alone: those that are kept change it in order, beginning with what it
held before. -/
theorem get_applyCaptures (o : Options) (e : Event) (cs : List Capture) {name : String}
    (hname : keyPath name ≠ [])
    (hcs : ∀ c ∈ cs, c.field ≠ name →
      keyPath c.field = [] ∨ Apart (keyPath name) (keyPath c.field)) :
    (applyCaptures o e cs).get name =
      ((cs.filter (·.field = name)).filter (Capture.Kept o (cs.filter (·.field = name)))).foldl
        (Capture.change o name) (e.get name) := by
  have hkept : (cs.filter (keeps o cs)).filter (·.field = name) =
      (cs.filter (·.field = name)).filter (Capture.Kept o (cs.filter (·.field = name))) := by
    rw [List.filter_filter, List.filter_filter]
    refine List.filter_congr fun c _ => ?_
    by_cases hfield : c.field = name
    · rw [Bool.eq_iff_iff]
      simp [hfield, keeps_iff hfield]
    · simp [hfield]
  rw [applyCaptures, get_foldl_write hname, hkept]
  exact fun c hc => hcs c (List.mem_of_mem_filter hc)

/-- A group without part gives way, an empty text is kept, and captures next to the field and of no
field at all stand between. -/
theorem get_applyCaptures_status :
    let o : Options := { Options.initial with keepEmpty := true }
    let e : Event := ⟨[("http", .object [("method", .string "GET"), ("status", .int 1)])]⟩
    let cs : List Capture := [⟨"[http][status]", none⟩, ⟨"[http][method]", some (.string "PUT")⟩,
      ⟨"[http][status]", some (.int 2)⟩, ⟨"[][]", some (.string "x")⟩,
      ⟨"[http][status]", some (.string "")⟩]
    (applyCaptures o e cs).get "[http][status]" =
      some (.array [.int 1, .int 2, .string ""]) := by
  intro o e cs
  have hcs : ∀ c ∈ cs, c.field ≠ "[http][status]" →
      keyPath c.field = [] ∨ Apart (keyPath "[http][status]") (keyPath c.field) := by
    subst o e cs
    decide
  rw [get_applyCaptures o e cs (by decide) hcs]
  subst o e cs
  rfl

end Filter

end Grok
