import Mathlib
import Grok.Filter
import Grok.Proofs.Event.Leaves
/-!
What becomes of the leaves of a record when captures are written into it. Main statement: without
fields to overwrite, the leaves of the captures that are kept are added, and the only leaves that
go are those that stood in the way of a capture.
-/
namespace Grok

namespace Capture

/-- The leaves of the value, if there is one. -/
def leaves (c : Capture) : Multiset Value := Value.leavesOf c.value

/-- What of a capture can be stored: nothing if the name of its field has no keys. -/
def storable (c : Capture) : Multiset Value :=
  if Event.keyPath c.field = [] then 0 else c.leaves

/-- What of a capture cannot be stored. -/
def keyless (c : Capture) : Multiset Value :=
  if Event.keyPath c.field = [] then c.leaves else 0

theorem leaves_eq (c : Capture) : c.leaves = c.storable + c.keyless := by
  rw [storable, keyless]
  split <;> simp

end Capture

namespace Filter

open Event (keyPath inTheWay Clear)

variable {o : Options} {e : Event} {c : Capture} {cs : List Capture}

/-- What goes while captures are written. -/
def displaced (o : Options) : Event → List Capture → Multiset Value
  | _, [] => 0
  | e, c :: cs => inTheWay e.fields (keyPath c.field) + displaced o (write o e c) cs

theorem leaves_write (h : o.overwrite = []) :
    (write o e c).leaves + inTheWay e.fields (keyPath c.field) = e.leaves + c.storable := by
  have hmerge : write o e c = e.merge c.field (c.value.getD .null) := by
    simp [write, Options.overwrites, h]
  have hleaves : (c.value.getD .null).leaves = c.leaves := by
    cases hc : c.value <;> simp [Capture.leaves, hc, Value.leaves]
  rw [hmerge, Capture.storable]
  split
  · next hkeys => rw [hkeys, Event.merge_of_keyless hkeys, inTheWay]
  · next hkeys => rw [Event.leaves_merge hkeys, hleaves]

theorem leaves_foldl_write (h : o.overwrite = []) (e : Event) (cs : List Capture) :
    (cs.foldl (write o) e).leaves + displaced o e cs =
      e.leaves + (cs.map Capture.storable).sum := by
  induction cs generalizing e with
  | nil => simp [displaced]
  | cons c cs ih =>
    simp only [List.foldl_cons, displaced, List.map_cons, List.sum_cons]
    calc
      (cs.foldl (write o) (write o e c)).leaves +
            (inTheWay e.fields (keyPath c.field) + displaced o (write o e c) cs) =
          (cs.foldl (write o) (write o e c)).leaves + displaced o (write o e c) cs +
            inTheWay e.fields (keyPath c.field) := by abel
      _ = (write o e c).leaves + inTheWay e.fields (keyPath c.field) +
            (cs.map Capture.storable).sum := by rw [ih, add_right_comm]
      _ = e.leaves + (c.storable + (cs.map Capture.storable).sum) := by
          rw [leaves_write h, add_assoc]

theorem displaced_eq_zero_iff : displaced o e cs = 0 ↔ ∀ before c after,
    cs = before ++ c :: after → Clear (before.foldl (write o) e).fields (keyPath c.field) := by
  induction cs generalizing e with
  | nil => simp [displaced]
  | cons c cs ih =>
    rw [displaced, add_eq_zero, Event.inTheWay_eq_zero_iff, ih]
    constructor
    · rintro ⟨hfirst, hrest⟩ before c' after hcs
      cases before with
      | nil =>
        obtain ⟨rfl, rfl⟩ := List.cons.inj hcs
        exact hfirst
      | cons d before =>
        obtain ⟨rfl, rfl⟩ := List.cons.inj hcs
        exact hrest before c' after rfl
    · intro h
      refine ⟨h [] c cs rfl, ?_⟩
      rintro before c' after rfl
      exact h (c :: before) c' after rfl

theorem sum_leaves_eq (cs : List Capture) : (cs.map Capture.leaves).sum =
    (cs.map Capture.storable).sum + (cs.map Capture.keyless).sum := by
  induction cs with
  | nil => rfl
  | cons c cs ih =>
    simp only [List.map_cons, List.sum_cons, ih, c.leaves_eq]
    abel

theorem sum_keyless_eq_zero_iff : (cs.map Capture.keyless).sum = 0 ↔
    ∀ c ∈ cs, keyPath c.field = [] → c.leaves = 0 := by
  induction cs with
  | nil => simp
  | cons c cs ih =>
    simp only [List.map_cons, List.sum_cons, add_eq_zero, ih, List.mem_cons, forall_eq_or_imp,
      Capture.keyless, ite_eq_right_iff]

/-- Without fields to overwrite, the leaves of the captures that are kept are added to those of
the record. What goes is only what stands in the way of a capture, and what cannot be stored is
only what belongs to a name without keys. So nothing is lost exactly if every way is clear when it
is taken, and every capture with leaves has a key. -/
theorem leaves_applyCaptures (h : o.overwrite = []) (e : Event) (cs : List Capture) :
    (applyCaptures o e cs).leaves + displaced o e (cs.filter (keeps o cs)) =
      e.leaves + ((cs.filter (keeps o cs)).map Capture.storable).sum ∧
    ((applyCaptures o e cs).leaves = e.leaves + ((cs.filter (keeps o cs)).map Capture.leaves).sum ↔
      (∀ before c after, cs.filter (keeps o cs) = before ++ c :: after →
        Clear (before.foldl (write o) e).fields (keyPath c.field)) ∧
      ∀ c ∈ cs.filter (keeps o cs), keyPath c.field = [] → c.leaves = 0) := by
  have hbalance := leaves_foldl_write h e (cs.filter (keeps o cs))
  refine ⟨hbalance, ?_⟩
  rw [← displaced_eq_zero_iff, ← sum_keyless_eq_zero_iff, sum_leaves_eq, ← add_assoc, ← hbalance,
    applyCaptures, add_assoc, left_eq_add, add_eq_zero]

/-- A capture that is added to a field, and one that goes into an object of its own. -/
theorem leaves_applyCaptures_words :
    let e : Event := ⟨[("word", .string "a")]⟩
    let cs : List Capture := [⟨"word", some (.string "b")⟩, ⟨"[http][status]", some (.int 200)⟩]
    (applyCaptures .initial e cs).leaves =
      e.leaves + ((cs.filter (keeps .initial cs)).map Capture.leaves).sum := by
  intro e cs
  have hclear : displaced .initial e (cs.filter (keeps .initial cs)) = 0 := by cbv
  have hword : keyPath "word" ≠ [] := by decide
  have hstatus : keyPath "[http][status]" ≠ [] := by decide
  refine (leaves_applyCaptures rfl e cs).2.2 ⟨displaced_eq_zero_iff.1 hclear, fun c hc h => ?_⟩
  obtain rfl | hc := List.mem_cons.1 (List.mem_of_mem_filter hc)
  · exact absurd h hword
  · obtain rfl := List.mem_singleton.1 hc
    exact absurd h hstatus

/-- A scalar that stands where an object is needed goes, and a name without keys stores nothing. -/
theorem exists_leaves_lost :
    let e : Event := ⟨[("http", .string "old")]⟩
    let status : Capture := ⟨"[http][status]", some (.string "ok")⟩
    let nowhere : Capture := ⟨"[][]", some (.string "ok")⟩
    ([status].filter (keeps .initial [status]) = [status] ∧
      applyCaptures .initial e [status] = ⟨[("http", .object [("status", .string "ok")])]⟩ ∧
      (applyCaptures .initial e [status]).leaves ≠ e.leaves + status.leaves) ∧
    ([nowhere].filter (keeps .initial [nowhere]) = [nowhere] ∧
      applyCaptures .initial e [nowhere] = e ∧
      (applyCaptures .initial e [nowhere]).leaves ≠ e.leaves + nowhere.leaves) := by
  intro e status nowhere
  have hstatus : applyCaptures .initial e [status] =
      ⟨[("http", .object [("status", .string "ok")])]⟩ := by cbv
  have hnowhere : applyCaptures .initial e [nowhere] = e := by cbv
  refine ⟨⟨by cbv, hstatus, fun h => ?_⟩, ⟨by cbv, hnowhere, fun h => ?_⟩⟩
  · rw [hstatus] at h
    have hcard := congrArg Multiset.card h
    revert hcard
    decide
  · rw [hnowhere] at h
    have hcard := congrArg Multiset.card h
    revert hcard
    decide

end Filter

end Grok
