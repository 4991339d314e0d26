import Mathlib
import Grok.Proofs.Expansion.Tree
/-!
The numbers of groups. Main statement: at every point of an expansion the numbered groups that feed
something are those that have been numbered so far, and what a group feeds never changes.
-/
namespace Grok.Expansion

variable {s : Setting} {st st₁ st' : State} {r : Reference} {body : List Char} {t : Tree}
  {target : Option Target} {j k : Nat}

theorem groupName_injective (h : groupName j = groupName k) : j = k := by
  have hdigits : (toString j).toList = (toString k).toList := by
    have hlists := congrArg String.toList h
    rw [groupName, groupName, String.toList_append, String.toList_append] at hlists
    exact List.append_cancel_left hlists
  exact Nat.repr_injective (String.toList_injective hdigits)

theorem startsWith_groupName (k : Nat) : (groupName k).startsWith groupPrefix := by
  rw [String.startsWith_string_iff, groupName, String.toList_append]
  exact List.prefix_append _ _

namespace State

/-- The groups that feed something are those numbered so far. -/
def Numbered (st : State) : Prop :=
  ∀ g, (st.targets.get? g).isSome ↔ ∃ k < st.nextGroup, g = groupName k

theorem Numbered.startsWith (h : st.Numbered) {g : String} (hg : (st.targets.get? g).isSome) :
    g.startsWith groupPrefix := by
  obtain ⟨k, -, rfl⟩ := (h g).1 hg
  exact startsWith_groupName k

theorem numbered_empty {defs : Table String} : State.Numbered ⟨defs, [], 0⟩ := by
  simp [Numbered]

theorem Numbered.of_eq (h : st.Numbered) (ht : st₁.targets = st.targets)
    (hn : st₁.nextGroup = st.nextGroup) : st₁.Numbered := by
  unfold Numbered
  rw [ht, hn]
  exact h

theorem Numbered.captureOf_of_not_startsWith (h : st.Numbered) {g : String}
    (hg : ¬ g.startsWith groupPrefix) : captureOf st.targets g = some ⟨g, g, .text⟩ := by
  have hnone : st.targets.get? g = none := by
    rw [← Option.not_isSome_iff_eq_none]
    exact fun hsome => hg (h.startsWith hsome)
  simp only [captureOf, hnone, hg, Bool.false_eq_true, if_false]

/-- The names of the groups numbered so far. -/
def generated (st : State) : List String := (List.range st.nextGroup).map groupName

theorem Numbered.isSome_eq (h : st.Numbered) (g : String) :
    (st.targets.get? g).isSome = st.generated.contains g := by
  rw [Bool.eq_iff_iff, h g, List.contains_iff_mem, generated]
  simp [eq_comm]

theorem nextGroup_le_number (st : State) (target : Option Target) :
    st.nextGroup ≤ (st.number target).2.nextGroup := by
  cases target with
  | none => exact Nat.le_refl _
  | some t => exact Nat.le_succ _

theorem get?_number (hk : k < st.nextGroup) (target : Option Target) :
    (st.number target).2.targets.get? (groupName k) = st.targets.get? (groupName k) := by
  cases target with
  | none => rfl
  | some t =>
    refine Table.get?_put_of_ne _ (fun h => ?_) _
    exact absurd (groupName_injective h) (Nat.ne_of_gt hk)

theorem Numbered.number (h : st.Numbered) (target : Option Target) :
    (st.number target).2.Numbered := by
  intro g
  cases target with
  | none => exact h g
  | some t =>
    simp only [State.number, Nat.lt_succ_iff_lt_or_eq, or_and_right, exists_or, exists_eq_left]
    by_cases hg : groupName st.nextGroup = g
    · subst hg
      simp
    · rw [Table.get?_put_of_ne _ hg, h g]
      exact (or_iff_left (Ne.symm hg)).symm

end State

/-- The body of a reference is found without numbering anything. -/
theorem Setting.body_keeps (h : s.body r st = .ok (body, st₁)) :
    st₁.targets = st.targets ∧ st₁.nextGroup = st.nextGroup := by
  unfold Setting.body at h
  split at h
  · cases h
    exact ⟨rfl, rfl⟩
  · dsimp only at h
    split at h
    · cases h
      exact ⟨rfl, rfl⟩
    · cases h

namespace Setting.Unfolds

theorem numbered (h : s.Unfolds st t st') (hst : st.Numbered) : st'.Numbered := by
  induction h with
  | nil => exact hst
  | plain _ ih => exact ih hst
  | group hbody _ _ _ _ ihb ih =>
    obtain ⟨htargets, hnext⟩ := body_keeps hbody
    exact ih (ihb ((hst.of_eq htargets hnext).number _))

theorem nextGroup_le (h : s.Unfolds st t st') : st.nextGroup ≤ st'.nextGroup := by
  induction h with
  | nil => exact Nat.le_refl _
  | plain _ ih => exact ih
  | group hbody _ _ _ _ ihb ih =>
    rw [← (body_keeps hbody).2]
    exact (State.nextGroup_le_number _ _).trans (ihb.trans ih)

theorem get?_groupName (h : s.Unfolds st t st') (hk : k < st.nextGroup) :
    st'.targets.get? (groupName k) = st.targets.get? (groupName k) := by
  induction h with
  | nil => rfl
  | plain _ ih => exact ih hk
  | @group r body target b t st st₁ st₂ st' hbody _ _ hub _ ihb ih =>
    obtain ⟨htargets, hnext⟩ := body_keeps hbody
    have hk₁ : k < st₁.nextGroup := hnext ▸ hk
    have hk₂ : k < (st₁.number target).2.nextGroup :=
      hk₁.trans_le (State.nextGroup_le_number _ _)
    rw [ih (hk₂.trans_le hub.nextGroup_le), ihb hk₂, State.get?_number hk₁, htargets]

/-- What a group feeds stays what it feeds. -/
theorem captureOf_eq (h : s.Unfolds st t st') (hst : st.Numbered) {g : String} {c : CaptureField}
    (hc : captureOf st.targets g = some c) : captureOf st'.targets g = some c := by
  cases hg : st.targets.get? g with
  | some target =>
    obtain ⟨k, hk, rfl⟩ := (hst g).1 (by rw [hg]; rfl)
    rwa [captureOf, h.get?_groupName hk]
  | none =>
    have hname : ¬ g.startsWith groupPrefix := by
      intro hname
      simp only [captureOf, hg, hname, if_true] at hc
      cases hc
    rw [(h.numbered hst).captureOf_of_not_startsWith hname, ← hc,
      hst.captureOf_of_not_startsWith hname]

end Setting.Unfolds

/-- The groups in a capture table are those of the expression, except for reserved names that were
not given to any group. -/
theorem groups_captureTable (hst : st.Numbered) {cs : List Char} :
    (captureTable st.targets cs).map (·.group) = (Capture.namedGroups cs).filter fun g =>
      !g.startsWith groupPrefix || st.generated.contains g := by
  rw [captureTable, List.map_filterMap, ← List.filterMap_eq_filter]
  refine List.filterMap_congr fun g _ => ?_
  rw [Option.guard, ← hst.isSome_eq g]
  unfold captureOf
  cases hg : st.targets.get? g with
  | some target => simp
  | none => cases hname : g.startsWith groupPrefix <;> simp

end Grok.Expansion
