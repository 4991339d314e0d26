import Mathlib.Data.Set.Card
import Grok.Proofs.Timeout.Transparency
/-!
Tallies. The ledgers hold nobody but workers in a call, and the count of abandoned evaluations is
the count of calls that ended with an interrupt. Whoever sleeps is going to be woken.
-/
namespace Grok.Timeout

/-- What woke a worker in its last call, if anything did. The acts stand newest first. -/
def lastWake? (w : WorkerId) : List Act → Option (Wake JobResult)
  | [] => none
  | .call v _ :: history => if v = w then none else lastWake? w history
  | .wake v k :: history => if v = w then some k else lastWake? w history
  | _ :: history => lastWake? w history

/-- Whether an interrupt woke a worker in its last call, a call of the given enforcer. -/
def wasInterrupted (e : EnforcerId) (w : WorkerId) (history : List Act) : Bool :=
  match lastWake? w history, lastCall? w history with
  | some .interrupted, some c => c.enforcer == e
  | _, _ => false

/-- The calls of an enforcer that are over and in which an interrupt woke the worker. -/
def interruptedCalls (e : EnforcerId) : List Act → Nat
  | [] => 0
  | .answer w _ :: history =>
    if wasInterrupted e w history then interruptedCalls e history + 1
    else interruptedCalls e history
  | _ :: history => interruptedCalls e history

def Crew.callers (s : Crew) (e : EnforcerId) : Set WorkerId :=
  {w | ∃ c, (s.members w).phase.call? = some c ∧ c.enforcer = e}

/-- Whether a worker is about to be woken. -/
def Crew.Signalled (s : Crew) (w : WorkerId) : Prop :=
  ∃ e t, s.scans e = some ⟨t, some w⟩

/-- Whoever sleeps has nothing in its mailbox, unless it is about to be woken for it. -/
def Crew.Watched (s : Crew) (w : WorkerId) : Prop :=
  ∀ t, (s.members w).phase = .bounded t (.wait true) →
    (s.members w).mailbox.result = none ∧
      ((s.members w).mailbox.interrupted = true → s.Signalled w)

def Phase.woken? (p : Phase) : Option (Wake JobResult) := p.result?.bind (·.toOption)

theorem Phase.Alike.woken? {p q : Phase} (h : p.Alike q) : p.woken? = q.woken? := by
  cases h <;> rfl

theorem Member.rouse_awake (m : Member) (t : Stint) : m.rouse.phase ≠ .bounded t (.wait true) := by
  unfold rouse
  split
  · nofun
  · next h => exact h t true

variable {execute : Matcher → String → JobResult} {s₀ s s' : Crew} {w v : WorkerId} {a : Act}
  {m n : Member} {f : Effect} {history : List Act} {t : Stint} {e : EnforcerId}
  {o : MatchOutcome} {timeouts intervals : EnforcerId → Duration} {now : Instant}

theorem Move.watched (hm : Move execute s w a m f)
    (hp : m.phase = .bounded t (.wait true)) :
    m.mailbox.result = none ∧ m.mailbox.interrupted = false := by
  cases hm with
  | sleep hq hc => exact (Mailbox.collect?_eq_none_iff _).1 hc
  | _ => cases hp

/-- A signal that is to come still comes, or it has just come. -/
theorem Step.signalled (hs : Step execute s a s') (h : s.Signalled w) :
    s'.Signalled w ∨ s'.members w = (s.members w).rouse := by
  obtain ⟨e, u, he⟩ := h
  have other {d : EnforcerId} {c c' : Option Scan} (hd : s.scans d = c)
      (hc : c ≠ some ⟨u, some w⟩) :
      (s.setScan d c').scans e = some ⟨u, some w⟩ := by
    rw [Crew.scans_setScan_of_ne, he]
    rintro rfl
    exact hc (hd.symm.trans he)
  cases hs with
  | move => exact .inl ⟨e, u, by simpa using he⟩
  | scan hd => exact .inl ⟨e, u, other hd nofun⟩
  | strike hd => exact .inl ⟨e, u, other hd nofun⟩
  | scanned hd => exact .inl ⟨e, u, other hd nofun⟩
  | @signal d t v hd =>
    by_cases hv : v = w
    · subst hv
      exact .inr (by simp)
    · exact .inl ⟨e, u, other hd (by simp [hv])⟩
  | tick | start | stop | take | deliver | exit | crash => exact .inl ⟨e, u, he⟩

theorem Step.watched (hs : Step execute s a s') (h : s.Watched w) : s'.Watched w := by
  intro t hp
  have same (hw : s'.members w = s.members w) :
      (s'.members w).mailbox.result = none ∧
        ((s'.members w).mailbox.interrupted = true → s'.Signalled w) := by
    rw [hw] at hp ⊢
    refine (h t hp).imp id fun hi hb => (hs.signalled (hi hb)).resolve_right fun hr => ?_
    rw [hr] at hw
    exact Member.rouse_awake _ t (hw.symm ▸ hp)
  cases hs with
  | @move v _ m f hm =>
    by_cases hw : w = v
    · subst hw
      rw [Crew.members_setMember_self] at hp ⊢
      obtain ⟨hr, hi⟩ := hm.watched hp
      exact ⟨hr, fun hb => absurd hb (by simp [hi])⟩
    · exact same (by simp [hw])
  | @strike e u v _ hd =>
    by_cases hw : w = v
    · subst hw
      rw [Crew.members_setMember_self] at hp ⊢
      exact ⟨(h t hp).1, fun _ => ⟨e, u, by simp⟩⟩
    · exact same (by simp [hw])
  | @signal e u v hd =>
    by_cases hw : w = v
    · subst hw
      rw [Crew.members_setMember_self] at hp
      exact absurd hp (Member.rouse_awake _ t)
    · exact same (by simp [hw])
  | @deliver x queue j isOpen hx =>
    by_cases hw : w = j.worker
    · subst hw
      rw [Crew.members_setMember_self, Member.receive] at hp
      split at hp
      · exact absurd hp (Member.rouse_awake _ t)
      · next hid => exact same (by simp [Member.receive, hid])
    · exact same (by simp [hw])
  | tick | start | stop | scan | scanned | take | exit | crash => exact same rfl

theorem Run.watched (hr : Run execute s₀ history s) (h : ∀ w, s₀.Watched w) (w : WorkerId) :
    s.Watched w := by
  induction hr with
  | nil => exact h w
  | step _ hs ih => exact hs.watched ih

theorem Crew.distinct_setLedger {l : Ledger} (h : ∀ d, (s.ledger d).Distinct) (hl : l.Distinct)
    (d : EnforcerId) : ((s.setLedger e l).ledger d).Distinct := by
  by_cases hd : d = e
  · subst hd
    rwa [Crew.ledger_setLedger_self]
  · rw [Crew.ledger_setLedger_of_ne _ hd]
    exact h d

theorem Crew.distinct_apply (h : ∀ d, (s.ledger d).Distinct) (f : Effect) (d : EnforcerId) :
    ((s.apply w f).ledger d).Distinct := by
  cases f with
  | register e expires => exact distinct_setLedger h (Ledger.distinct_register (h e) ..) d
  | erase e => exact distinct_setLedger h (Ledger.distinct_erase (h e) _) d
  | abandon e =>
    rw [apply, ledger_setEnforcer s (Enforcer.ledger_countAbandoned _)]
    exact h d
  | dismiss x => cases x <;> exact h d
  | none | hire x | post x j => exact h d

theorem Step.distinct (hs : Step execute s a s') (h : ∀ e, (s.ledger e).Distinct)
    (e : EnforcerId) : (s'.ledger e).Distinct := by
  cases hs with
  | @move _ _ _ f => exact Crew.distinct_apply h f e
  | strike => exact Crew.distinct_setLedger h (Ledger.distinct_erase (h _) _) e
  | start =>
    rw [Crew.ledger_setEnforcer s (Enforcer.ledger_start _)]
    exact h e
  | stop =>
    rw [Crew.ledger_setEnforcer s (Enforcer.ledger_stop _)]
    exact h e
  | tick | scan | signal | scanned | take | deliver | exit | crash => exact h e

theorem Run.distinct (hr : Run execute s₀ history s) (h : ∀ e, (s₀.ledger e).Distinct)
    (e : EnforcerId) : (s.ledger e).Distinct := by
  induction hr generalizing e with
  | nil => exact h e
  | step _ hs ih => exact hs.distinct ih e

theorem Step.busy (hs : Step execute s a s') (h : (s'.members w).phase.call? ≠ none) :
    (s.members w).phase.call? ≠ none ∨ a.worker? = some w := by
  obtain ⟨m, f, hm, -⟩ | ⟨-, -, ha⟩ := hs.alike w
  · exact .inr hm.worker?
  · rw [ha.call?] at h
    exact .inl h

theorem Run.finite_callers (hr : Run execute s₀ history s)
    (h : ∀ w, (s₀.members w).phase.call? = none) (e : EnforcerId) : (s.callers e).Finite := by
  have hbusy : {w | (s.members w).phase.call? ≠ none}.Finite := by
    induction hr with
    | nil => simp [h]
    | @step _ _ a _ _ hs ih =>
      have ha : {w | a.worker? = some w}.Finite :=
        Set.Subsingleton.finite fun v hv w hw => Option.some.inj (hv.symm.trans hw)
      exact (ih.union ha).subset fun w hw => hs.busy hw
  refine hbusy.subset ?_
  rintro w ⟨c, hc, -⟩ hn
  rw [hn] at hc
  cases hc

theorem Crew.inFlight_le (hd : (s.ledger e).Distinct)
    (hl : ∀ w t, s.Listed w e t → w ∈ s.callers e) (hf : (s.callers e).Finite) :
    (s.enforcers e).inFlight ≤ (s.callers e).ncard := by
  have hsub : (((s.ledger e).entries.map (·.1)).toFinset : Set WorkerId) ⊆ s.callers e := by
    intro w hw
    obtain ⟨⟨v, t⟩, hv, rfl⟩ := List.mem_map.1 (List.mem_toFinset.1 hw)
    exact hl v t hv
  calc (s.enforcers e).inFlight = ((s.ledger e).entries.map (·.1)).length := by
        rw [List.length_map]
        rfl
    _ = ((s.ledger e).entries.map (·.1)).toFinset.card := (List.toFinset_card_of_nodup hd).symm
    _ = (((s.ledger e).entries.map (·.1)).toFinset : Set WorkerId).ncard :=
        (Set.ncard_coe_finset _).symm
    _ ≤ (s.callers e).ncard := Set.ncard_le_ncard hsub hf

theorem lastWake?_cons_of_ne (h : a.worker? ≠ some w) :
    lastWake? w (a :: history) = lastWake? w history := by
  cases a with
  | call v c => exact if_neg fun hv => h (by rw [hv]; rfl)
  | wake v k => exact if_neg fun hv => h (by rw [hv]; rfl)
  | _ => rfl

theorem Move.woken (hm : Move execute s w a m f)
    (h : (s.members w).phase.call? ≠ none → lastWake? w history = (s.members w).phase.woken?)
    (hc : m.phase.call? ≠ none) : lastWake? w (a :: history) = m.phase.woken? := by
  cases hm with
  | call => exact if_pos rfl
  | wake => exact if_pos rfl
  | _ => simp_all [lastWake?, Phase.call?, Phase.woken?, Phase.result?, Except.toOption]

theorem Step.woken (hs : Step execute s a s')
    (h : (s.members w).phase.call? ≠ none → lastWake? w history = (s.members w).phase.woken?)
    (hc : (s'.members w).phase.call? ≠ none) :
    lastWake? w (a :: history) = (s'.members w).phase.woken? := by
  obtain ⟨m, f, hm, rfl⟩ | ⟨hw, -, ha⟩ := hs.alike w
  · rw [Crew.members_setMember_self] at hc ⊢
    exact hm.woken h hc
  · rw [ha.call?] at hc
    rw [ha.woken?, lastWake?_cons_of_ne hw, h hc]

/-- A worker knows what woke it in the call that it is in. -/
theorem Run.woken (hr : Run execute s₀ history s)
    (h : (s₀.members w).phase.call? = none) (hc : (s.members w).phase.call? ≠ none) :
    lastWake? w history = (s.members w).phase.woken? := by
  induction hr with
  | nil => exact absurd h hc
  | step _ hs ih => exact hs.woken ih hc

theorem Crew.abandoned_setLedger (s : Crew) (d : EnforcerId) (l : Ledger) :
    ((s.setLedger d l).enforcers e).abandoned = (s.enforcers e).abandoned :=
  s.setEnforcer_congr Enforcer.abandoned (f := { s.enforcers d with ledger := l }) rfl e

theorem Crew.abandoned_apply (hf : f ≠ .abandon e) :
    ((s.apply w f).enforcers e).abandoned = (s.enforcers e).abandoned := by
  cases f with
  | abandon d => rw [apply, enforcers_setEnforcer_of_ne _ fun hd => hf (by rw [hd])]
  | register d | erase d => exact s.abandoned_setLedger d _
  | dismiss x => cases x <;> rfl
  | none | hire x | post x j => rfl

theorem Step.abandoned (hs : Step execute s a s') (ha : ∀ w o, a ≠ .answer w o) :
    (s'.enforcers e).abandoned = (s.enforcers e).abandoned := by
  cases hs with
  | move hm =>
    apply Crew.abandoned_apply
    rintro rfl
    cases hm
    exact absurd rfl (ha _ _)
  | strike => exact s.abandoned_setLedger _ _
  | start => exact s.setEnforcer_congr Enforcer.abandoned (Enforcer.abandoned_start _) e
  | stop => exact s.setEnforcer_congr Enforcer.abandoned (Enforcer.abandoned_stop _) e
  | tick | scan | signal | scanned | take | deliver | exit | crash => rfl

theorem Step.call_of_answer (hs : Step execute s (.answer w o) s') :
    ∃ c, (s.members w).phase.call? = some c := by
  cases hs with
  | move hm =>
    cases hm with
    | settle hp | finish hp | abandon hp | fail hp => exact ⟨_, by rw [hp]; rfl⟩

theorem Step.tally (hs : Step execute s (.answer w o) s')
    (hwake : lastWake? w history = (s.members w).phase.woken?)
    (hcall : lastCall? w history = (s.members w).phase.call?) :
    (s'.enforcers e).abandoned =
      if wasInterrupted e w history then (s.enforcers e).abandoned + 1
      else (s.enforcers e).abandoned := by
  cases hs with
  | move hm =>
    cases hm with
    | settle hp | finish hp | fail hp =>
      have hn : wasInterrupted e w history = false := by
        simp [wasInterrupted, hwake, hp, Phase.woken?, Phase.result?, Except.toOption]
      rw [hn]
      rfl
    | @abandon t hp =>
      have hi : wasInterrupted e w history = (t.call.enforcer == e) := by
        simp [wasInterrupted, hwake, hcall, hp, Phase.woken?, Phase.result?, Phase.call?,
          Except.toOption]
      rw [hi]
      by_cases he : t.call.enforcer = e
      · subst he
        simp [Crew.apply]
      · simp [Crew.apply, he, Ne.symm he]

theorem Run.tally (hr : Run execute s₀ history s)
    (hc : ∀ w, (s₀.members w).phase.call? = none) (ha : (s₀.enforcers e).abandoned = 0) :
    (s.enforcers e).abandoned = interruptedCalls e history := by
  induction hr with
  | nil => exact ha
  | @step history s a s' hr hs ih =>
    -- Nothing is counted before a call is over, and the run tells what woke its worker.
    cases a with
    | answer w o =>
      obtain ⟨c, hw⟩ := hs.call_of_answer
      rw [hs.tally (hr.woken (hc w) (by simp [hw])) (by rw [hr.called (hc w) hw, hw]), ih]
      rfl
    | _ =>
      rw [hs.abandoned nofun, ih]
      rfl

/-- No wake-up is lost, and the ledgers and counts are exact. -/
theorem Crew.tallied (hr : Run execute (.new timeouts intervals now) history s) :
    (∀ w e expires, s.Listed w e expires →
      (s.members w).phase.registration = .entered e expires ∧
        ∀ d t, s.Listed w d t ↔ d = e ∧ t = expires) ∧
    (∀ w t asleep, (s.members w).phase = .bounded t (.wait asleep) →
      s.Listed w t.call.enforcer t.expires ∨ (s.members w).mailbox.interrupted = true) ∧
    (∀ w t, (s.members w).phase = .bounded t (.wait true) →
      (s.members w).mailbox.result = none ∧
        (s.Listed w t.call.enforcer t.expires ∨ s.Signalled w)) ∧
    (∀ w c o, (s.members w).phase = .settled c o → lastWake? w history = none) ∧
    ∀ e, (s.ledger e).Distinct ∧ (s.enforcers e).inFlight ≤ (s.callers e).ncard ∧
      (s.callers e = ∅ → (s.enforcers e).inFlight = 0) ∧
      (s.enforcers e).abandoned = interruptedCalls e history := by
  have hw := hr.standing (Crew.new_standing timeouts intervals now)
  have waits {w : WorkerId} {t : Stint} {asleep : Bool}
      (hp : (s.members w).phase = .bounded t (.wait asleep)) :
      s.Listed w t.call.enforcer t.expires ∨ (s.members w).mailbox.interrupted = true := by
    obtain ⟨hi, -⟩ | ⟨-, hl⟩ := (hw w).entered (by rw [hp]; rfl)
    · exact .inr hi
    · exact .inl ((hl _ _).2 ⟨rfl, rfl⟩)
  refine ⟨fun w e expires hl => ?_, fun w t asleep hp => waits hp, fun w t hp => ?_,
    fun w c o hp => ?_, fun e => ?_⟩
  · obtain ⟨hr, -, hiff⟩ := (hw w).of_listed hl
    exact ⟨hr, hiff⟩
  · obtain ⟨hn, hs⟩ := hr.watched (fun _ => nofun) w t hp
    exact ⟨hn, (waits hp).imp id hs⟩
  · rw [hr.woken rfl (by simp [hp, Phase.call?]), hp]
    rfl
  · have hd := hr.distinct (fun _ => List.nodup_nil) e
    have hf := hr.finite_callers (fun _ => rfl) e
    have hle := Crew.inFlight_le hd (fun w t hl => ?_) hf
    · refine ⟨hd, hle, fun h0 => ?_, hr.tally (fun _ => rfl) rfl⟩
      rw [h0, Set.ncard_empty] at hle
      exact Nat.le_zero.1 hle
    · obtain ⟨u, stage, hp, he, -⟩ := Phase.registration_eq_entered ((hw w).of_listed hl).1
      exact ⟨u.call, by rw [hp]; rfl, he⟩

theorem Crew.tallied_of_abandoned :
    ∃ execute timeouts intervals now history s,
      Run execute (.new timeouts intervals now) (.answer 0 (.timedOut ⟨5⟩) :: history) s ∧
      (s.enforcers 0).abandoned = interruptedCalls 0 (.answer 0 (.timedOut ⟨5⟩) :: history) := by
  obtain ⟨-, history, -, -, s, -, -, -, hr, -⟩ := exists_abandoned fun m t => .ok (m.execute t)
  obtain ⟨-, -, -, -, h⟩ := tallied hr
  exact ⟨_, _, _, _, history, s, hr, (h 0).2.2.2⟩

end Grok.Timeout
