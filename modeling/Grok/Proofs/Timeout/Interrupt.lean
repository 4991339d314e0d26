import Grok.Proofs.Timeout.Standing
/-!
Interrupts. Whoever is interrupted in a stint has had its own entry struck out in that stint, by a
scan at an instant that is not before its end.
-/
namespace Grok.Timeout

/-- An act of a run, made while a worker was in a stint, and no call of the worker after it. -/
inductive Within (execute : Matcher → String → JobResult) (s₀ : Crew) (w : WorkerId) (t : Stint)
    (P : Crew → Act → Prop) : List Act → Crew → Prop
  | now {history s a s' stage} : Run execute s₀ history s → Step execute s a s' →
      (s.members w).phase = .bounded t stage → P s a → Within execute s₀ w t P (a :: history) s'
  | later {history s a s'} : Within execute s₀ w t P history s → Step execute s a s' →
      (∀ c, a ≠ .call w c) → Within execute s₀ w t P (a :: history) s'

/-- A scan strikes out the entry of a stint that has run over. -/
def Strikes (w : WorkerId) (t : Stint) (s : Crew) (a : Act) : Prop :=
  a = .strike t.call.enforcer w ∧ s.Listed w t.call.enforcer t.expires ∧
    ∃ u, s.scans t.call.enforcer = some ⟨u, none⟩ ∧ t.expires ≤ u

/-- Whether a worker has an interrupt, or woke up for one, in a stint. -/
def Member.Interrupted (m : Member) (t : Stint) : Prop :=
  m.phase.stint? = some t ∧
    (m.mailbox.interrupted = true ∨ m.phase.result? = some (.ok .interrupted))

theorem Phase.Alike.stint? {p q : Phase} (h : p.Alike q) : p.stint? = q.stint? := by
  cases h <;> rfl

theorem Phase.Alike.result? {p q : Phase} (h : p.Alike q) : p.result? = q.result? := by
  cases h <;> rfl

@[simp] theorem Member.stint?_rouse (m : Member) : m.rouse.phase.stint? = m.phase.stint? :=
  m.alike_rouse.stint?

@[simp] theorem Member.result?_rouse (m : Member) : m.rouse.phase.result? = m.phase.result? :=
  m.alike_rouse.result?

variable {execute : Matcher → String → JobResult} {s₀ s s' : Crew} {w v : WorkerId} {a : Act}
  {m : Member} {f : Effect} {history : List Act} {t : Stint} {c : Call}

theorem Phase.registration_eq_entered {p : Phase} {e : EnforcerId} {expires : Instant}
    (h : p.registration = .entered e expires) :
    ∃ t stage, p = .bounded t stage ∧ t.call.enforcer = e ∧ t.expires = expires := by
  cases p with
  | bounded t stage =>
    cases stage with
    | submit | wait | leave =>
      obtain ⟨rfl, rfl⟩ : t.call.enforcer = e ∧ t.expires = expires := by
        simpa [registration, Stage.registration] using h
      exact ⟨t, _, rfl, rfl, rfl⟩
    | clear | announce | equip | register | unsignal | part => cases h
  | idle | called | inTime | returned | settled => cases h

theorem Phase.registration_eq_out {p : Phase} (h : p.isBounded = false) :
    p.registration = .out := by
  cases p with
  | bounded => cases h
  | idle | called | inTime | returned | settled => rfl

theorem Move.interrupted (hm : Move execute s w a m f) (hst : Standing (s.members w) (s.Listed w))
    (h : m.Interrupted t) : (s.members w).Interrupted t ∧ ∀ c, a ≠ .call w c := by
  cases hm with
  | enlist hp =>
    -- No interrupt is left over when a stint begins.
    obtain ⟨hi, -⟩ := hst.out (by rw [hp]; rfl)
    simp [Member.Interrupted, Phase.result?, hi] at h
  | @wake t k mailbox hp hk =>
    refine ⟨⟨by simpa [hp, Phase.stint?] using h.1, .inl ?_⟩, nofun⟩
    obtain hi | hi := h.2
    · rwa [Mailbox.interrupted_of_collect? hk] at hi
    · obtain rfl : k = .interrupted := by simpa [Phase.result?] using hi
      exact (Mailbox.collect?_eq_interrupted_iff.1 hk).2.1
  | _ => simp_all [Member.Interrupted, Phase.stint?, Phase.result?]

/-- One step back from an interrupt there is the interrupt still, or the entry struck out. -/
theorem Step.interrupted (hs : Step execute s a s') (hst : ∀ w, Standing (s.members w) (s.Listed w))
    (h : (s'.members w).Interrupted t) :
    ((s.members w).Interrupted t ∧ ∀ c, a ≠ .call w c) ∨
      Strikes w t s a ∧ ∃ stage, (s.members w).phase = .bounded t stage := by
  cases hs with
  | @move v _ m f hm =>
    by_cases hw : w = v
    · subst hw
      exact .inl (hm.interrupted (hst w) (by simpa using h))
    · refine .inl ⟨by simpa [hw] using h, ?_⟩
      rintro c rfl
      exact hw (by simpa [Act.worker?] using hm.worker?)
  | @strike e u v expires hu hl hle =>
    by_cases hw : w = v
    · subst hw
      obtain ⟨t', stage, hp, rfl, rfl⟩ := Phase.registration_eq_entered ((hst w).of_listed hl).1
      have ht : (s.members w).phase.stint? = some t := by simpa [Member.interrupt] using h.1
      rw [hp] at ht
      obtain rfl : t' = t := Option.some.inj ht
      exact .inr ⟨⟨rfl, hl, u, hu, hle⟩, stage, hp⟩
    · exact .inl ⟨by simpa [hw] using h, by simp⟩
  | @signal e u v hu =>
    refine .inl ⟨?_, by simp⟩
    by_cases hw : w = v
    · subst hw
      simpa [Member.Interrupted] using h
    · simpa [hw] using h
  | @deliver x queue j isOpen hx =>
    refine .inl ⟨?_, by simp⟩
    by_cases hw : w = j.worker
    · subst hw
      simp [Member.receive] at h
      split at h
      · simpa [Member.Interrupted] using h
      · exact h
    · simpa [hw] using h
  | tick | start | stop | scan | scanned | take | exit | crash => exact .inl ⟨h, by simp⟩

theorem Run.within_strikes (hr : Run execute s₀ history s)
    (h₀ : ∀ w, Standing (s₀.members w) (s₀.Listed w))
    (hi : ¬ (s₀.members w).Interrupted t) (h : (s.members w).Interrupted t) :
    Within execute s₀ w t (Strikes w t) history s := by
  -- Back along the run, the interrupt must come in somewhere: there was none at the start.
  induction hr with
  | nil => exact absurd h hi
  | step hr hs ih =>
    obtain ⟨h, ha⟩ | ⟨h, stage, hp⟩ := hs.interrupted (hr.standing h₀) h
    · exact .later (ih h) hs ha
    · exact .now hr hs hp h

/-- What a call that is over without a stint must have come to. -/
def Phase.Explained (execute : Matcher → String → JobResult) (now : Instant) : Phase → Prop
  | .settled c o =>
    o = c.inline execute ∨
      o = .timedOut .zero ∧ ∃ expires, c.deadline.expires? = some expires ∧ expires ≤ now
  | .idle | .called _ | .inTime .. | .bounded .. | .returned .. => True

theorem Phase.Explained.mono {p : Phase} {now later : Instant} (h : p.Explained execute now)
    (hle : now ≤ later) : p.Explained execute later := by
  cases p with
  | settled c o =>
    obtain h | ⟨ho, expires, hd, he⟩ := h
    · exact .inl h
    · exact .inr ⟨ho, expires, hd, Int.le_trans he hle⟩
  | idle | called | inTime | bounded | returned => trivial

theorem Phase.Explained.alike {p q : Phase} {now : Instant} (h : q.Explained execute now)
    (ha : p.Alike q) : p.Explained execute now := by
  cases ha with
  | refl => exact h
  | wait => trivial

theorem Move.explained (hm : Move execute s w a m f) : m.phase.Explained execute s.now := by
  cases hm with
  | unbounded => exact .inl rfl
  | unmonitored => exact .inl rfl
  | late _ hd hle => exact .inr ⟨rfl, _, hd, hle⟩
  | _ => trivial

theorem Step.explained (hs : Step execute s a s')
    (h : (s.members w).phase.Explained execute s.now) :
    (s'.members w).phase.Explained execute s'.now := by
  refine Phase.Explained.mono ?_ hs.now_le
  obtain ⟨m, f, hm, rfl⟩ | ⟨-, -, he⟩ := hs.alike w
  · simpa using hm.explained
  · exact h.alike he

theorem Run.explained (hr : Run execute s₀ history s)
    (h : (s₀.members w).phase.Explained execute s₀.now) :
    (s.members w).phase.Explained execute s.now := by
  induction hr with
  | nil => exact h
  | step _ hs ih => exact hs.explained ih

/-- A worker can be interrupted, give its job up, and have the result of the next one, with the late
result of the first left aside. -/
theorem Crew.exists_abandoned (execute : Matcher → String → JobResult) :
    ∃ early middle late s s' s'' o,
      Run execute (.new (fun _ => ⟨5⟩) (fun _ => ⟨1⟩) 0) (.wake 0 .interrupted :: early) s ∧
      Run execute (.new (fun _ => ⟨5⟩) (fun _ => ⟨1⟩) 0)
        (.answer 0 (.timedOut ⟨5⟩) :: middle) s' ∧
      Run execute (.new (fun _ => ⟨5⟩) (fun _ => ⟨1⟩) 0) (.answer 0 o :: late) s'' ∧
      ∀ a ∈ late, a.isFault = false := by
  have r : Run execute (.new (fun _ => ⟨5⟩) (fun _ => ⟨1⟩) 0) [] _ := .nil
  have r := r.step (.start (e := 0))
  have r := r.step (.move (.call (w := 0) (c := ⟨0, ⟨"", "", .empty, []⟩, "", .at 0 5⟩) rfl))
  have r := r.step (.move (.early (w := 0) rfl rfl (by decide)))
  have r := r.step (.move (.enlist (w := 0) rfl rfl))
  have r := r.step (.move (.clear (w := 0) rfl))
  have r := r.step (.move (.announce (w := 0) rfl))
  have r := r.step (.move (.hire (w := 0) (x := 0) rfl rfl rfl))
  have r := r.step (.move (.register (w := 0) rfl rfl))
  have r := r.step (.move (.submit (w := 0) rfl rfl))
  have r := r.step (.take (x := 0) rfl)
  have r := r.step (.tick (t := 5) (by decide))
  have r := r.step (.scan (e := 0) (t := 5) rfl (by decide))
  have r := r.step (.strike (e := 0) (t := 5) (w := 0) rfl (.head _) (by decide))
  have r := r.step (.signal (e := 0) rfl)
  have wake := r.step (.move (.wake (w := 0) (k := .interrupted) rfl rfl))
  have r := wake.step (.scanned (e := 0) (t := 5) rfl rfl)
  have r := r.step (.move (.miss (w := 0) rfl rfl rfl))
  have r := r.step (.move (.unsignal (w := 0) rfl))
  have r := r.step (.move (.drop (w := 0) rfl))
  have gone := r.step (.move (.abandon (w := 0) rfl))
  have r := gone.step (.move (.call (w := 0) (c := ⟨0, ⟨"", "", .empty, []⟩, "", .at 5 9⟩) rfl))
  have r := r.step (.move (.early (w := 0) rfl rfl (by decide)))
  have r := r.step (.move (.enlist (w := 0) rfl rfl))
  have r := r.step (.move (.clear (w := 0) rfl))
  have r := r.step (.move (.announce (w := 0) rfl))
  have r := r.step (.move (.hire (w := 0) (x := 1) rfl rfl rfl))
  have r := r.step (.move (.register (w := 0) rfl rfl))
  have r := r.step (.move (.submit (w := 0) rfl rfl))
  have r := r.step (.deliver (x := 0) rfl)
  have r := r.step (.take (x := 1) rfl)
  have r := r.step (.deliver (x := 1) rfl)
  have r := r.step (.move (.wake (w := 0) rfl rfl))
  have r := r.step (.move (.leave (w := 0) rfl rfl rfl))
  have r := r.step (.move (.keep (w := 0) rfl nofun))
  have answer := r.step (.move (.finish (w := 0) rfl))
  exact ⟨_, _, _, _, _, _, _, wake, gone, answer, by simp [Act.isFault]⟩

variable {timeouts intervals : EnforcerId → Duration} {now : Instant}

/-- No interrupt outlives its stint, and none comes out of turn. -/
theorem Crew.no_stray_interrupt (hr : Run execute (.new timeouts intervals now) history s)
    (w : WorkerId) :
    ((s.members w).phase.isBounded = false →
      (s.members w).mailbox.interrupted = false ∧ ∀ e, (s.ledger e).contains w = false) ∧
    (∀ s', Step execute s (.wake w .interrupted) s' →
      ∃ t, (s.members w).phase = .bounded t (.wait false) ∧
        Within execute (.new timeouts intervals now) w t (Strikes w t) history s) ∧
    ∀ d s', Step execute s (.answer w (.timedOut d)) s' →
      (∃ c, (s.members w).phase = .settled c (.timedOut d) ∧ d = .zero ∧
        ∃ expires, c.deadline.expires? = some expires ∧ expires ≤ s.now) ∨
      ∃ t, (s.members w).phase = .returned t (.ok .interrupted) ∧
        Within execute (.new timeouts intervals now) w t (Strikes w t) history s := by
  have h₀ := Crew.new_standing timeouts intervals now
  have hw := hr.standing h₀ w
  have within {t : Stint} (h : (s.members w).Interrupted t) :
      Within execute (.new timeouts intervals now) w t (Strikes w t) history s :=
    hr.within_strikes h₀ (by simp [Member.Interrupted, Crew.new, Member.new, Phase.stint?]) h
  refine ⟨fun hp => ?_, fun s' hs => ?_, fun d s' hs => ?_⟩
  · obtain ⟨hi, hl⟩ := hw.out (Phase.registration_eq_out hp)
    exact ⟨hi, fun e => Ledger.contains_eq_false_iff.2 (hl e)⟩
  · cases hs with
    | move hm =>
      cases hm with
      | wake hp hk =>
        have hi := (Mailbox.collect?_eq_interrupted_iff.1 hk).2.1
        exact ⟨_, hp, within ⟨by rw [hp]; rfl, .inl hi⟩⟩
  · generalize ho : MatchOutcome.timedOut d = o at hs
    cases hs with
    | move hm =>
      cases hm with
      | settle hp =>
        subst ho
        have he : (s.members w).phase.Explained execute s.now := hr.explained trivial
        rw [hp] at he
        obtain hc | ⟨hd, he⟩ := he
        · exact absurd hc.symm (MatchOutcome.ofResult_ne_timedOut _ _)
        · cases hd
          exact .inl ⟨_, hp, rfl, he⟩
      | finish hp => exact absurd ho.symm (MatchOutcome.ofResult_ne_timedOut _ _)
      | abandon hp => exact .inr ⟨_, hp, within ⟨by rw [hp]; rfl, .inr (by rw [hp]; rfl)⟩⟩
      | fail hp => cases ho

theorem Crew.no_stray_interrupt_of_wake :
    ∃ execute timeouts intervals now history s s',
      Step execute s (.wake 0 .interrupted) s' ∧
      ∃ t, (s.members 0).phase = .bounded t (.wait false) ∧
        Within execute (.new timeouts intervals now) 0 t (Strikes 0 t) history s := by
  obtain ⟨history, -, -, s', -, -, -, hr, -⟩ := exists_abandoned fun m t => .ok (m.execute t)
  cases hr with
  | step hr hs => exact ⟨_, _, _, _, history, _, s', hs, (no_stray_interrupt hr 0).2.1 _ hs⟩

end Grok.Timeout
