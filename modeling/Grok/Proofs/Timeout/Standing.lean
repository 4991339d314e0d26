import Grok.Timeout.Crew
/-!
How workers stand to the ledgers. A worker outside the part of a call that is watched has no entry
and no interrupt; inside it, the worker has exactly one of the two.
-/
namespace Grok.Timeout

/-- What a phase has to do with the ledgers. -/
inductive Registration where
  | out
  | entered (e : EnforcerId) (expires : Instant)
  | struck

def Stage.registration (t : Stint) : Stage → Registration
  | .submit _ | .wait _ | .leave _ => .entered t.call.enforcer t.expires
  | .unsignal _ => .struck
  | .clear | .announce | .equip | .register _ | .part _ => .out

def Phase.registration : Phase → Registration
  | .bounded t stage => stage.registration t
  | .idle | .called _ | .inTime .. | .returned .. | .settled .. => .out

/-- How a worker with these entries has to stand. -/
def Standing (m : Member) (listed : EnforcerId → Instant → Prop) : Prop :=
  match m.phase.registration with
  | .out => m.mailbox.interrupted = false ∧ ∀ e t, ¬ listed e t
  | .entered e expires =>
    if m.mailbox.interrupted then ∀ e t, ¬ listed e t
    else ∀ d t, listed d t ↔ d = e ∧ t = expires
  | .struck => m.mailbox.interrupted = true ∧ ∀ e t, ¬ listed e t

namespace Standing

variable {m n : Member} {listed listed' : EnforcerId → Instant → Prop} {e : EnforcerId}
  {expires : Instant}

theorem congr (h : Standing m listed) (hr : n.phase.registration = m.phase.registration)
    (hi : n.mailbox.interrupted = m.mailbox.interrupted)
    (hl : ∀ e t, listed' e t ↔ listed e t) : Standing n listed' := by
  simp only [Standing, hr, hi, hl]
  exact h

theorem of_out (hr : n.phase.registration = .out) (hi : n.mailbox.interrupted = false)
    (hl : ∀ e t, ¬ listed e t) : Standing n listed := by
  simp only [Standing, hr]
  exact ⟨hi, hl⟩

theorem out (h : Standing m listed) (hr : m.phase.registration = .out) :
    m.mailbox.interrupted = false ∧ ∀ e t, ¬ listed e t := by
  simpa only [Standing, hr] using h

theorem struck (h : Standing m listed) (hr : m.phase.registration = .struck) :
    m.mailbox.interrupted = true ∧ ∀ e t, ¬ listed e t := by
  simpa only [Standing, hr] using h

/-- Whoever is entered has an entry or an interrupt, and never both. -/
theorem entered (h : Standing m listed) (hr : m.phase.registration = .entered e expires) :
    m.mailbox.interrupted = true ∧ (∀ e t, ¬ listed e t) ∨
      m.mailbox.interrupted = false ∧ ∀ d t, listed d t ↔ d = e ∧ t = expires := by
  simp only [Standing, hr] at h
  cases hi : m.mailbox.interrupted with
  | true => exact .inl ⟨rfl, by simpa [hi] using h⟩
  | false => exact .inr ⟨rfl, by simpa [hi] using h⟩

theorem of_listed (h : Standing m listed) (hl : listed e expires) :
    m.phase.registration = .entered e expires ∧ m.mailbox.interrupted = false ∧
      ∀ d t, listed d t ↔ d = e ∧ t = expires := by
  cases hr : m.phase.registration with
  | out => exact absurd hl ((h.out hr).2 _ _)
  | struck => exact absurd hl ((h.struck hr).2 _ _)
  | entered d t =>
    obtain ⟨-, hn⟩ | ⟨hi, hiff⟩ := h.entered hr
    · exact absurd hl (hn _ _)
    · obtain ⟨rfl, rfl⟩ := (hiff _ _).1 hl
      exact ⟨rfl, hi, hiff⟩

end Standing

theorem Phase.Alike.registration {p q : Phase} (h : p.Alike q) :
    p.registration = q.registration := by
  cases h <;> rfl

@[simp] theorem Member.registration_rouse (m : Member) :
    m.rouse.phase.registration = m.phase.registration :=
  m.alike_rouse.registration

variable {execute : Matcher → String → JobResult} {s s' : Crew} {w v : WorkerId} {a : Act}
  {m : Member} {f : Effect} {history : List Act}

theorem Move.standing (hm : Move execute s w a m f)
    (h : Standing (s.members w) (s.Listed w)) : Standing m ((s.apply w f).Listed w) := by
  cases hm with
  | @register t x hp hs =>
    obtain ⟨hi, hl⟩ := h.out (by rw [hp]; rfl)
    simp only [Standing, Member.phase_go, Member.mailbox_go, Phase.registration,
      Stage.registration, hi]
    intro d u
    rw [Crew.listed_apply_self]
    by_cases hd : d = t.call.enforcer <;> simp [hd, hl]
  | leave hp hs hc =>
    -- The entry is there, so that no scan has struck it out.
    have he := h.entered (by rw [hp]; rfl)
    obtain ⟨u, hu⟩ := Ledger.contains_iff.1 hc
    obtain ⟨hi, hl⟩ | ⟨hi, hl⟩ := he
    · exact absurd hu (hl _ _)
    · refine .of_out rfl hi fun d u => ?_
      rw [Crew.listed_apply_self, hl]
      exact fun hd => hd.1 hd.2.1
  | miss hp hs hc =>
    -- The entry is gone, so that there is an interrupt, which is cleared next.
    have he := h.entered (by rw [hp]; rfl)
    obtain ⟨hi, hl⟩ | ⟨hi, hl⟩ := he
    · exact ⟨hi, hl⟩
    · exact absurd ((hl _ _).2 ⟨rfl, rfl⟩) (Ledger.contains_eq_false_iff.1 hc _)
  | unsignal hp =>
    exact .of_out rfl rfl (h.struck (by rw [hp]; rfl)).2
  | clear hp =>
    exact .of_out rfl rfl (h.out (by rw [hp]; rfl)).2
  | wake hp hk =>
    exact h.congr (by rw [hp]; rfl) (Mailbox.interrupted_of_collect? hk) fun _ _ => Iff.rfl
  | _ =>
    refine h.congr ?_ rfl fun d t => by simp [Crew.listed_apply_self]
    simp [Phase.registration, Stage.registration, *]

theorem Standing.interrupt (h : Standing m (s.Listed w)) (hl : s.Listed w e expires) :
    Standing m.interrupt ((s.setLedger e ((s.ledger e).erase w)).Listed w) := by
  obtain ⟨hr, -, hiff⟩ := h.of_listed hl
  simp only [Standing, Member.interrupt, Mailbox.interrupt, hr]
  intro d t
  rw [Crew.listed_setLedger]
  by_cases hd : d = e <;> simp [hd, hiff, Ledger.mem_erase]

theorem Standing.rouse {listed : EnforcerId → Instant → Prop} (h : Standing m listed) :
    Standing m.rouse listed :=
  h.congr (by simp) (by simp) fun _ _ => Iff.rfl

theorem Standing.receive (h : Standing m (s.Listed w)) (job : JobId) (r : JobResult) :
    Standing (m.receive job r) (s.Listed w) := by
  unfold Member.receive
  split
  · exact h.congr (by rw [Member.registration_rouse]) (by simp) fun _ _ => Iff.rfl
  · exact h

theorem Step.standing (hs : Step execute s a s') (h : ∀ w, Standing (s.members w) (s.Listed w))
    (v : WorkerId) : Standing (s'.members v) (s'.Listed v) := by
  cases hs with
  | @move w _ m f hm =>
    by_cases hv : v = w
    · subst hv
      simpa using hm.standing (h v)
    · simpa [hv, Crew.listed_apply_of_ne s hv] using h v
  | @strike e t w expires ht hl hle =>
    by_cases hv : v = w
    · subst hv
      simpa using (h v).interrupt hl
    · refine (h v).congr (by simp [hv]) (by simp [hv]) fun d u => ?_
      rw [Crew.listed_setMember, Crew.listed_setScan, Crew.listed_setLedger]
      by_cases hd : d = e <;> simp [hd, hv, Ledger.mem_erase, Crew.Listed]
  | @signal e t w ht =>
    by_cases hv : v = w
    · subst hv
      simpa using (h v).rouse
    · simpa [hv] using h v
  | @deliver x queue j isOpen hx =>
    by_cases hv : v = j.worker
    · subst hv
      simpa using (h _).receive j.id (execute j.matcher j.text)
    · simpa [hv] using h v
  | start => exact (h v).congr rfl rfl fun d t => Crew.listed_setEnforcer _ (by simp)
  | stop => exact (h v).congr rfl rfl fun d t => Crew.listed_setEnforcer _ (by simp)
  | tick | scan | scanned | take | exit | crash => exact h v

theorem Crew.new_standing (timeouts intervals : EnforcerId → Duration) (now : Instant)
    (w : WorkerId) :
    Standing ((Crew.new timeouts intervals now).members w)
      ((Crew.new timeouts intervals now).Listed w) :=
  .of_out rfl rfl fun _ _ => List.not_mem_nil

theorem Run.standing (hr : Run execute s history s')
    (h : ∀ w, Standing (s.members w) (s.Listed w)) (w : WorkerId) :
    Standing (s'.members w) (s'.Listed w) := by
  induction hr generalizing w with
  | nil => exact h w
  | step _ hs ih => exact hs.standing ih w

end Grok.Timeout
