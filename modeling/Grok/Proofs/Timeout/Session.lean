import Grok.Proofs.Regex.Limit
import Grok.Timeout.Crew
/-!
Sessions as crews. Whatever a session does, a crew can do in which the worker of the session is the
only one to act, so that what holds of every run of a crew holds of sessions.
-/
namespace Grok.Timeout

/-- The result of a matcher that does not fail. -/
def evaluation (m : Matcher) (text : String) : JobResult := .ok (m.execute text)

/-- What a crew looks like to one worker that uses the first enforcer. -/
structure Stands (s : Crew) (now : Instant) (f : Enforcer) (w : WorkerId) (m : Member) : Prop where
  now : s.now = now
  enforcer : s.enforcers 0 = f
  scan : s.scans 0 = none
  member : s.members w = m
  vacant : ∃ x, ∀ y, x ≤ y → s.executors y = .absent

/-- Whether a crew stands as a session does between calls. -/
def Mirrors (c : Session) (s : Crew) : Prop :=
  c.enforcer.ledger = .empty ∧ ∃ executor,
    Stands s c.now c.enforcer c.worker.id ⟨c.worker.mailbox, executor, c.worker.lastJob, .idle⟩ ∧
    ∀ x, executor = some x → s.executors x = .live [] none true

def Session.stint (c : Session) (m : Matcher) (text : String) (d : Deadline) (expires : Instant) :
    Stint :=
  ⟨⟨0, m, text, d⟩, c.now, expires, c.worker.lastJob + 1⟩

theorem Crew.phase_setMember (s : Crew) (w : WorkerId) (n : Member) :
    ((s.setMember w n).members w).phase = n.phase := by
  rw [members_setMember_self]

variable {c : Session} {s : Crew} {m : Matcher} {text : String} {d : Deadline} {expires : Instant}

theorem Mirrors.exists_register (h : Mirrors c s) (m : Matcher) (text : String)
    (hd : d.expires? = some expires) (hlt : c.now < expires) (he : c.enforcer.isRunning = true) :
    ∃ history s' x, Run evaluation s history s' ∧
      Stands s' c.now c.enforcer c.worker.id
        ⟨(c.submit expires).worker.mailbox, none, c.worker.lastJob + 1,
          .bounded (c.stint m text d expires) (.register x)⟩ ∧
      s'.executors x = .live [] none true := by
  obtain ⟨-, executor, h, hready⟩ := h
  obtain ⟨z, hz⟩ := h.vacant
  have r : Run evaluation s [] s := .nil
  have r := r.step (.move (.call (w := c.worker.id) (c := ⟨0, m, text, d⟩) (by rw [h.member])))
  have r := r.step (.move (.early (Crew.phase_setMember ..) hd (by simpa [h.now] using hlt)))
  have r := r.step (.move (.enlist (Crew.phase_setMember ..) (h.enforcer ▸ he)))
  have r := r.step (.move (.clear (Crew.phase_setMember ..)))
  have r := r.step (.move (.announce (Crew.phase_setMember ..)))
  cases executor with
  | some x =>
    have r := r.step (.move (.reuse (x := x) (Crew.phase_setMember ..) (by simp [h.member])))
    refine ⟨_, _, x, r, ⟨?_, ?_, ?_, ?_, z, ?_⟩, ?_⟩
    · simp [h.now]
    · simp [Crew.apply, h.enforcer]
    · simp [h.scan]
    · simp [h.member, h.now, Session.submit, Session.stint]
    · simpa [Crew.apply] using hz
    · simp [Crew.apply, hready x rfl]
  | none =>
    have r := r.step (.move (.hire (x := z) (Crew.phase_setMember ..) (by simp [h.member])
      (hz z (Nat.le_refl z))))
    refine ⟨_, _, z, r, ⟨?_, ?_, ?_, ?_, z + 1, fun y hy => ?_⟩, ?_⟩
    · simp [h.now]
    · simp [Crew.apply, h.enforcer]
    · simp [h.scan]
    · simp [Member.go, h.member, h.now, Session.submit, Session.stint]
    · have hne : y ≠ z := Nat.ne_of_gt hy
      simpa [Crew.apply, hne] using hz y (Nat.le_of_lt hy)
    · simp [Crew.apply]

variable {now later : Instant} {f : Enforcer} {w : WorkerId} {mailbox : Mailbox JobResult}
  {n : JobId} {t : Stint} {x : ExecutorId}

theorem Stands.exists_wait (h : Stands s now f w ⟨mailbox, none, n, .bounded t (.register x)⟩)
    (ht : t.call.enforcer = 0) (hx : s.executors x = .live [] none true) :
    ∃ history s', Run evaluation s history s' ∧
      Stands s' now { f with ledger := f.ledger.register w t.expires } w
        ⟨mailbox, some x, n, .bounded t (.wait false)⟩ ∧
      s'.executors x = .live [t.order w] none true := by
  obtain ⟨z, hz⟩ := h.vacant
  have r : Run evaluation s [] s := .nil
  have r := r.step (.move (.register (w := w) (t := t) (x := x) (by rw [h.member])
    (by rw [ht, h.scan])))
  have r := r.step (.move (.submit (Crew.phase_setMember ..) hx))
  refine ⟨_, _, r, ⟨h.now, ?_, h.scan, ?_, z, fun y hy => ?_⟩, ?_⟩
  · simp [Crew.apply, ht, Crew.setLedger, Crew.ledger, h.enforcer]
  · simp [Member.go, h.member]
  · have hne : y ≠ x := by
      rintro rfl
      rw [hz y hy] at hx
      cases hx
    simpa [Crew.apply, hne] using hz y hy
  · simp [Crew.apply, hx, Executor.enqueue]

theorem Stands.exists_deliver (h : Stands s now f w ⟨mailbox, some x, n, .bounded t (.wait false)⟩)
    (hx : s.executors x = .live [t.order w] none true) (hm : mailbox.awaited = t.job)
    (hle : now ≤ later) :
    ∃ history s', Run evaluation s history s' ∧
      Stands s' later f w
        ⟨{ mailbox with result := some (evaluation t.call.matcher t.call.text) }, some x, n,
          .bounded t (.wait false)⟩ ∧
      s'.executors x = .live [] none true := by
  obtain ⟨z, hz⟩ := h.vacant
  have r : Run evaluation s [] s := .nil
  have r := r.step (.tick (t := later) (by rw [h.now]; exact hle))
  have r := r.step (.take (x := x) hx)
  have r := r.step (.deliver (x := x) (Crew.executors_setExecutor_self _))
  refine ⟨_, _, r, ⟨rfl, h.enforcer, h.scan, ?_, z, fun y hy => ?_⟩, ?_⟩
  · have ho : t.order w = ⟨w, t.job, t.call.matcher, t.call.text⟩ := rfl
    simp [ho, h.member, Member.receive, Mailbox.deliver, hm, Member.rouse, Member.go]
  · have hne : y ≠ x := by
      rintro rfl
      rw [hz y hy] at hx
      cases hx
    simpa [hne] using hz y hy
  · simp

theorem Stands.exists_finish {r : JobResult}
    (h : Stands s now f w ⟨mailbox, some x, n, .bounded t (.wait false)⟩)
    (ht : t.call.enforcer = 0) (hm : mailbox.result = some r)
    (hl : f.ledger = ⟨[(w, t.expires)]⟩) :
    ∃ history s', Run evaluation s (.answer w (.ofResult r) :: history) s' ∧
      Stands s' now { f with ledger := .empty } w
        ⟨{ mailbox with result := none }, some x, n, .idle⟩ ∧
      s'.executors = s.executors := by
  have hk := Mailbox.collect?_eq_finished_iff.2 ⟨hm, rfl⟩
  have q : Run evaluation s [] s := .nil
  have q := q.step (.move (.wake (w := w) (t := t) (by rw [h.member]) (by rw [h.member, hk])))
  have q := q.step (.move (.leave (Crew.phase_setMember ..) (by rw [ht]; exact h.scan)
    (by simp [ht, Crew.apply, Crew.ledger, h.enforcer, hl, Ledger.contains])))
  have q := q.step (.move (.keep (Crew.phase_setMember ..) (by simp)))
  have q := q.step (.move (.finish (Crew.phase_setMember ..)))
  refine ⟨_, _, q, ⟨?_, ?_, ?_, ?_, ?_⟩, ?_⟩
  · simp [h.now]
  · simp [Crew.apply, ht, Crew.setLedger, Crew.ledger, h.enforcer, hl, Ledger.erase, Ledger.empty]
  · simp [h.scan]
  · simp [Member.go, h.member]
  · simpa [Crew.apply] using h.vacant
  · simp [Crew.apply]

theorem Stands.exists_strike (h : Stands s now f w ⟨mailbox, some x, n, .bounded t (.wait false)⟩)
    (hl : f.ledger = ⟨[(w, t.expires)]⟩) (hle : now ≤ t.expires) :
    ∃ history s', Run evaluation s history s' ∧
      Stands s' t.expires { f with ledger := .empty } w
        ⟨mailbox.interrupt, some x, n, .bounded t (.wait false)⟩ := by
  have hlist : s.Listed w 0 t.expires := by simp [Crew.Listed, Crew.ledger, h.enforcer, hl]
  have q : Run evaluation s [] s := .nil
  have q := q.step (.tick (t := t.expires) (by rw [h.now]; exact hle))
  have q := q.step (.scan (e := 0) (t := t.expires) h.scan (Int.le_refl _))
  have q := q.step (.strike (e := 0) (t := t.expires) (Crew.scans_setScan_self _) hlist
    (Int.le_refl _))
  have q := q.step (.signal (e := 0) (t := t.expires) (w := w) rfl)
  have q := q.step (.scanned (e := 0) (t := t.expires) rfl
    (by simp [Crew.ledger, Crew.setScan, Crew.setMember, Crew.setLedger, Crew.setEnforcer,
      h.enforcer, hl, Ledger.erase, Ledger.overdue]))
  refine ⟨_, _, q, ⟨rfl, ?_, by simp, ?_, ?_⟩⟩
  · simp [Crew.setScan, Crew.setMember, Crew.setLedger, Crew.setEnforcer, Crew.ledger, h.enforcer,
      hl, Ledger.erase, Ledger.empty]
  · simp [h.member, Member.interrupt, Member.rouse, Member.go]
  · simpa [Crew.setScan] using h.vacant

theorem Stands.exists_abandon
    (h : Stands s t.expires f w ⟨mailbox, some x, n, .bounded t (.wait false)⟩)
    (ht : t.call.enforcer = 0) (hm : mailbox.result = none) (hi : mailbox.interrupted = true)
    (hl : f.ledger = .empty) :
    ∃ history s', Run evaluation s
        (.answer w (.timedOut ⟨(t.expires - t.started).toNat⟩) :: history) s' ∧
      Stands s' t.expires f.countAbandoned w ⟨mailbox.clearInterrupt, none, n, .idle⟩ := by
  have hk := Mailbox.collect?_eq_interrupted_iff.2 ⟨hm, hi, rfl⟩
  have q : Run evaluation s [] s := .nil
  have q := q.step (.move (.wake (w := w) (t := t) (by rw [h.member]) (by rw [h.member, hk])))
  have q := q.step (.move (.miss (Crew.phase_setMember ..) (by rw [ht]; exact h.scan)
    (by simp [ht, Crew.apply, Crew.ledger, h.enforcer, hl, Ledger.contains, Ledger.empty])))
  have q := q.step (.move (.unsignal (Crew.phase_setMember ..)))
  have q := q.step (.move (.drop (Crew.phase_setMember ..)))
  obtain ⟨history, s', q, h'⟩ : ∃ history s', Run evaluation s history s' ∧
      Stands s' t.expires f w
        ⟨mailbox.clearInterrupt, none, n, .returned t (.ok .interrupted)⟩ := by
    obtain ⟨z, hz⟩ := h.vacant
    refine ⟨_, _, q, ⟨?_, ?_, ?_, ?_, z, fun y hy => ?_⟩⟩
    · simp [h.now]
    · simp [Crew.apply, h.member, h.enforcer]
    · simp [h.scan]
    · simp [h.member]
    · by_cases hne : y = x
      · subst hne
        simp [Crew.apply, h.member, hz y hy, Executor.close]
      · simp [Crew.apply, h.member, hz y hy, hne]
  have q := q.step (.move (.abandon (w := w) (t := t) (by rw [h'.member])))
  rw [h'.now] at q
  refine ⟨_, _, q, ⟨h'.now, ?_, h'.scan, ?_, h'.vacant⟩⟩
  · simp [Crew.apply, ht, h'.enforcer]
  · simp [Member.go, h'.member]

/-- A worker that does without a monitor settles its call, however long that takes. -/
theorem Stands.exists_settle {call : Call} {o : MatchOutcome} {executor : Option ExecutorId}
    (h : Stands s now f w ⟨mailbox, executor, n, .settled call o⟩) (hle : now ≤ later) :
    ∃ s', Run evaluation s [.answer w o, .tick later] s' ∧
      Stands s' later f w ⟨mailbox, executor, n, .idle⟩ ∧ s'.executors = s.executors := by
  have q : Run evaluation s [] s := .nil
  have q := q.step (.tick (t := later) (by rw [h.now]; exact hle))
  have q := q.step (.move (.settle (w := w) (c := call) (o := o) (by simp [h.member])))
  refine ⟨_, q, ⟨rfl, h.enforcer, h.scan, ?_, h.vacant⟩, rfl⟩
  simp [Member.go, h.member]

theorem Session.runInline_eq (c : Session) (m : Matcher) (text : String) :
    ∃ later, c.now ≤ later ∧
      c.runInline m text = (.ofCaptures (m.execute text), { c with now := later }) := by
  unfold Session.runInline Matcher.execute
  cases m.attempt none text with
  | done captures steps =>
    refine ⟨c.now + steps * Session.stepNanos, ?_, rfl⟩
    exact Int.le_add_of_nonneg_right (Int.mul_nonneg (Int.natCast_nonneg _) (Int.natCast_nonneg _))
  | cutOff => exact ⟨c.now, Int.le_refl _, rfl⟩

/-- The session after a job that ran until `later`. -/
def Session.settled (c : Session) (expires later : Instant) : Session where
  enforcer := { c.enforcer with ledger := .empty }
  worker := (c.submit expires).worker
  now := later

theorem Session.runBounded_of_done {captures : Option (List Capture)} {steps : Nat}
    (hl : c.enforcer.ledger = .empty)
    (ha : m.attempt (some ((expires - c.now).toNat / stepNanos)) text = .done captures steps) :
    c.runBounded m text expires =
      (.ofCaptures captures, [], c.settled expires (c.now + steps * stepNanos)) := by
  have he : (c.submit expires).evaluate m text expires =
      ((c.submit expires).elapse steps).deliver (.ok captures) := by
    simp [evaluate, submit, ha]
  rw [runBounded, he]
  simp [elapse, deliver, submit, settled, wait, leave, hl, Mailbox.deliver, Mailbox.expect,
    Mailbox.collect?, Ledger.contains, Ledger.register, Ledger.erase, Ledger.empty, failureLog,
    MatchOutcome.ofResult]

theorem Session.runBounded_of_cutOff (hl : c.enforcer.ledger = .empty)
    (ha : m.attempt (some ((expires - c.now).toNat / stepNanos)) text = .cutOff) :
    (c.runBounded m text expires).1 = .timedOut ⟨(expires - c.now).toNat⟩ ∧
      (c.runBounded m text expires).2.2 =
        { c.settled expires expires with
          enforcer := (c.settled expires expires).enforcer.countAbandoned } := by
  have he : (c.submit expires).evaluate m text expires = (c.submit expires).scan expires := by
    simp [evaluate, submit, ha]
  rw [runBounded, he]
  simp [scan, submit, settled, wait, leave, abandon, hl, Mailbox.interrupt,
    Mailbox.clearInterrupt, Mailbox.expect, Mailbox.collect?, Ledger.contains, Ledger.register,
    Ledger.erase, Ledger.empty, Ledger.overdue, Ledger.expire]

theorem Mirrors.exists_runBounded (h : Mirrors c s) (m : Matcher) (text : String)
    (hd : d.expires? = some expires) (hlt : c.now < expires) (he : c.enforcer.isRunning = true) :
    ∃ history s', Run evaluation s
        (.answer c.worker.id (c.runBounded m text expires).1 :: history) s' ∧
      Mirrors (c.runBounded m text expires).2.2 s' := by
  have hl := h.1
  obtain ⟨_, _, x, q₁, h₁, hx₁⟩ := h.exists_register m text hd hlt he
  obtain ⟨_, _, q₂, h₂, hx₂⟩ := h₁.exists_wait rfl hx₁
  have hsub : c.enforcer.ledger.register c.worker.id expires = ⟨[(c.worker.id, expires)]⟩ := by
    simp [hl, Ledger.empty, Ledger.register, Ledger.erase]
  cases ha : m.attempt (some ((expires - c.now).toNat / Session.stepNanos)) text with
  | done captures steps =>
    have hle : c.now ≤ c.now + steps * Session.stepNanos :=
      Int.le_add_of_nonneg_right (Int.mul_nonneg (Int.natCast_nonneg _) (Int.natCast_nonneg _))
    obtain ⟨_, _, q₃, h₃, hx₃⟩ := h₂.exists_deliver hx₂ rfl hle
    obtain ⟨_, _, q₄, h₄, hx₄⟩ := h₃.exists_finish rfl rfl hsub
    rw [Session.runBounded_of_done hl ha, ← Matcher.execute_of_attempt ha]
    refine ⟨_, _, (q₁.trans (q₂.trans q₃)).trans q₄, rfl, some x, h₄, ?_⟩
    rintro _ ⟨⟩
    rw [hx₄, hx₃]
  | cutOff =>
    obtain ⟨_, _, q₃, h₃⟩ := h₂.exists_strike hsub (Int.le_of_lt hlt)
    obtain ⟨_, _, q₄, h₄⟩ := h₃.exists_abandon rfl rfl rfl rfl
    obtain ⟨ho, hc⟩ := Session.runBounded_of_cutOff hl ha
    rw [ho, hc]
    exact ⟨_, _, (q₁.trans (q₂.trans q₃)).trans q₄, rfl, none, h₄, by simp⟩

/-- Whatever a call of a session comes to, the call of a worker of a crew can come to. -/
theorem Mirrors.exists_run (h : Mirrors c s) (m : Matcher) (text : String) (d : Deadline) :
    ∃ history s', Run evaluation s
        (.answer c.worker.id (c.run m text d).1 :: history) s' ∧
      Mirrors (c.run m text d).2.2 s' := by
  obtain ⟨hl, executor, hs, hready⟩ := id h
  have settle {n : Member} {o : MatchOutcome} {history : List Act} {later : Instant}
      (q : Run evaluation s history (s.setMember c.worker.id n))
      (hn : n = ⟨c.worker.mailbox, executor, c.worker.lastJob, .settled ⟨0, m, text, d⟩ o⟩)
      (hle : c.now ≤ later) : ∃ history s', Run evaluation s
        (.answer c.worker.id o :: history) s' ∧ Mirrors { c with now := later } s' := by
    have hs' : Stands (s.setMember c.worker.id n) c.now c.enforcer c.worker.id n :=
      ⟨hs.now, hs.enforcer, hs.scan, Crew.members_setMember_self _, hs.vacant⟩
    rw [hn] at hs' q
    obtain ⟨s', q', hs', hx⟩ := hs'.exists_settle hle
    refine ⟨_, s', q.trans q', hl, executor, hs', fun x hx' => ?_⟩
    rw [hx]
    exact hready x hx'
  have q : Run evaluation s [] s := .nil
  have q := q.step (.move (.call (w := c.worker.id) (c := ⟨0, m, text, d⟩) (by rw [hs.member])))
  obtain ⟨later, hle, hinline⟩ := c.runInline_eq m text
  cases hd : d.expires? with
  | none =>
    have q := q.step (.move (.unbounded (Crew.phase_setMember ..) hd))
    rw [Session.run, hd, hinline]
    exact settle (by simpa [Crew.apply] using q) (by simp [hs.member]; rfl) hle
  | some expires =>
    by_cases hlate : expires ≤ c.now
    · have q := q.step (.move (.late (Crew.phase_setMember ..) hd (by simpa [hs.now] using hlate)))
      simp only [Session.run, hd, hlate, if_true]
      exact settle (by simpa [Crew.apply] using q) (by simp [hs.member]; rfl) (Int.le_refl c.now)
    · have hlt : c.now < expires := Int.not_le.1 hlate
      cases he : c.enforcer.isRunning with
      | true =>
        simp only [Session.run, hd, hlate, he]
        exact h.exists_runBounded m text hd hlt he
      | false =>
        have q := q.step (.move (.early (Crew.phase_setMember ..) hd (by simpa [hs.now] using hlt)))
        have q := q.step (.move (.unmonitored (Crew.phase_setMember ..) (hs.enforcer ▸ he)))
        simp only [Session.run, hd, hlate, he, hinline]
        exact settle (by simpa [Crew.apply] using q) (by simp [hs.member]; rfl) hle

theorem Mirrors.exists_start (h : Mirrors c s) :
    ∃ s', Step evaluation s (.start 0) s' ∧ Mirrors c.start.1 s' := by
  obtain ⟨hl, executor, hs, hready⟩ := h
  refine ⟨_, .start, by simpa [Session.start] using hl, executor, ?_, hready⟩
  refine ⟨hs.now, ?_, hs.scan, hs.member, hs.vacant⟩
  simp [Session.start, hs.enforcer]

theorem Mirrors.exists_stop (h : Mirrors c s) :
    ∃ s', Step evaluation s (.stop 0) s' ∧ Mirrors c.stop.1 s' := by
  obtain ⟨hl, executor, hs, hready⟩ := h
  refine ⟨_, .stop, by simpa [Session.stop] using hl, executor, ?_, hready⟩
  refine ⟨hs.now, ?_, hs.scan, hs.member, hs.vacant⟩
  simp [Session.stop, hs.enforcer]

theorem Crew.new_mirrors (timeout interval : Duration) :
    Mirrors (Session.new ((Enforcer.new timeout).withInterval interval))
      (.new (fun _ => timeout) (fun _ => interval) 0) :=
  ⟨rfl, none, ⟨rfl, rfl, rfl, rfl, 0, fun _ _ => rfl⟩, nofun⟩

end Grok.Timeout
