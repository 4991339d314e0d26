import Grok.Proofs.Timeout.Interrupt
/-!
Deliveries. Every stint has a job number of its own, and a mailbox takes the result of the awaited
job alone. So a stint is served by its own job, whichever others are still being evaluated.
-/
namespace Grok.Timeout

/-- What matching comes to in a stint, if it gets to its end. -/
def Stint.result (execute : Matcher → String → JobResult) (t : Stint) : JobResult :=
  execute t.call.matcher t.call.text

/-- Whether the mailbox takes the result of the stint, and no other, to hand it to the worker. -/
def Stage.isAwaiting : Stage → Bool
  | .equip | .register _ | .submit _ | .wait _ => true
  | .clear | .announce | .leave _ | .unsignal _ | .part _ => false

def Stage.isPosted : Stage → Bool
  | .clear | .announce | .equip | .register _ | .submit _ => false
  | .wait _ | .leave _ | .unsignal _ | .part _ => true

def Phase.isAwaiting : Phase → Bool
  | .bounded _ stage => stage.isAwaiting
  | .idle | .called _ | .inTime .. | .returned .. | .settled .. => false

def Phase.isPosted : Phase → Bool
  | .bounded _ stage => stage.isPosted
  | .returned .. => true
  | .idle | .called _ | .inTime .. | .settled .. => false

/-- How a worker stands to the jobs of its that executors still have. -/
structure Orderly (execute : Matcher → String → JobResult) (w : WorkerId) (m : Member)
    (owed : Job → Prop) : Prop where
  fresh : ∀ j, owed j → j.id ≤ m.lastJob
  numbered : ∀ t, m.phase.stint? = some t → t.job = m.lastJob
  own : ∀ t, m.phase.stint? = some t → ∀ j, owed j → j.id = t.job →
    m.phase.isPosted = true ∧ j = t.order w
  awaited : m.phase.isAwaiting = true → m.mailbox.awaited = m.lastJob
  taken : m.phase.isAwaiting = true → ∀ t, m.phase.stint? = some t →
    ∀ r, m.mailbox.result = some r → r = t.result execute
  woken : ∀ t, m.phase.stint? = some t → ∀ r, m.phase.result? = some (.ok (.finished r)) →
    r = t.result execute

/-- Whether a worker has the result of a stint, or has it in its mailbox. -/
def Member.Served (m : Member) (t : Stint) : Prop :=
  m.phase.stint? = some t ∧
    (m.phase.isAwaiting = true ∧ m.mailbox.result.isSome = true ∨
      ∃ r, m.phase.result? = some (.ok (.finished r)))

def Delivers (w : WorkerId) (t : Stint) (s : Crew) (a : Act) : Prop :=
  ∃ x queue isOpen, a = .deliver x ∧ s.executors x = .live queue (some (t.order w)) isOpen

theorem Phase.Alike.isAwaiting {p q : Phase} (h : p.Alike q) : p.isAwaiting = q.isAwaiting := by
  cases h <;> rfl

theorem Phase.Alike.isPosted {p q : Phase} (h : p.Alike q) : p.isPosted = q.isPosted := by
  cases h <;> rfl

@[simp] theorem Member.isAwaiting_rouse (m : Member) :
    m.rouse.phase.isAwaiting = m.phase.isAwaiting :=
  m.alike_rouse.isAwaiting

@[simp] theorem Member.isPosted_rouse (m : Member) : m.rouse.phase.isPosted = m.phase.isPosted :=
  m.alike_rouse.isPosted

@[simp] theorem Executor.jobs_close (x : Executor) : x.close.jobs = x.jobs := by
  cases x <;> rfl

theorem Executor.mem_jobs_enqueue {x : Executor} {i j : Job} (h : i ∈ (x.enqueue j).jobs) :
    i = j ∨ i ∈ x.jobs := by
  cases x with
  | live queue current isOpen =>
    simp only [enqueue, jobs, List.mem_append, List.mem_singleton] at h ⊢
    grind
  | absent | gone => exact .inr h

variable {execute : Matcher → String → JobResult} {s₀ s s' : Crew} {w v : WorkerId} {a : Act}
  {m n : Member} {f : Effect} {history : List Act} {t : Stint} {j : Job} {due : Job → Prop}

theorem Crew.owed_setExecutor {x : ExecutorId} {y : Executor} (h : (s.setExecutor x y).Owed w j)
    (hy : j ∈ y.jobs → j ∈ (s.executors x).jobs) : s.Owed w j := by
  obtain ⟨hw, z, hz⟩ := h
  by_cases hx : z = x
  · subst hx
    exact ⟨hw, z, hy (by simpa using hz)⟩
  · exact ⟨hw, z, by simpa [hx] using hz⟩

theorem Move.owed (hm : Move execute s w a m f) (h : (s.apply w f).Owed v j) :
    s.Owed v j ∨ v = w ∧ ∃ t x, (s.members w).phase = .bounded t (.submit x) ∧
      f = .post x j ∧ j = t.order w := by
  cases hm with
  | hire => exact .inl (Crew.owed_setExecutor h nofun)
  | @drop t hp =>
    cases hx : (s.members w).executor with
    | none =>
      rw [hx] at h
      exact .inl h
    | some x =>
      rw [hx] at h
      exact .inl (Crew.owed_setExecutor h (by simp))
  | @submit t x _ _ _ hp =>
    by_cases hj : j = t.order w
    · subst hj
      exact .inr ⟨h.1.symm, t, x, hp, rfl, rfl⟩
    · refine .inl (Crew.owed_setExecutor h fun hi => ?_)
      exact (Executor.mem_jobs_enqueue hi).resolve_left hj
  | _ => exact .inl h

theorem Orderly.anti (h : Orderly execute w m due) {less : Job → Prop}
    (hl : ∀ j, less j → due j) : Orderly execute w m less where
  fresh j hj := h.fresh j (hl j hj)
  numbered := h.numbered
  own t ht j hj := h.own t ht j (hl j hj)
  awaited := h.awaited
  taken := h.taken
  woken := h.woken

theorem Orderly.rouse (h : Orderly execute w m due) : Orderly execute w m.rouse due where
  fresh j hj := by simpa using h.fresh j hj
  numbered t ht := by simpa using h.numbered t (by simpa using ht)
  own t ht := by simpa using h.own t (by simpa using ht)
  awaited := by simpa using h.awaited
  taken := by simpa using h.taken
  woken := by simpa using h.woken

/-- A move that keeps the number and the result keeps the order. -/
theorem Orderly.advance (h : Orderly execute w m due) (hn : n.lastJob = m.lastJob)
    (hb : n.phase.isAwaiting = true → m.phase.isAwaiting = true ∧ n.mailbox = m.mailbox)
    (hs : ∀ t, n.phase.stint? = some t → m.phase.stint? = some t)
    (hp : m.phase.isPosted = true → n.phase.stint? = none ∨ n.phase.isPosted = true)
    (hr : ∀ r, n.phase.result? = some (.ok (.finished r)) →
      m.phase.result? = some (.ok (.finished r))) : Orderly execute w n due where
  fresh j hj := by
    rw [hn]
    exact h.fresh j hj
  numbered t ht := by
    rw [hn]
    exact h.numbered t (hs t ht)
  own t ht j hj hid := by
    obtain ⟨hm, hj⟩ := h.own t (hs t ht) j hj hid
    refine ⟨(hp hm).resolve_left fun hn => ?_, hj⟩
    rw [hn] at ht
    cases ht
  awaited ha := by
    rw [hn, (hb ha).2]
    exact h.awaited (hb ha).1
  taken ha t ht r := by
    rw [(hb ha).2]
    exact h.taken (hb ha).1 t (hs t ht) r
  woken t ht r hw := h.woken t (hs t ht) r (hr r hw)

theorem Move.orderly (hm : Move execute s w a m f)
    (h : Orderly execute w (s.members w) (s.Owed w)) :
    Orderly execute w m ((s.apply w f).Owed w) := by
  have hle := fun j => hm.owed (v := w) (j := j)
  cases hm with
  | enlist hp hr =>
    -- The number is new: whatever job an executor still has, it is an earlier one.
    have hid {j : Job} (hj : s.Owed w j) : j.id < (s.members w).lastJob + 1 :=
      Nat.lt_succ_of_le (h.fresh j hj)
    constructor
    · intro j hj
      exact Nat.le_of_lt (hid hj)
    · rintro _ ⟨⟩
      rfl
    · rintro _ ⟨⟩ j hj he
      exact absurd he (Nat.ne_of_lt (hid hj))
    · intro ha
      cases ha
    · intro ha
      cases ha
    · intro _ _ _ hr
      cases hr
  | @announce t hp =>
    have ht : (s.members w).phase.stint? = some t := by rw [hp]; rfl
    constructor
    · exact h.fresh
    · rintro _ ⟨⟩
      exact h.numbered t ht
    · rintro _ ⟨⟩ j hj he
      have hposted := (h.own t ht j hj he).1
      rw [hp] at hposted
      cases hposted
    · intro _
      exact h.numbered t ht
    · intro _ _ _ _ hr
      cases hr
    · intro _ _ _ hr
      cases hr
  | @submit t x _ _ _ hp =>
    have ht : (s.members w).phase.stint? = some t := by rw [hp]; rfl
    have ha : (s.members w).phase.isAwaiting = true := by rw [hp]; rfl
    constructor
    · intro j hj
      obtain hj | ⟨-, u, y, hu, -, rfl⟩ := hle j hj
      · exact h.fresh j hj
      · exact Nat.le_of_eq (h.numbered u (by rw [hu]; rfl))
    · rintro _ ⟨⟩
      exact h.numbered t ht
    · rintro _ ⟨⟩ j hj he
      obtain hj | ⟨-, u, y, hu, -, rfl⟩ := hle j hj
      · exact ⟨rfl, (h.own t ht j hj he).2⟩
      · rw [hp] at hu
        cases hu
        exact ⟨rfl, rfl⟩
    · intro _
      exact h.awaited ha
    · rintro - _ ⟨⟩
      exact h.taken ha t ht
    · intro _ _ _ hr
      cases hr
  | @wake t k mailbox hp hk =>
    have ht : (s.members w).phase.stint? = some t := by rw [hp]; rfl
    have ha : (s.members w).phase.isAwaiting = true := by rw [hp]; rfl
    constructor
    · exact h.fresh
    · rintro _ ⟨⟩
      exact h.numbered t ht
    · rintro _ ⟨⟩ j hj he
      exact ⟨rfl, (h.own t ht j hj he).2⟩
    · intro hwait
      cases hwait
    · intro hwait
      cases hwait
    · rintro _ ⟨⟩ r ⟨⟩
      exact h.taken ha t ht r (Mailbox.collect?_eq_finished_iff.1 hk).1
  | _ =>
    refine .advance (h.anti fun j hj => (hle j hj).resolve_right ?_) rfl ?_ ?_ ?_ ?_
    · rintro ⟨-, _, _, -, hf, -⟩
      cases hf
    all_goals
      simp [Phase.stint?, Phase.isAwaiting, Phase.isPosted, Phase.result?, Stage.isAwaiting,
        Stage.isPosted, *]

/-- The awaited job is the one that the worker has submitted in its stint. -/
theorem Orderly.own_of_awaited (h : Orderly execute w m due) (hj : due j)
    (ha : m.phase.isAwaiting = true) (ht : m.phase.stint? = some t)
    (hid : m.mailbox.awaited = j.id) : m.phase.isPosted = true ∧ j = t.order w :=
  h.own t ht j hj (by rw [← hid, h.awaited ha, h.numbered t ht])

theorem Orderly.receive (h : Orderly execute j.worker m due) (hj : due j) :
    Orderly execute j.worker (m.receive j.id (execute j.matcher j.text)) due := by
  unfold Member.receive
  split
  · next hid =>
    refine .rouse ⟨h.fresh, h.numbered, h.own, ?_, ?_, h.woken⟩
    · simpa using h.awaited
    · intro ha t ht r hr
      have ho := (h.own_of_awaited hj ha ht hid).2
      rw [Mailbox.deliver, if_pos hid] at hr
      cases hr
      rw [ho]
      rfl
  · exact h

theorem Step.owed (hs : Step execute s a s') (hw : a.worker? ≠ some w) (h : s'.Owed w j) :
    s.Owed w j := by
  cases hs with
  | move hm =>
    refine (hm.owed h).resolve_right fun hv => hw ?_
    rw [hv.1, hm.worker?]
  | take hx => exact Crew.owed_setExecutor h (by simp [hx, Executor.jobs])
  | deliver hx =>
    apply Crew.owed_setExecutor h
    rw [hx]
    exact List.mem_cons_of_mem _
  | exit | crash => exact Crew.owed_setExecutor h nofun
  | start | stop | scan | scanned | tick | strike | signal => exact h

theorem Step.orderly (hs : Step execute s a s')
    (h : ∀ w, Orderly execute w (s.members w) (s.Owed w)) (w : WorkerId) :
    Orderly execute w (s'.members w) (s'.Owed w) := by
  obtain ⟨m, f, hm, rfl⟩ | ⟨hw, he⟩ := hs.member w
  · rw [Crew.members_setMember_self]
    exact hm.orderly (h w)
  · refine .anti ?_ fun j => hs.owed hw
    obtain he | he | he | ⟨x, queue, j, isOpen, -, hx, rfl, he⟩ := he
    · rw [he]
      exact h w
    · rw [he]
      exact ⟨(h w).fresh, (h w).numbered, (h w).own, (h w).awaited, (h w).taken, (h w).woken⟩
    · rw [he]
      exact (h w).rouse
    · rw [he]
      apply (h j.worker).receive ⟨rfl, x, _⟩
      rw [hx]
      exact List.mem_cons_self

theorem Crew.new_orderly (execute : Matcher → String → JobResult)
    (timeouts intervals : EnforcerId → Duration) (now : Instant) (w : WorkerId) :
    Orderly execute w ((Crew.new timeouts intervals now).members w)
      ((Crew.new timeouts intervals now).Owed w) where
  fresh j hj := by
    obtain ⟨-, x, hx⟩ := hj
    cases hx
  numbered := nofun
  own := nofun
  awaited := nofun
  taken := nofun
  woken := nofun

theorem Run.orderly (hr : Run execute s₀ history s)
    (h : ∀ w, Orderly execute w (s₀.members w) (s₀.Owed w)) (w : WorkerId) :
    Orderly execute w (s.members w) (s.Owed w) := by
  induction hr generalizing w with
  | nil => exact h w
  | step _ hs ih => exact hs.orderly ih w

theorem Move.served (hm : Move execute s w a m f) (h : m.Served t) :
    (s.members w).Served t ∧ ∀ c, a ≠ .call w c := by
  cases hm with
  | @wake t k mailbox hp hk =>
    obtain ⟨⟨⟩, ha | ⟨r, hr⟩⟩ := h
    · cases ha.1
    · cases hr
      refine ⟨⟨by rw [hp]; rfl, .inl ⟨by rw [hp]; rfl, ?_⟩⟩, nofun⟩
      rw [(Mailbox.collect?_eq_finished_iff.1 hk).1]
      rfl
  | _ =>
    simp_all [Member.Served, Phase.stint?, Phase.isAwaiting, Phase.result?, Stage.isAwaiting,
      Mailbox.expect]

theorem Phase.isAwaiting_eq {p : Phase} (h : p.isAwaiting = true) :
    ∃ t stage, p = .bounded t stage := by
  cases p with
  | bounded t stage => exact ⟨t, stage, rfl⟩
  | idle | called | inTime | returned | settled => cases h

/-- One step back from the result of a stint there is the result still, or it comes in. -/
theorem Step.served (hs : Step execute s a s')
    (ho : Orderly execute w (s.members w) (s.Owed w)) (h : (s'.members w).Served t) :
    ((s.members w).Served t ∧ ∀ c, a ≠ .call w c) ∨
      Delivers w t s a ∧ ∃ stage, (s.members w).phase = .bounded t stage := by
  obtain ⟨m, f, hm, rfl⟩ | ⟨hw, he⟩ := hs.member w
  · rw [Crew.members_setMember_self] at h
    exact .inl (hm.served h)
  · have ha : ∀ c, a ≠ .call w c := by
      rintro c rfl
      exact hw rfl
    obtain he | he | he | ⟨x, queue, j, isOpen, rfl, hx, rfl, he⟩ := he
    · rw [he] at h
      exact .inl ⟨h, ha⟩
    · rw [he] at h
      exact .inl ⟨h, ha⟩
    · rw [he] at h
      exact .inl ⟨by simpa [Member.Served] using h, ha⟩
    · rw [he, Member.receive] at h
      split at h
      · next hid =>
        obtain ⟨ht, ⟨hwait, -⟩ | hr⟩ := h
        · simp only [Member.stint?_rouse, Member.isAwaiting_rouse] at ht hwait
          obtain ⟨u, stage, hp⟩ := Phase.isAwaiting_eq hwait
          obtain rfl : u = t := by simpa [hp, Phase.stint?] using ht
          have hj : s.Owed j.worker j := ⟨rfl, x, by rw [hx]; exact List.mem_cons_self⟩
          have ho := (ho.own_of_awaited hj hwait ht hid).2
          exact .inr ⟨⟨x, queue, isOpen, rfl, by rw [hx, ← ho]⟩, stage, hp⟩
        · simp only [Member.stint?_rouse, Member.result?_rouse] at ht hr
          exact .inl ⟨⟨ht, .inr hr⟩, ha⟩
      · exact .inl ⟨h, ha⟩

theorem Run.within_delivers (hr : Run execute s₀ history s)
    (h₀ : ∀ w, Orderly execute w (s₀.members w) (s₀.Owed w))
    (hn : ¬ (s₀.members w).Served t) (h : (s.members w).Served t) :
    Within execute s₀ w t (Delivers w t) history s := by
  induction hr with
  | nil => exact absurd h hn
  | step hr hs ih =>
    obtain ⟨h, ha⟩ | ⟨h, stage, hp⟩ := hs.served (hr.orderly h₀ w) h
    · exact .later (ih h) hs ha
    · exact .now hr hs hp h

theorem Member.Served.receive (h : m.Served t) (job : JobId) (r : JobResult) :
    (m.receive job r).Served t := by
  unfold Member.receive
  split
  · next hid =>
    refine ⟨by simpa using h.1, h.2.imp (fun ha => ⟨by simpa using ha.1, ?_⟩) fun hr => ?_⟩
    · simp [Mailbox.deliver, hid]
    · simpa using hr
  · exact h

theorem Move.keeps (hm : Move execute s w a m f) (ha : ∀ o, a ≠ .answer w o)
    (h : (s.members w).Served t) (hp : (s.members w).phase.isPosted = true) :
    m.Served t ∧ m.phase.isPosted = true := by
  obtain ⟨ht, h⟩ := h
  cases hm with
  | @wake _ k mailbox hp hk =>
    rw [hp] at ht
    obtain ⟨-, h⟩ | ⟨r, hr⟩ := h
    · cases k with
      | finished r => exact ⟨⟨ht, .inr ⟨r, rfl⟩⟩, rfl⟩
      | interrupted =>
        rw [(Mailbox.collect?_eq_interrupted_iff.1 hk).1] at h
        cases h
    · rw [hp] at hr
      cases hr
  | settle | finish | abandon | fail => exact absurd rfl (ha _)
  | sleep hq | stir hq | leave hq | miss hq | unsignal hq | keep hq | drop hq =>
    rw [hq] at ht h
    exact ⟨⟨ht, h⟩, rfl⟩
  | call hq | unbounded hq | late hq | early hq | unmonitored hq | enlist hq | clear hq
    | announce hq | reuse hq | hire hq | lack hq | register hq | submit hq | refuse hq =>
    rw [hq] at hp
    cases hp

/-- What a worker that waits has in its mailbox is not lost, and no interrupt comes before it. -/
theorem Step.keeps (hs : Step execute s a s') (ha : ∀ o, a ≠ .answer w o)
    (h : (s.members w).Served t) (hp : (s.members w).phase.isPosted = true) :
    (s'.members w).Served t ∧ (s'.members w).phase.isPosted = true := by
  obtain ⟨m, f, hm, rfl⟩ | ⟨-, he | he | he | ⟨x, queue, j, isOpen, -, -, -, he⟩⟩ := hs.member w
  · rw [Crew.members_setMember_self]
    exact hm.keeps ha h hp
  · rw [he]
    exact ⟨h, hp⟩
  · rw [he]
    exact ⟨h, hp⟩
  · rw [he]
    exact ⟨by simpa [Member.Served] using h, by simpa using hp⟩
  · rw [he]
    exact ⟨h.receive _ _, by rwa [(Member.alike_receive ..).isPosted]⟩

theorem Run.keeps (hr : Run execute s₀ history s) (ha : ∀ o, .answer w o ∉ history)
    (h : (s₀.members w).Served t) (hp : (s₀.members w).phase.isPosted = true) :
    (s.members w).Served t ∧ (s.members w).phase.isPosted = true := by
  induction hr with
  | nil => exact ⟨h, hp⟩
  | step _ hs ih =>
    obtain ⟨h, hp⟩ := ih fun o ho => ha o (List.mem_cons_of_mem _ ho)
    refine hs.keeps ?_ h hp
    rintro o rfl
    exact ha o List.mem_cons_self

end Grok.Timeout
