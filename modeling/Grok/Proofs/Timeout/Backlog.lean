import Grok.Proofs.Timeout.Transparency
/-!
What executors have left to do. Main statement: no job ever waits behind another one. A worker that
submits a job finds its executor with all earlier jobs done, and an executor that was given up for
an interrupt gets no job any more, so that an evaluation that does not end holds up nothing.
-/
namespace Grok.Timeout

/-- An executor gets a job, behind those that it has. -/
def Posts (x : ExecutorId) (j : Job) (s s' : Crew) : Prop :=
  (s'.executors x).jobs = (s.executors x).jobs ++ [j]

/-- All that a step can do to an executor. -/
inductive Worked (s : Crew) (a : Act) (s' : Crew) (x : ExecutorId) : Executor → Executor → Prop
  | rest {y} : Worked s a s' x y y
  | hire : Worked s a s' x .absent (.live [] none true)
  | close {y w} : (s.members w).Holds x → ¬ (s'.members w).Holds x → Worked s a s' x y y.close
  | post {w t queue current isOpen} : a = .work w → (s.members w).phase = .bounded t (.submit x) →
      Worked s a s' x (.live queue current isOpen) (.live (queue ++ [t.order w]) current isOpen)
  | take {j queue isOpen} :
      Worked s a s' x (.live (j :: queue) none isOpen) (.live queue (some j) isOpen)
  | deliver {j queue isOpen} : a = .deliver x →
      Worked s a s' x (.live queue (some j) isOpen) (.live queue none isOpen)
  | stop {queue current isOpen} : Worked s a s' x (.live queue current isOpen) .gone

/-- An executor that somebody can have: its queue is open, or its thread has ended by itself. -/
def Executor.isKept : Executor → Bool
  | .live _ _ isOpen => isOpen
  | .gone => true
  | .absent => false

/-- What is left of a job by a worker that stopped waiting for it. -/
def StintResult.leftover (r : StintResult) (j : Job) : List Job :=
  match r with
  | .ok .interrupted => [j]
  | .ok (.finished _) | .error _ => []

/-- The job that may still be undone, given what is in the mailbox: that of a stint whose result is
not there yet, or which was given up. -/
def Phase.pending (w : WorkerId) (result : Option JobResult) : Phase → List Job
  | .bounded t (.wait _) => result.elim [t.order w] fun _ => []
  | .bounded t (.leave r) | .bounded t (.unsignal r) | .bounded t (.part r) =>
    r.leftover (t.order w)
  | _ => []

def Member.pending (m : Member) (w : WorkerId) : List Job := m.phase.pending w m.mailbox.result

/-- Whoever has an executor has it alone, and nobody has one whose queue is closed. -/
structure Assigned (s : Crew) : Prop where
  kept : ∀ w x, (s.members w).Holds x → (s.executors x).isKept = true
  alone : ∀ w v x, (s.members w).Holds x → (s.members v).Holds x → w = v

/-- How a worker stands to what executors have left to do. -/
structure Tended (w : WorkerId) (m : Member) (jobs : ExecutorId → List Job) : Prop where
  fresh : m.phase.isAwaiting = true → m.phase.isPosted = false → m.mailbox.result = none
  manned : m.phase.isAwaiting = true → m.phase.isPosted = true → m.executor.isSome = true
  own : ∀ x, m.Holds x → jobs x <:+ m.pending w
  place : ∀ j ∈ m.pending w, ∀ x, j ∈ jobs x → m.executor = some x

/-- Nobody will give the executor a job: whoever has it has woken up for an interrupt and is about
to give it up. -/
def Crew.Forsaken (s : Crew) (x : ExecutorId) : Prop :=
  s.executors x ≠ .absent ∧ ∀ v, (s.members v).Holds x →
    (s.members v).phase.isBounded = true ∧ (s.members v).phase.result? = some (.ok .interrupted)

variable {execute : Matcher → String → JobResult} {s₀ s s' : Crew} {w v : WorkerId} {a : Act}
  {m n : Member} {f : Effect} {history late : List Act} {x z : ExecutorId} {y y' : Executor}
  {t : Stint} {i j : Job} {due due' : ExecutorId → List Job}
  {timeouts intervals : EnforcerId → Duration} {now : Instant}

/-! ### One executor in one step -/

theorem Worked.setExecutor (hz : x = z → Worked s a s' x (s.executors z) y) :
    Worked s a s' x (s.executors x) ((s.setExecutor z y).executors x) := by
  by_cases hx : x = z
  · subst hx
    simpa using hz rfl
  · rw [Crew.executors_setExecutor_of_ne _ hx]
    exact .rest

theorem Move.worked (hm : Move execute s w a m f) (x : ExecutorId) :
    Worked s a ((s.apply w f).setMember w m) x (s.executors x) ((s.apply w f).executors x) := by
  cases hm with
  | @hire _ z hp he ha =>
    apply Worked.setExecutor
    intro _
    rw [ha]
    exact .hire
  | @submit t z queue current isOpen hp hz =>
    apply Worked.setExecutor
    rintro rfl
    rw [hz]
    exact .post rfl hp
  | @drop t hp =>
    cases hx : (s.members w).executor with
    | none => exact .rest
    | some z =>
      apply Worked.setExecutor
      rintro rfl
      refine .close (w := w) (.inl hx) ?_
      rw [Crew.members_setMember_self]
      rintro (h | ⟨u, h | h⟩) <;> cases h
  | _ => exact .rest

theorem Step.worked (hs : Step execute s a s') (x : ExecutorId) :
    Worked s a s' x (s.executors x) (s'.executors x) := by
  cases hs with
  | move hm => exact hm.worked x
  | take hz =>
    apply Worked.setExecutor
    intro _
    rw [hz]
    exact .take
  | deliver hz =>
    apply Worked.setExecutor
    rintro rfl
    rw [hz]
    exact .deliver rfl
  | exit hz | crash hz =>
    apply Worked.setExecutor
    intro _
    rw [hz]
    exact .stop
  | tick | start | stop | scan | strike | signal | scanned => exact .rest

theorem Executor.isKept_of_isReady (h : y.isReady = true) : y.isKept = true := by
  cases y with
  | live => exact h
  | absent | gone => cases h

theorem Executor.ne_absent_of_isKept (h : y.isKept = true) : y ≠ .absent := by
  rintro rfl
  cases h

theorem Worked.isKept (h : Worked s a s' x y y') (hy : y.isKept = true) :
    y'.isKept = true ∨ ∃ w, (s.members w).Holds x ∧ ¬ (s'.members w).Holds x := by
  cases h with
  | close hw hn => exact .inr ⟨_, hw, hn⟩
  | hire => cases hy
  | stop => exact .inl rfl
  | rest | post | take | deliver => exact .inl hy

theorem Worked.ne_absent (h : Worked s a s' x y y') (hy : y ≠ .absent) : y' ≠ .absent := by
  cases h with
  | close => cases y <;> simp_all [Executor.close]
  | rest => exact hy
  | hire | post | take | deliver | stop => nofun

theorem Worked.eq_gone (h : Worked s a s' x .gone y') : y' = .gone := by
  cases h <;> rfl

/-- Jobs only go, in their order, but for the one that the worker with the executor submits. -/
theorem Worked.jobs (h : Worked s a s' x y y') :
    y'.jobs <:+ y.jobs ∨ ∃ w t, a = .work w ∧ (s.members w).phase = .bounded t (.submit x) ∧
      y'.jobs = y.jobs ++ [t.order w] := by
  cases h with
  | post ha hp => exact .inr ⟨_, _, ha, hp, by simp [Executor.jobs]⟩
  | close => exact .inl (by simp)
  | hire | stop => exact .inl List.nil_suffix
  | rest | take => exact .inl (List.suffix_refl _)
  | deliver => exact .inl (List.suffix_cons ..)

/-- A job that an executor no longer has was done, or went with the executor. -/
theorem Worked.delivered (h : Worked s a s' x y y') (hi : i ∈ y.jobs) (hn : i ∉ y'.jobs)
    (hy : y' ≠ .gone) : a = .deliver x ∧ ∃ queue isOpen, y = .live queue (some i) isOpen := by
  cases h with
  | deliver ha =>
    obtain rfl | hi := List.mem_cons.1 hi
    · exact ⟨ha, _, _, rfl⟩
    · exact absurd hi hn
  | post => simp_all [Executor.jobs]
  | close => simp_all
  | hire => cases hi
  | stop => exact absurd rfl hy
  | rest | take => exact absurd hi hn

/-! ### Who has an executor -/

theorem Step.assigned (hs : Step execute s a s') (h : Assigned s) : Assigned s' where
  kept w x hw := by
    obtain hw' | ⟨-, -, hr⟩ := hs.holds hw
    · obtain hk | ⟨v, hv, hn⟩ := (hs.worked x).isKept (h.kept w x hw')
      · exact hk
      · rw [h.alone v w x hv hw'] at hn
        exact absurd hw hn
    · exact Executor.isKept_of_isReady hr
  alone := hs.alone (fun w x hw => Executor.ne_absent_of_isKept (h.kept w x hw)) h.alone

theorem Crew.new_assigned (timeouts intervals : EnforcerId → Duration) (now : Instant) :
    Assigned (.new timeouts intervals now) where
  kept w x h := by
    obtain h | ⟨t, h | h⟩ := h <;> cases h
  alone w v x h := by
    obtain h | ⟨t, h | h⟩ := h <;> cases h

theorem Run.assigned (hr : Run execute s₀ history s) (h : Assigned s₀) : Assigned s := by
  induction hr with
  | nil => exact h
  | step _ hs ih => exact hs.assigned ih

/-! ### What an executor has left to do -/

/-- As long as the same job is undone, it is where it was. -/
theorem Tended.congr (h : Tended w m due)
    (hf : n.phase.isAwaiting = true → n.phase.isPosted = false → n.mailbox.result = none)
    (hm : n.phase.isAwaiting = true → n.phase.isPosted = true → n.executor.isSome = true)
    (hp : n.pending w = m.pending w) (he : n.pending w ≠ [] → n.executor = m.executor)
    (hh : ∀ x, n.Holds x → due' x = [] ∨ due' x <:+ due x ∧ m.Holds x)
    (hd : ∀ x, ∀ j ∈ n.pending w, j ∈ due' x → j ∈ due x) : Tended w n due' where
  fresh := hf
  manned := hm
  own x hx := by
    obtain hx | ⟨hx, hm⟩ := hh x hx
    · rw [hx]
      exact List.nil_suffix
    · rw [hp]
      exact hx.trans (h.own x hm)
  place j hj x hx := by
    rw [he (List.ne_nil_of_mem hj)]
    exact h.place j (hp ▸ hj) x (hd x j hj hx)

theorem Tended.settle (h : Tended w m due) (ha : n.phase.isAwaiting = false)
    (hp : n.pending w = m.pending w) (he : n.pending w ≠ [] → n.executor = m.executor)
    (hh : ∀ x, n.Holds x → m.Holds x) : Tended w n due := by
  have hn : n.phase.isAwaiting ≠ true := by simp [ha]
  exact h.congr (fun hb => absurd hb hn) (fun hb => absurd hb hn) hp he
    (fun x hx => .inr ⟨List.suffix_refl _, hh x hx⟩) fun _ _ _ hj => hj

theorem Tended.jobs_eq_nil (h : Tended w m due) (hp : m.phase = .bounded t (.submit x)) :
    due x = [] := by
  simpa [Member.pending, Phase.pending, hp] using h.own x (.inr ⟨t, .inr hp⟩)

theorem Move.tended (hm : Move execute s w a m f)
    (ho : Orderly execute w (s.members w) (s.Owed w))
    (h : Tended w (s.members w) fun x => (s.executors x).jobs) :
    Tended w m fun x => ((s.apply w f).executors x).jobs := by
  have hholds := fun x => hm.holds (x := x)
  have holds (hf : ∀ x, f ≠ .hire x) (x : ExecutorId) (hx : m.Holds x) : (s.members w).Holds x :=
    (hholds x hx).resolve_right fun h => hf x h.1
  cases hm with
  | @submit t x queue current isOpen hp hx =>
    have hresult : (s.members w).mailbox.result = none :=
      h.fresh (by rw [hp]; rfl) (by rw [hp]; rfl)
    have hidle : (s.executors x).jobs = [] := h.jobs_eq_nil hp
    have hjobs : (((s.apply w (.post x (t.order w))).executors x).jobs) = [t.order w] := by
      rw [hx] at hidle
      obtain ⟨rfl, rfl⟩ : current = none ∧ queue = [] := by simpa [Executor.jobs] using hidle
      rw [Crew.apply, Crew.executors_setExecutor_self, hx]
      rfl
    refine ⟨fun _ hb => (by cases hb), fun _ _ => rfl, ?_, ?_⟩
    · rintro z (⟨⟨⟩⟩ | ⟨u, hu | hu⟩)
      · rw [hjobs]
        simp [Member.pending, Phase.pending, hresult]
      · cases hu
      · cases hu
    · intro j hj z hz
      obtain rfl : j = t.order w := by simpa [Member.pending, Phase.pending, hresult] using hj
      by_cases hzx : z = x
      · rw [hzx]
      · -- The number of the stint is new, so that no executor had the job before.
        have hz : t.order w ∈ (s.executors z).jobs := by simpa [Crew.apply, hzx] using hz
        have hposted := (ho.own t (by rw [hp]; rfl) _ ⟨rfl, z, hz⟩ rfl).1
        rw [hp] at hposted
        cases hposted
  | @wake t k mailbox hp hk =>
    refine h.settle rfl ?_ (fun _ => rfl) (holds (by simp))
    cases k with
    | finished r =>
      simp [Member.pending, Phase.pending, StintResult.leftover, hp,
        (Mailbox.collect?_eq_finished_iff.1 hk).1]
    | interrupted =>
      simp [Member.pending, Phase.pending, StintResult.leftover, hp,
        (Mailbox.collect?_eq_interrupted_iff.1 hk).1]
  | @hire t z hp he ha =>
    refine h.congr ?_ (fun _ hb => by cases hb) ?_ (absurd rfl) (fun x hx => ?_)
      fun _ _ hj => absurd hj List.not_mem_nil
    · intro _ _
      exact h.fresh (by rw [hp]; rfl) (by rw [hp]; rfl)
    · simp [Member.pending, Phase.pending, hp]
    · by_cases hxz : x = z
      · subst hxz
        exact .inl (by simp [Crew.apply, Executor.jobs])
      · refine .inr ⟨by simp [Crew.apply, hxz], (hholds x hx).resolve_right ?_⟩
        rintro ⟨⟨⟩, -⟩
        exact hxz rfl
  | drop hp =>
    refine ⟨fun hb => (by cases hb), fun hb => (by cases hb), ?_,
      fun _ hj => absurd hj List.not_mem_nil⟩
    rintro x (h | ⟨u, h | h⟩) <;> cases h
  | @keep t r hp hr =>
    refine h.settle rfl ?_ (absurd rfl) (holds (by simp))
    obtain _ | _ | _ := r
    · simp [Member.pending, Phase.pending, StintResult.leftover, hp]
    · simp [Member.pending, Phase.pending, StintResult.leftover, hp]
    · exact absurd rfl hr
  | _ =>
    refine h.congr ?_ ?_ ?_ ?_ (fun x hx => .inr ⟨List.suffix_refl _, holds (by simp) x hx⟩)
      fun _ _ _ hj => hj
    · have hf := h.fresh
      simp_all [Phase.isAwaiting, Phase.isPosted, Stage.isAwaiting, Stage.isPosted,
        Mailbox.expect]
    · have hf := h.manned
      simp_all [Phase.isAwaiting, Phase.isPosted, Stage.isAwaiting, Stage.isPosted]
    · simp_all [Member.pending, Phase.pending, StintResult.leftover]
    · simp_all [Member.pending, Phase.pending]

theorem Phase.Alike.pending {p q : Phase} (h : p.Alike q) {r : Option JobResult} :
    p.pending w r = q.pending w r := by
  cases h <;> rfl

theorem StintResult.eq_of_mem_leftover {r : StintResult} (h : i ∈ r.leftover j) : i = j := by
  obtain _ | _ | _ := r
  · cases h
  · cases h
  · exact List.mem_singleton.1 h

theorem Phase.Alike.isBounded {p q : Phase} (h : p.Alike q) : p.isBounded = q.isBounded := by
  cases h <;> rfl

theorem Phase.exists_wait {p : Phase} (ha : p.isAwaiting = true) (hp : p.isPosted = true) :
    ∃ t asleep, p = .bounded t (.wait asleep) := by
  obtain ⟨t, stage, rfl⟩ := p.isAwaiting_eq ha
  cases stage with
  | wait asleep => exact ⟨t, asleep, rfl⟩
  | clear | announce | equip | register | submit => cases hp
  | leave | unsignal | part => cases ha

theorem Phase.pending_congr {p : Phase} (h : p.isAwaiting = false) {r r' : Option JobResult} :
    p.pending w r = p.pending w r' := by
  cases p with
  | bounded t stage =>
    cases stage with
    | wait => cases h
    | clear | announce | equip | register | submit | leave | unsignal | part => rfl
  | idle | called | inTime | returned | settled => rfl

theorem Member.worker_of_mem_pending (h : j ∈ m.pending w) : j.worker = w := by
  unfold pending Phase.pending at h
  split at h
  · cases hr : m.mailbox.result with
    | none =>
      rw [hr] at h
      rw [List.mem_singleton.1 h]
      rfl
    | some r =>
      rw [hr] at h
      cases h
  · rw [StintResult.eq_of_mem_leftover h]
    rfl
  · rw [StintResult.eq_of_mem_leftover h]
    rfl
  · rw [StintResult.eq_of_mem_leftover h]
    rfl
  · cases h

theorem Tended.alike (h : Tended w m due) (hr : n.mailbox.result = m.mailbox.result)
    (he : n.executor = m.executor) (hp : n.phase.Alike m.phase) : Tended w n due := by
  refine h.congr ?_ ?_ ?_ (fun _ => he)
    (fun x hx => .inr ⟨List.suffix_refl _, hx.alike he hp⟩) fun _ _ _ hj => hj
  · rw [hp.isAwaiting, hp.isPosted, hr]
    exact h.fresh
  · rw [hp.isAwaiting, hp.isPosted, he]
    exact h.manned
  · rw [Member.pending, Member.pending, hr, hp.pending]

/-- What others do leaves a worker no more to wait for. -/
theorem Step.tended_of_ne (hs : Step execute s a s') (hw : a.worker? ≠ some w) (ha : Assigned s)
    (h : Tended w (s.members w) fun x => (s.executors x).jobs) :
    Tended w (s.members w) fun x => (s'.executors x).jobs := by
  refine h.congr h.fresh h.manned rfl (fun _ => rfl) (fun x hx => .inr ⟨?_, hx⟩)
    fun x j hj hx => ?_
  · obtain hsuffix | ⟨v, t, rfl, hp, -⟩ := (hs.worked x).jobs
    · exact hsuffix
    · rw [ha.alone w v x hx (.inr ⟨t, .inr hp⟩)] at hw
      exact absurd rfl hw
  · obtain hsuffix | ⟨v, t, rfl, -, hjobs⟩ := (hs.worked x).jobs
    · exact hsuffix.subset hx
    · rw [hjobs, List.mem_append, List.mem_singleton] at hx
      refine hx.resolve_right ?_
      rintro rfl
      exact hw (congrArg some (Member.worker_of_mem_pending hj))

/-- With the result of its job in the mailbox, nothing is left to do for a worker. -/
theorem Tended.receive (h : Tended w m due) {r : JobResult}
    (hposted : m.phase.isAwaiting = true → m.mailbox.awaited = j.id → m.phase.isPosted = true)
    (hidle : m.phase.isAwaiting = true → m.mailbox.awaited = j.id →
      ∀ x, m.executor = some x → due x = []) : Tended w (m.receive j.id r) due := by
  unfold Member.receive
  split
  · next hid =>
    apply Tended.alike (m := { m with mailbox := m.mailbox.deliver j.id r }) _
      (by rw [Member.mailbox_rouse]) (Member.executor_rouse _) (Member.alike_rouse _)
    cases ha : m.phase.isAwaiting with
    | true =>
      obtain ⟨t, asleep, hp⟩ := Phase.exists_wait ha (hposted ha hid)
      have hpending : Member.pending { m with mailbox := m.mailbox.deliver j.id r } w = [] := by
        simp [Member.pending, Phase.pending, hp, Mailbox.deliver, hid]
      refine ⟨fun _ hn => ?_, h.manned, ?_, ?_⟩
      · rw [hposted ha hid] at hn
        cases hn
      · rintro x (hx | ⟨u, hx | hx⟩)
        · rw [hidle ha hid x hx]
          exact List.nil_suffix
        · cases hp.symm.trans hx
        · cases hp.symm.trans hx
      · rw [hpending]
        exact fun _ hj => absurd hj List.not_mem_nil
    | false => exact h.settle ha (Phase.pending_congr ha) (fun _ => rfl) fun _ hx => hx
  · exact h

theorem Step.executor_of_deliver {queue : List Job} {isOpen : Bool}
    (hs : Step execute s (.deliver x) s') (hx : s.executors x = .live queue (some j) isOpen) :
    s'.executors x = .live queue none isOpen := by
  cases hs with
  | deliver hx' =>
    rw [hx] at hx'
    cases hx'
    exact Crew.executors_setExecutor_self _
  | move hm => cases hm.worker?

/-- The executor of a worker that waits has nothing left to do once the job is delivered. -/
theorem Step.idle_of_deliver {queue : List Job} {isOpen asleep : Bool}
    (hs : Step execute s (.deliver x) s') (hx : s.executors x = .live queue (some j) isOpen)
    (h : Tended w (s.members w) fun x => (s.executors x).jobs)
    (h' : Tended w (s.members w) fun x => (s'.executors x).jobs)
    (hp : (s.members w).phase = .bounded t (.wait asleep)) (hj : j = t.order w)
    (hz : (s.members w).executor = some z) : (s'.executors z).jobs = [] := by
  cases hr : (s.members w).mailbox.result with
  | some r =>
    -- The result came before, so that nothing was left to do.
    simpa [Member.pending, Phase.pending, hp, hr] using h'.own z (.inl hz)
  | none =>
    have hpending : (s.members w).pending w = [j] := by
      simp [Member.pending, Phase.pending, hp, hr, ← hj]
    have hxz : (s.members w).executor = some x :=
      h.place j (by simp [hpending]) x (by rw [hx]; exact List.mem_cons_self)
    obtain rfl : x = z := Option.some.inj (hxz.symm.trans hz)
    have hown := h.own x (.inl hz)
    rw [hpending, hx] at hown
    rw [hs.executor_of_deliver hx]
    simpa [Executor.jobs] using hown.length_le

theorem Step.tended (hs : Step execute s a s') (ha : Assigned s)
    (ho : ∀ w, Orderly execute w (s.members w) (s.Owed w))
    (h : ∀ w, Tended w (s.members w) fun x => (s.executors x).jobs) (w : WorkerId) :
    Tended w (s'.members w) fun x => (s'.executors x).jobs := by
  obtain ⟨m, f, hm, rfl⟩ | ⟨hw, he⟩ := hs.member w
  · rw [Crew.members_setMember_self]
    exact hm.tended (ho w) (h w)
  · have h' := hs.tended_of_ne hw ha (h w)
    obtain he | he | he | ⟨x, queue, j, isOpen, rfl, hx, rfl, he⟩ := he
    · rw [he]
      exact h'
    · rw [he]
      exact h'.alike rfl rfl (.refl _)
    · rw [he]
      exact h'.alike (by simp) (by simp) (Member.alike_rouse _)
    · rw [he]
      have hj : s.Owed j.worker j := ⟨rfl, x, by rw [hx]; exact List.mem_cons_self⟩
      -- Whoever awaits the job has submitted it.
      have hown (hb : (s.members j.worker).phase.isAwaiting = true)
          (hid : (s.members j.worker).mailbox.awaited = j.id) :
          ∃ t asleep, (s.members j.worker).phase = .bounded t (.wait asleep) ∧
            j = t.order j.worker := by
        obtain ⟨t, stage, hp⟩ := Phase.isAwaiting_eq hb
        have ht : (s.members j.worker).phase.stint? = some t := by rw [hp]; rfl
        obtain ⟨hposted, hjob⟩ := (ho j.worker).own_of_awaited hj hb ht hid
        obtain ⟨u, asleep, hq⟩ := Phase.exists_wait hb hposted
        obtain rfl : u = t := by simpa [hq, Phase.stint?] using ht
        exact ⟨u, asleep, hq, hjob⟩
      refine h'.receive (fun hb hid => ?_) fun hb hid z hz => ?_
      · obtain ⟨t, asleep, hp, -⟩ := hown hb hid
        rw [hp]
        rfl
      · obtain ⟨t, asleep, hp, hjob⟩ := hown hb hid
        exact hs.idle_of_deliver hx (h j.worker) h' hp hjob hz

theorem Crew.new_tended (timeouts intervals : EnforcerId → Duration) (now : Instant)
    (w : WorkerId) : Tended w ((Crew.new timeouts intervals now).members w)
      fun x => ((Crew.new timeouts intervals now).executors x).jobs where
  fresh := nofun
  manned := nofun
  own _ _ := List.nil_suffix
  place := nofun

theorem Run.tended (hr : Run execute s₀ history s) (ha : Assigned s₀)
    (ho : ∀ w, Orderly execute w (s₀.members w) (s₀.Owed w))
    (h : ∀ w, Tended w (s₀.members w) fun x => (s₀.executors x).jobs) (w : WorkerId) :
    Tended w (s.members w) fun x => (s.executors x).jobs := by
  induction hr generalizing w with
  | nil => exact h w
  | step hr hs ih => exact hs.tended (hr.assigned ha) (hr.orderly ho) ih w

/-! ### Submitting a job -/

theorem Tended.jobs_of_wait {asleep : Bool} (h : Tended w m due)
    (hp : m.phase = .bounded t (.wait asleep)) :
    ∃ x, m.executor = some x ∧ ∀ j ∈ due x, j = t.order w := by
  obtain ⟨x, hx⟩ := Option.isSome_iff_exists.1 (h.manned (by rw [hp]; rfl) (by rw [hp]; rfl))
  refine ⟨x, hx, fun j hj => ?_⟩
  have hpending := (h.own x (.inl hx)).subset hj
  rw [Member.pending, hp] at hpending
  cases hr : m.mailbox.result with
  | none => simpa [Phase.pending, hr] using hpending
  | some r => simp [Phase.pending, hr] at hpending

/-- An executor has a job only while it has no other one. -/
theorem Step.length_jobs_le (hs : Step execute s a s')
    (ht : ∀ w, Tended w (s.members w) fun x => (s.executors x).jobs)
    (h : (s.executors x).jobs.length ≤ 1) : (s'.executors x).jobs.length ≤ 1 := by
  obtain hsuffix | ⟨w, t, -, hp, hjobs⟩ := (hs.worked x).jobs
  · exact Nat.le_trans hsuffix.length_le h
  · have hidle : (s.executors x).jobs = [] := (ht w).jobs_eq_nil hp
    rw [hjobs, hidle]
    exact Nat.le_refl 1

/-- A step in which an executor gets a job is the submission of that job by the worker it is for. -/
theorem Step.submits (hs : Step execute s a s') (hj : Posts x j s s') :
    a = .work j.worker ∧
      ∃ t, (s.members j.worker).phase = .bounded t (.submit x) ∧ j = t.order j.worker := by
  obtain hsuffix | ⟨w, t, ha, hp, hjobs⟩ := (hs.worked x).jobs
  · have hle := hsuffix.length_le
    rw [hj, List.length_append] at hle
    exact absurd hle (Nat.not_succ_le_self _)
  · rw [hj, List.append_cancel_left_eq, List.singleton_inj] at hjobs
    subst hjobs
    exact ⟨ha, t, hp, rfl⟩

theorem Run.length_jobs_le (hr : Run execute s₀ history s) (ha : Assigned s₀)
    (ho : ∀ w, Orderly execute w (s₀.members w) (s₀.Owed w))
    (ht : ∀ w, Tended w (s₀.members w) fun x => (s₀.executors x).jobs)
    (h : (s₀.executors x).jobs.length ≤ 1) : (s.executors x).jobs.length ≤ 1 := by
  induction hr with
  | nil => exact h
  | step hr hs ih => exact hs.length_jobs_le (hr.tended ha ho ht) ih

theorem Assigned.idle (ha : Assigned s)
    (ht : Tended w (s.members w) fun x => (s.executors x).jobs)
    (hp : (s.members w).phase = .bounded t (.submit x)) :
    s.executors x = .live [] none true ∨ s.executors x = .gone := by
  have hkept := ha.kept w x (.inr ⟨t, .inr hp⟩)
  have hidle := ht.jobs_eq_nil hp
  cases hx : s.executors x with
  | live queue current isOpen =>
    rw [hx] at hkept hidle
    obtain ⟨rfl, rfl⟩ : current = none ∧ queue = [] := by simpa [Executor.jobs] using hidle
    cases hkept
    exact .inl rfl
  | gone => exact .inr rfl
  | absent => exact absurd hx (Executor.ne_absent_of_isKept hkept)

theorem Posts.ne_gone (hj : Posts x j s s') (hs : Step execute s a s') : s.executors x ≠ .gone := by
  intro hx
  have hw := hs.worked x
  rw [hx] at hw
  rw [Posts, hw.eq_gone, hx] at hj
  cases hj

theorem Step.posts_of_submit (hs : Step execute s (.work w) s')
    (hx : s.executors x = .live [] none true)
    (hp : (s.members w).phase = .bounded t (.submit x)) : Posts x (t.order w) s s' := by
  generalize ha : Act.work w = a at hs
  cases hs with
  | move hm =>
    obtain rfl : w = _ := Option.some.inj (by rw [← hm.worker?, ← ha]; rfl)
    cases hm with
    | submit hp' hx' =>
      rw [hp] at hp'
      cases hp'
      simp [Posts, Crew.apply, hx, Executor.jobs, Executor.enqueue]
    | refuse hp' hx' =>
      rw [hp] at hp'
      cases hp'
      cases hx.symm.trans hx'
    | _ => simp_all
  | _ => cases ha

/-- A worker with a job to submit finds an executor that has nothing else to do. -/
theorem Step.posts_iff (hs : Step execute s a s') (ha : Assigned s)
    (ht : ∀ w, Tended w (s.members w) fun x => (s.executors x).jobs) :
    Posts x j s s' ↔ a = .work j.worker ∧ s.executors x = .live [] none true ∧
      ∃ t, (s.members j.worker).phase = .bounded t (.submit x) ∧ j = t.order j.worker := by
  constructor
  · intro hj
    obtain ⟨rfl, t, hp, ho⟩ := hs.submits hj
    exact ⟨rfl, (ha.idle (ht j.worker) hp).resolve_right (hj.ne_gone hs), t, hp, ho⟩
  · rintro ⟨rfl, hx, t, hp, ho⟩
    rw [ho]
    exact hs.posts_of_submit hx hp

/-! ### What happens to a job -/

/-- What an executor had to do and has no more to do, without having ended, it has delivered. -/
theorem Run.exists_deliver (hr : Run execute s₀ history s) (hi : i ∈ (s₀.executors x).jobs)
    (hn : i ∉ (s.executors x).jobs) (hx : s.executors x ≠ .gone) :
    ∃ before after s₁ s₂ queue isOpen, history = after ++ .deliver x :: before ∧
      Run execute s₀ before s₁ ∧ s₁.executors x = .live queue (some i) isOpen ∧
      Step execute s₁ (.deliver x) s₂ ∧ Run execute s₂ after s := by
  induction hr with
  | nil => exact absurd hi hn
  | @step history s a s' hr hs ih =>
    have hw := hs.worked x
    by_cases hs' : i ∈ (s.executors x).jobs
    · obtain ⟨rfl, queue, isOpen, hq⟩ := hw.delivered hs' hn hx
      exact ⟨history, [], s, s', queue, isOpen, rfl, hr, hq, hs, .nil⟩
    · have hgone : s.executors x ≠ .gone := by
        intro hg
        rw [hg] at hw
        exact hx hw.eq_gone
      obtain ⟨before, after, s₁, s₂, queue, isOpen, rfl, h₁, hq, hd, h₂⟩ := ih hs' hgone
      exact ⟨before, a :: after, s₁, s₂, queue, isOpen, rfl, h₁, hq, hd, h₂.step hs⟩

/-! ### Executors that were given up -/

theorem Move.forsaken (hm : Move execute s w a m f) (hb : (s.members w).phase.isBounded = true)
    (hr : (s.members w).phase.result? = some (.ok .interrupted)) (hx : m.Holds x) :
    m.phase.isBounded = true ∧ m.phase.result? = some (.ok .interrupted) := by
  cases hm with
  | leave hp | miss hp | unsignal hp =>
    rw [hp] at hr
    exact ⟨rfl, hr⟩
  | keep hp hne =>
    rw [hp] at hr
    exact absurd (Option.some.inj hr) hne
  | drop => obtain h | ⟨u, h | h⟩ := hx <;> cases h
  | _ => simp_all [Phase.result?, Phase.isBounded]

theorem Step.forsaken (hs : Step execute s a s') (h : s.Forsaken x) : s'.Forsaken x where
  left := (hs.worked x).ne_absent h.1
  right v hv := by
    obtain hv' | ⟨-, hx, -⟩ := hs.holds hv
    · obtain ⟨hb, hr⟩ := h.2 v hv'
      obtain ⟨m, f, hm, rfl⟩ | ⟨-, -, ha⟩ := hs.alike v
      · rw [Crew.members_setMember_self] at hv ⊢
        exact hm.forsaken hb hr hv
      · rw [ha.isBounded, ha.result?]
        exact ⟨hb, hr⟩
    · exact absurd hx h.1

theorem Run.forsaken (hr : Run execute s₀ history s) (h : s₀.Forsaken x) : s.Forsaken x := by
  induction hr with
  | nil => exact h
  | step _ hs ih => exact hs.forsaken ih

theorem Crew.Forsaken.not_posts (h : s.Forsaken x) (hs : Step execute s a s') :
    ¬ Posts x j s s' := by
  intro hj
  obtain ⟨-, t, hp, -⟩ := hs.submits hj
  have hr := (h.2 j.worker (.inr ⟨t, .inr hp⟩)).2
  rw [hp] at hr
  cases hr

/-- Whoever wakes up for an interrupt gives its executor no job any more, nor does anybody else. -/
theorem Step.forsaken_of_wake (hs : Step execute s (.wake w .interrupted) s') (ha : Assigned s)
    (h : Tended w (s.members w) fun x => (s.executors x).jobs) :
    ∃ t x, (s.members w).phase = .bounded t (.wait false) ∧ (s.members w).executor = some x ∧
      s'.Forsaken x := by
  have hs' := hs
  cases hs with
  | move hm =>
    cases hm with
    | @wake t _ mailbox hp hk =>
      obtain ⟨x, hx⟩ := Option.isSome_iff_exists.1 (h.manned (by rw [hp]; rfl) (by rw [hp]; rfl))
      refine ⟨t, x, hp, hx, ?_, fun v hv => ?_⟩
      · have hkept := ha.kept w x (.inl hx)
        exact (hs'.worked x).ne_absent (Executor.ne_absent_of_isKept hkept)
      · obtain rfl : v = w := (hs'.assigned ha).alone v w x hv (.inl (by simpa using hx))
        rw [Crew.members_setMember_self]
        exact ⟨rfl, rfl⟩

/-! ### No job behind another -/

/-- No job waits behind another one. A job comes to an executor only from its own worker and only
while the executor has nothing to do; whatever the executor had before, it has delivered in between.
While a worker waits, its executor has no other job than the one waited for, and once the worker has
woken up for an interrupt, the executor gets none any more. -/
theorem Crew.no_backlog (hr : Run execute (.new timeouts intervals now) history s) :
    (∀ x, (s.executors x).jobs.length ≤ 1) ∧
    (∀ w t x, (s.members w).phase = .bounded t (.submit x) →
      s.executors x = .live [] none true ∨ s.executors x = .gone) ∧
    (∀ x j a s', Step execute s a s' → (Posts x j s s' ↔
      a = .work j.worker ∧ s.executors x = .live [] none true ∧
        ∃ t, (s.members j.worker).phase = .bounded t (.submit x) ∧ j = t.order j.worker)) ∧
    (∀ w t asleep, (s.members w).phase = .bounded t (.wait asleep) →
      ∃ x, (s.members w).executor = some x ∧ ∀ j ∈ (s.executors x).jobs, j = t.order w) ∧
    (∀ x i a s₁, Step execute s a s₁ → Posts x i s s₁ → ∀ late s₂, Run execute s₁ late s₂ →
      ∀ j b s₃, Step execute s₂ b s₃ → Posts x j s₂ s₃ →
      ∃ before after s₄ s₅ queue isOpen, late = after ++ .deliver x :: before ∧
        Run execute s₁ before s₄ ∧ s₄.executors x = .live queue (some i) isOpen ∧
        Step execute s₄ (.deliver x) s₅ ∧ Run execute s₅ after s₂) ∧
    ∀ w s₁, Step execute s (.wake w .interrupted) s₁ →
      ∃ t x, (s.members w).phase = .bounded t (.wait false) ∧ (s.members w).executor = some x ∧
        ∀ late s₂ b s₃ j, Run execute s₁ late s₂ → Step execute s₂ b s₃ → ¬ Posts x j s₂ s₃ := by
  have ha₀ := Crew.new_assigned timeouts intervals now
  have ho₀ := Crew.new_orderly execute timeouts intervals now
  have ht₀ := Crew.new_tended timeouts intervals now
  have ha := hr.assigned ha₀
  have ht := hr.tended ha₀ ho₀ ht₀
  refine ⟨fun x => hr.length_jobs_le ha₀ ho₀ ht₀ (Nat.zero_le 1), fun w t x hp => ha.idle (ht w) hp,
    fun x j a s' hs => hs.posts_iff ha ht, fun w t asleep hp => (ht w).jobs_of_wait hp, ?_, ?_⟩
  · intro x i a s₁ hs hi late s₂ hlate j b s₃ hs₂ hj
    rw [Posts] at hi
    have hr₂ : Run execute (.new timeouts intervals now) (late ++ a :: history) s₂ :=
      (hr.step hs).trans hlate
    obtain ⟨-, hx, -⟩ := (hs₂.posts_iff (hr₂.assigned ha₀) (hr₂.tended ha₀ ho₀ ht₀)).1 hj
    exact hlate.exists_deliver (by simp [hi]) (by simp [hx, Executor.jobs]) (by simp [hx])
  · intro w s₁ hs
    obtain ⟨t, x, hp, hx, hf⟩ := hs.forsaken_of_wake ha (ht w)
    exact ⟨t, x, hp, hx, fun late s₂ b s₃ j hlate hs₂ => (hlate.forsaken hf).not_posts hs₂⟩

/-- A worker keeps its executor for the next job. -/
theorem Crew.no_backlog_of_reuse :
    ∃ execute history s a s₁ late s₂ b s₃ i j,
      Run execute (.new (fun _ => ⟨5⟩) (fun _ => ⟨1⟩) 0) history s ∧
      Step execute s a s₁ ∧ Posts 0 i s s₁ ∧ Run execute s₁ late s₂ ∧
      Step execute s₂ b s₃ ∧ Posts 0 j s₂ s₃ ∧
      ∃ before after s₄ s₅ queue isOpen, late = after ++ .deliver 0 :: before ∧
        Run execute s₁ before s₄ ∧ s₄.executors 0 = .live queue (some i) isOpen ∧
        Step execute s₄ (.deliver 0) s₅ ∧ Run execute s₅ after s₂ := by
  let execute : Matcher → String → JobResult := fun m t => .ok (m.execute t)
  have next {s₀ s s' : Crew} {a : Act} {history : List Act} (_ : Run execute s₀ history s)
      (hs : Step execute s a s') : Step execute s a s' ∧ Run execute s' [] s' := ⟨hs, .nil⟩
  have r : Run execute (.new (fun _ => ⟨5⟩) (fun _ => ⟨1⟩) 0) [] _ := .nil
  have r := r.step (.start (e := 0))
  have r := r.step (.move (.call (w := 0) (c := ⟨0, ⟨"", "", .empty, []⟩, "", .at 0 5⟩) rfl))
  have r := r.step (.move (.early (w := 0) rfl rfl (by decide)))
  have r := r.step (.move (.enlist (w := 0) rfl rfl))
  have r := r.step (.move (.clear (w := 0) rfl))
  have r := r.step (.move (.announce (w := 0) rfl))
  have r := r.step (.move (.hire (w := 0) (x := 0) rfl rfl rfl))
  have r := r.step (.move (.register (w := 0) rfl rfl))
  have ⟨post, l⟩ := next r (.move (.submit (w := 0) rfl rfl))
  have l := l.step (.take (x := 0) rfl)
  have l := l.step (.deliver (x := 0) rfl)
  have l := l.step (.move (.wake (w := 0) rfl rfl))
  have l := l.step (.move (.leave (w := 0) rfl rfl rfl))
  have l := l.step (.move (.keep (w := 0) rfl nofun))
  have l := l.step (.move (.finish (w := 0) rfl))
  have l := l.step (.move (.call (w := 0) (c := ⟨0, ⟨"", "", .empty, []⟩, "", .at 0 5⟩) rfl))
  have l := l.step (.move (.early (w := 0) rfl rfl (by decide)))
  have l := l.step (.move (.enlist (w := 0) rfl rfl))
  have l := l.step (.move (.clear (w := 0) rfl))
  have l := l.step (.move (.announce (w := 0) rfl))
  have l := l.step (.move (.reuse (w := 0) rfl rfl))
  have l := l.step (.move (.register (w := 0) rfl rfl))
  have post' := (next l (.move (.submit (w := 0) rfl rfl))).1
  exact ⟨_, _, _, _, _, _, _, _, _, _, _, r, post, rfl, l, post', rfl,
    (no_backlog r).2.2.2.2.1 0 _ _ _ post rfl _ _ l _ _ _ post' rfl⟩

end Grok.Timeout
