import Grok.Proofs.Timeout.Delivery
/-!
Transparency. Unless threads fail, a call comes to what it would come to without a bound, or its
time runs out.
-/
namespace Grok.Timeout

/-- The last call of a worker. The acts stand newest first. -/
def lastCall? (w : WorkerId) : List Act → Option Call
  | [] => none
  | .call v c :: history => if v = w then some c else lastCall? w history
  | _ :: history => lastCall? w history

/-- Whether a worker has an executor, in its hands or for its next job. -/
def Member.Holds (m : Member) (x : ExecutorId) : Prop :=
  m.executor = some x ∨
    ∃ t, m.phase = .bounded t (.register x) ∨ m.phase = .bounded t (.submit x)

def Executor.isReady : Executor → Bool
  | .live _ _ isOpen => isOpen
  | .absent | .gone => false

/-- Whoever has an executor has it alone, and can give it a job. -/
structure Staffed (s : Crew) : Prop where
  ready : ∀ w x, (s.members w).Holds x → (s.executors x).isReady = true
  alone : ∀ w v x, (s.members w).Holds x → (s.members v).Holds x → w = v

@[simp] theorem Executor.isReady_enqueue (x : Executor) (j : Job) :
    (x.enqueue j).isReady = x.isReady := by
  cases x <;> rfl

variable {execute : Matcher → String → JobResult} {s₀ s s' : Crew} {w v : WorkerId} {a : Act}
  {m n : Member} {f : Effect} {history : List Act} {x : ExecutorId} {t : Stint} {o : MatchOutcome}
  {timeouts intervals : EnforcerId → Duration} {now : Instant}

theorem lastCall?_cons_of_ne (h : ∀ c, a ≠ .call w c) :
    lastCall? w (a :: history) = lastCall? w history := by
  cases a with
  | call v c => exact if_neg fun hv => h c (by rw [hv])
  | _ => rfl

@[simp] theorem lastCall?_cons_self {c : Call} : lastCall? w (.call w c :: history) = some c :=
  if_pos rfl

theorem Phase.Alike.call? {p q : Phase} (h : p.Alike q) : p.call? = q.call? := by
  cases h <;> rfl

theorem Member.Holds.alike (h : n.Holds x) (he : n.executor = m.executor)
    (ha : n.phase.Alike m.phase) : m.Holds x := by
  obtain h | ⟨t, h⟩ := h
  · exact .inl (he ▸ h)
  · refine .inr ⟨t, ?_⟩
    generalize n.phase = p at h ha
    generalize m.phase = q at ha ⊢
    cases ha with
    | refl => exact h
    | wait => obtain h | h := h <;> cases h

theorem Move.holds (hm : Move execute s w a m f) (h : m.Holds x) :
    (s.members w).Holds x ∨ f = .hire x ∧ s.executors x = .absent := by
  obtain h | ⟨t, h | h⟩ := h
  · cases hm with
    | submit hp hx =>
      cases h
      exact .inl (.inr ⟨_, .inr hp⟩)
    | reuse | drop => cases h
    | _ => exact .inl (.inl h)
  · cases hm with
    | reuse hp hx =>
      cases h
      exact .inl (.inl hx)
    | hire hp hx ha =>
      cases h
      exact .inr ⟨rfl, ha⟩
    | _ => cases h
  · cases hm with
    | register hp =>
      cases h
      exact .inl (.inr ⟨_, .inl hp⟩)
    | _ => cases h

theorem Step.holds (hs : Step execute s a s') (h : (s'.members w).Holds x) :
    (s.members w).Holds x ∨
      a.worker? = some w ∧ s.executors x = .absent ∧ (s'.executors x).isReady = true := by
  obtain ⟨m, f, hm, rfl⟩ | ⟨-, he, ha⟩ := hs.alike w
  · rw [Crew.members_setMember_self] at h
    obtain h | ⟨rfl, ha⟩ := hm.holds h
    · exact .inl h
    · exact .inr ⟨hm.worker?, ha, by simp [Crew.apply, Executor.isReady]⟩
  · exact .inl (h.alike he ha)

theorem Crew.isReady_setExecutor {z : ExecutorId} {y : Executor}
    (hy : (s.executors z).isReady = true → y.isReady = true) (h : (s.executors x).isReady = true) :
    ((s.setExecutor z y).executors x).isReady = true := by
  by_cases hx : x = z
  · subst hx
    simpa using hy h
  · simpa [hx] using h

theorem Move.ready (hm : Move execute s w a m f) (h : (s.executors x).isReady = true) :
    ((s.apply w f).executors x).isReady = true ∨ (s.members w).Holds x ∧ ¬ m.Holds x := by
  cases hm with
  | hire => exact .inl (Crew.isReady_setExecutor (fun _ => rfl) h)
  | submit => exact .inl (Crew.isReady_setExecutor (by simp) h)
  | drop hp =>
    cases hx : (s.members w).executor with
    | none => exact .inl h
    | some y =>
      by_cases hy : x = y
      · subst hy
        refine .inr ⟨.inl hx, ?_⟩
        rintro (h | ⟨t, h | h⟩) <;> cases h
      · exact .inl (by simpa [Crew.apply, hy] using h)
  | _ => exact .inl h

theorem Step.ready (hs : Step execute s a s') (hf : a.isFault = false)
    (h : (s.executors x).isReady = true) :
    (s'.executors x).isReady = true ∨
      ∃ w, (s.members w).Holds x ∧ ¬ (s'.members w).Holds x := by
  cases hs with
  | @move w _ m f hm =>
    obtain h | ⟨h, hn⟩ := hm.ready h
    · exact .inl h
    · exact .inr ⟨w, h, by simpa using hn⟩
  | take hx => exact .inl (Crew.isReady_setExecutor (by simp [hx, Executor.isReady]) h)
  | deliver hx => exact .inl (Crew.isReady_setExecutor (by simp [hx, Executor.isReady]) h)
  | exit hx => exact .inl (Crew.isReady_setExecutor (by simp [hx, Executor.isReady]) h)
  | crash => cases hf
  | tick | start | stop | scan | strike | signal | scanned => exact .inl h

/-- An executor that is hired was nobody's. -/
theorem Step.alone (hs : Step execute s a s')
    (hn : ∀ w x, (s.members w).Holds x → s.executors x ≠ .absent)
    (h : ∀ w v x, (s.members w).Holds x → (s.members v).Holds x → w = v) (w v : WorkerId)
    (x : ExecutorId) (hw : (s'.members w).Holds x) (hv : (s'.members v).Holds x) : w = v := by
  obtain hw | ⟨hw, hx, -⟩ := hs.holds hw
  · obtain hv | ⟨-, hx, -⟩ := hs.holds hv
    · exact h w v x hw hv
    · exact absurd hx (hn w x hw)
  · obtain hv | ⟨hv, -, -⟩ := hs.holds hv
    · exact absurd hx (hn v x hv)
    · exact Option.some.inj (hw.symm.trans hv)

theorem Step.staffed (hs : Step execute s a s') (hf : a.isFault = false) (h : Staffed s) :
    Staffed s' where
  ready w x hw := by
    obtain hw' | ⟨-, -, hr⟩ := hs.holds hw
    · obtain hr | ⟨v, hv, hn⟩ := hs.ready hf (h.ready w x hw')
      · exact hr
      · rw [h.alone v w x hv hw'] at hn
        exact absurd hw hn
    · exact hr
  alone := by
    refine hs.alone (fun w x hw ha => ?_) h.alone
    have hr := h.ready w x hw
    rw [ha] at hr
    cases hr

theorem Crew.new_staffed (timeouts intervals : EnforcerId → Duration) (now : Instant) :
    Staffed (.new timeouts intervals now) where
  ready w x h := by
    obtain h | ⟨t, h | h⟩ := h <;> cases h
  alone w v x h := by
    obtain h | ⟨t, h | h⟩ := h <;> cases h

theorem Run.staffed (hr : Run execute s₀ history s) (hf : ∀ a ∈ history, a.isFault = false)
    (h : Staffed s₀) : Staffed s := by
  induction hr with
  | nil => exact h
  | step _ hs ih =>
    exact hs.staffed (hf _ List.mem_cons_self) (ih fun a ha => hf a (List.mem_cons_of_mem _ ha))

theorem Move.sound (hm : Move execute s w a m f) (hf : a.isFault = false) (h : Staffed s)
    {e : Error} (he : m.phase.result? = some (.error e)) :
    (s.members w).phase.result? = some (.error e) := by
  cases hm with
  | lack => cases hf
  | refuse hp hx =>
    have hr := h.ready w _ (.inr ⟨_, .inr hp⟩)
    rw [hx] at hr
    cases hr
  | leave hp | miss hp | unsignal hp | keep hp =>
    rw [hp]
    exact he
  | _ => cases he

/-- No stint lacks an executor. -/
theorem Step.sound (hs : Step execute s a s') (hf : a.isFault = false) (h : Staffed s)
    {e : Error} (he : (s'.members w).phase.result? = some (.error e)) :
    (s.members w).phase.result? = some (.error e) := by
  obtain ⟨m, f, hm, rfl⟩ | ⟨-, -, ha⟩ := hs.alike w
  · rw [Crew.members_setMember_self] at he
    exact hm.sound hf h he
  · rwa [ha.result?] at he

theorem Run.sound (hr : Run execute s₀ history s) (hf : ∀ a ∈ history, a.isFault = false)
    (h : Staffed s₀) {e : Error} (hn : (s₀.members w).phase.result? ≠ some (.error e)) :
    (s.members w).phase.result? ≠ some (.error e) := by
  induction hr with
  | nil => exact hn
  | step hr hs ih =>
    have hf' := fun a ha => hf a (List.mem_cons_of_mem _ ha)
    intro he
    exact ih hf' (hs.sound (hf _ List.mem_cons_self) (hr.staffed hf' h) he)

theorem Move.called (hm : Move execute s w a m f) {c : Call} (h : m.phase.call? = some c) :
    a = .call w c ∨ (s.members w).phase.call? = some c ∧ ∀ d, a ≠ .call w d := by
  cases hm with
  | call =>
    cases h
    exact .inl rfl
  | _ => exact .inr ⟨by simp_all [Phase.call?], nofun⟩

theorem Step.called (hs : Step execute s a s')
    (h : ∀ c, (s.members w).phase.call? = some c → lastCall? w history = some c) {c : Call}
    (hc : (s'.members w).phase.call? = some c) : lastCall? w (a :: history) = some c := by
  obtain ⟨m, f, hm, rfl⟩ | ⟨hw, -, ha⟩ := hs.alike w
  · rw [Crew.members_setMember_self] at hc
    obtain rfl | ⟨hc, hn⟩ := hm.called hc
    · exact lastCall?_cons_self
    · rw [lastCall?_cons_of_ne hn]
      exact h c hc
  · rw [ha.call?] at hc
    rw [lastCall?_cons_of_ne, h c hc]
    rintro d rfl
    exact hw rfl

theorem Run.called (hr : Run execute s₀ history s)
    (h : (s₀.members w).phase.call? = none) {c : Call}
    (hc : (s.members w).phase.call? = some c) : lastCall? w history = some c := by
  induction hr generalizing c with
  | nil =>
    rw [h] at hc
    cases hc
  | step _ hs ih => exact hs.called (fun _ hc => ih hc) hc

theorem Step.deliver_posted {asleep : Bool} (hs : Step execute s (.deliver x) s')
    (hp : (s.members w).phase = .bounded t (.wait asleep)) :
    (s'.members w).phase.isPosted = true := by
  obtain ⟨m, f, hm, -⟩ | ⟨-, -, ha⟩ := hs.alike w
  · cases hm.worker?
  · rw [ha.isPosted, hp]
    rfl

theorem Step.deliver_served {j : Job} {queue : List Job} {isOpen asleep : Bool}
    (hs : Step execute s (.deliver x) s')
    (ho : Orderly execute j.worker (s.members j.worker) (s.Owed j.worker))
    (hx : s.executors x = .live queue (some j) isOpen) (hj : j.id = t.job)
    (hp : (s.members j.worker).phase = .bounded t (.wait asleep)) :
    (s'.members j.worker).Served t := by
  have ht : (s.members j.worker).phase.stint? = some t := by rw [hp]; rfl
  have ha : (s.members j.worker).phase.isAwaiting = true := by rw [hp]; rfl
  have hid : (s.members j.worker).mailbox.awaited = j.id := by
    rw [ho.awaited ha, hj, ho.numbered t ht]
  cases hs with
  | deliver hx' =>
    rw [hx] at hx'
    cases hx'
    rw [Crew.members_setMember_self, Member.receive, if_pos hid]
    refine ⟨by simpa using ht, .inl ⟨by simpa using ha, ?_⟩⟩
    simp [Mailbox.deliver, hid]
  | move hm => cases hm.worker?

/-- With the result of a stint, the worker can answer nothing else. -/
theorem Step.answer_of_served (hs : Step execute s (.answer w o) s')
    (ho : Orderly execute w (s.members w) (s.Owed w)) (h : (s.members w).Served t) :
    o = .ofResult (t.result execute) := by
  obtain ⟨ht, h⟩ := h
  cases hs with
  | move hm =>
    cases hm with
    | settle hp =>
      rw [hp] at ht
      cases ht
    | @finish u r hp =>
      rw [ho.woken t ht r (by rw [hp]; rfl)]
    | abandon hp | fail hp =>
      rw [hp] at h
      obtain ⟨h, -⟩ | ⟨r, h⟩ := h <;> cases h

/-- A call comes to what it comes to without a bound, or to the end of its time. Its result is from
its own job, and once that is in the mailbox of a worker that waits, it is what the worker answers,
whatever happens. -/
theorem Crew.transparent (hr : Run execute (.new timeouts intervals now) history s)
    (w : WorkerId) :
    ((∀ a ∈ history, a.isFault = false) → ∀ o s', Step execute s (.answer w o) s' →
      ∃ c, lastCall? w history = some c ∧ (o = c.inline execute ∨ ∃ d, o = .timedOut d)) ∧
    (∀ t r, (s.members w).phase = .returned t (.ok (.finished r)) →
      r = t.result execute ∧
        Within execute (.new timeouts intervals now) w t (Delivers w t) history s) ∧
    ∀ x queue j isOpen t asleep s₁, s.executors x = .live queue (some j) isOpen → j.worker = w →
      j.id = t.job → (s.members w).phase = .bounded t (.wait asleep) →
      Step execute s (.deliver x) s₁ → ∀ more s₂, Run execute s₁ more s₂ →
      (∀ o, .answer w o ∉ more) → ∀ o s₃, Step execute s₂ (.answer w o) s₃ →
      o = .ofResult (execute j.matcher j.text) := by
  have h₀ := Crew.new_orderly execute timeouts intervals now
  have ho := hr.orderly h₀ w
  refine ⟨fun hf o s' hs => ?_, fun t r hp => ?_, ?_⟩
  · have called {c : Call} (hc : (s.members w).phase.call? = some c) :
        lastCall? w history = some c :=
      hr.called rfl hc
    cases hs with
    | move hm =>
      cases hm with
      | @settle c _ hp =>
        have he : (s.members w).phase.Explained execute s.now := hr.explained trivial
        rw [hp] at he
        exact ⟨c, called (by rw [hp]; rfl), he.imp id fun h => ⟨_, h.1⟩⟩
      | @finish t r hp =>
        refine ⟨t.call, called (by rw [hp]; rfl), .inl ?_⟩
        rw [ho.woken t (by rw [hp]; rfl) r (by rw [hp]; rfl)]
        rfl
      | @abandon t hp => exact ⟨t.call, called (by rw [hp]; rfl), .inr ⟨_, rfl⟩⟩
      | @fail _ e hp =>
        have hn : (s.members w).phase.result? ≠ some (.error e) :=
          hr.sound hf (Crew.new_staffed ..) nofun
        exact absurd (by rw [hp]; rfl) hn
  · refine ⟨ho.woken t (by rw [hp]; rfl) r (by rw [hp]; rfl), ?_⟩
    refine hr.within_delivers h₀ ?_ ⟨by rw [hp]; rfl, .inr ⟨r, by rw [hp]; rfl⟩⟩
    rintro ⟨⟨⟩, -⟩
  · intro x queue j isOpen t asleep s₁ hx hw hj hp hs more s₂ hmore hn o s₃ hans
    subst hw
    have ht : (s.members j.worker).phase.stint? = some t := by rw [hp]; rfl
    have hown := (ho.own t ht j ⟨rfl, x, by rw [hx]; exact List.mem_cons_self⟩ hj).2
    obtain ⟨hserved, -⟩ := hmore.keeps hn (hs.deliver_served ho hx hj hp) (hs.deliver_posted hp)
    rw [hans.answer_of_served (hmore.orderly (hs.orderly (hr.orderly h₀)) _) hserved, hown]
    rfl

theorem Crew.transparent_of_answer :
    ∃ execute history s s' o, (∀ a ∈ history, a.isFault = false) ∧
      Step execute s (.answer 0 o) s' ∧
      ∃ c, lastCall? 0 history = some c ∧ (o = c.inline execute ∨ ∃ d, o = .timedOut d) := by
  obtain ⟨-, -, history, -, -, s', o, -, -, hr, hf⟩ :=
    exists_abandoned fun m t => .ok (m.execute t)
  cases hr with
  | step hr hs => exact ⟨_, history, _, s', o, hf, hs, (transparent hr 0).1 hf o s' hs⟩

end Grok.Timeout
