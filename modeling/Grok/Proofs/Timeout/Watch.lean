import Grok.Timeout.Watch
/-!
The life of monitors. Whenever no start and no stop is in progress, a monitor watches exactly if the
flag was not raised while a stop of an earlier monitor was about to lower it.
-/
namespace Grok.Timeout

/-- The monitor that has been launched and that no stop has taken. -/
def Slot.monitor? : Slot → Option MonitorId
  | .free handle => handle
  | .held _ (.launched m) => some m
  | .held _ .begun | .held _ .raised | .held _ .failed => none

/-- The monitor that a stop is after. -/
def Caller.monitor? : Caller → Option MonitorId
  | .taken m | .joining m => some m
  | .idle | .starting | .launching | .stopping => none

/-- Whether the flag has been raised for the monitor that is there or comes next. -/
def Slot.isUp : Slot → Bool
  | .free (some _) | .held _ .raised | .held _ (.launched _) => true
  | .free none | .held _ .begun | .held _ .failed => false

/-- Whether there is no monitor to come. -/
def Slot.isDown : Slot → Bool
  | .free none | .held _ .begun => true
  | .free (some _) | .held _ .raised | .held _ (.launched _) | .held _ .failed => false

namespace Watch

/-- What holds of the flag, the handle and the monitors after any acts. -/
structure Regular (s : Watch) (history : List Act) : Prop where
  held : ∀ c stage, s.slot = .held c stage → s.callers c = .launching
  distinct : (pendingStops history).Nodup
  pending : ∀ c, c ∈ pendingStops history ↔ ∃ m, s.callers c = .taken m
  early : s.slot.isUp = true → overtaken history = false →
    s.isRunning = true ∧ pendingStops history = []
  late : s.slot.isUp = true → overtaken history = true → s.isRunning = true →
    pendingStops history ≠ []
  down : s.slot.isDown = true → s.isRunning = true → pendingStops history ≠ []
  tracked : ∀ m, (s.monitors m).isAlive = true →
    s.slot.monitor? = some m ∨ ∃ c, (s.callers c).monitor? = some m
  alive : ∀ m, s.slot.monitor? = some m → s.isRunning = true → (s.monitors m).isAlive = true

variable {s s' : Watch} {a : Act} {history : List Act} {c d : CallerId} {m : MonitorId}

theorem Step.held (hs : Step s a s') (h : Regular s history) {stage : Launch}
    (hc : s'.slot = .held c stage) : s'.callers c = .launching := by
  have other {d : CallerId} {stage : Launch} {p : Caller} (hd : s.callers d ≠ .launching)
      (hc : s.slot = .held c stage) : (s.setCaller d p).callers c = .launching := by
    have hl := h.held c stage hc
    rw [callers_setCaller_of_ne, hl]
    rintro rfl
    exact hd hl
  cases hs with
  | start hp | stop hp | disabled hp | occupied hp | vacant hp | lower hp | join hp =>
    exact other (by simp [hp]) hc
  | lock =>
    cases hc
    simp
  | raise hp | launch hp | lack hp =>
    cases hc
    exact h.held _ _ hp
  | recover | store | take => cases hc
  | look | stir | scan => exact h.held _ _ hc

theorem taken_setCaller {p : Caller} (hc : ∀ m, s.callers c ≠ .taken m) (hp : ∀ m, p ≠ .taken m) :
    (∃ m, (s.setCaller c p).callers d = .taken m) ↔ ∃ m, s.callers d = .taken m := by
  by_cases hd : d = c
  · subst hd
    simp [hc, hp]
  · simp [hd]

theorem Step.pending (hs : Step s a s') (h : Regular s history) :
    (pendingStops (a :: history)).Nodup ∧
      ∀ d, d ∈ pendingStops (a :: history) ↔ ∃ m, s'.callers d = .taken m := by
  cases hs with
  | @take c m hp hq =>
    refine ⟨List.nodup_cons.2 ⟨fun hc => ?_, h.distinct⟩, fun d => ?_⟩
    · obtain ⟨n, hn⟩ := (h.pending c).1 hc
      rw [hp] at hn
      cases hn
    · by_cases hd : d = c
      · subst hd
        simp [pendingStops]
      · simp [pendingStops, hd, h.pending]
  | @lower c m hp =>
    refine ⟨h.distinct.erase c, fun d => ?_⟩
    rw [pendingStops, h.distinct.mem_erase_iff]
    by_cases hd : d = c
    · subst hd
      simp
    · simp [hd, h.pending]
  | start hp | stop hp | disabled hp | occupied hp | vacant hp | lock hp | join hp =>
    exact ⟨h.distinct, fun d => (h.pending d).trans (taken_setCaller (by simp [hp]) (by simp)).symm⟩
  | recover hp | store hp =>
    have hl := h.held _ _ hp
    exact ⟨h.distinct, fun d => (h.pending d).trans (taken_setCaller (by simp [hl]) (by simp)).symm⟩
  | raise | launch | lack | look | stir | scan => exact ⟨h.distinct, h.pending⟩

/-- The flag is up with a handle unless an earlier stop lowered it, and up without one only if a
stop is about to lower it. -/
theorem Step.level (hs : Step s a s') (h : Regular s history) :
    (s'.slot.isUp = true → overtaken (a :: history) = false →
      s'.isRunning = true ∧ pendingStops (a :: history) = []) ∧
    (s'.slot.isUp = true → overtaken (a :: history) = true → s'.isRunning = true →
      pendingStops (a :: history) ≠ []) ∧
    (s'.slot.isDown = true → s'.isRunning = true → pendingStops (a :: history) ≠ []) := by
  cases hs with
  | start | stop | disabled | occupied | vacant | join | look | stir | scan =>
    exact ⟨h.early, h.late, h.down⟩
  | lock hp he hq =>
    refine ⟨nofun, nofun, fun _ => h.down ?_⟩
    rw [hq]
    rfl
  | raise hp =>
    refine ⟨fun _ ho => ⟨rfl, ?_⟩, fun _ ho _ hn => ?_, nofun⟩
    · simpa [overtaken, pendingStops] using ho
    · simp [overtaken] at ho
      exact ho hn
  | launch hp | store hp =>
    have hu : s.slot.isUp = true := by rw [hp]; rfl
    exact ⟨fun _ => h.early hu, fun _ => h.late hu, nofun⟩
  | lack | recover => exact ⟨nofun, nofun, nofun⟩
  | take => exact ⟨nofun, nofun, fun _ _ => List.cons_ne_nil _ _⟩
  | @lower c m hp =>
    refine ⟨fun hu ho => ?_, fun _ _ => nofun, fun _ => nofun⟩
    -- With a flag that was raised in turn, no stop is left that could lower it.
    have hc := (h.pending c).2 ⟨m, hp⟩
    rw [(h.early hu ho).2] at hc
    cases hc

theorem Step.tracked (hs : Step s a s') (h : Regular s history)
    (hm : (s'.monitors m).isAlive = true) :
    s'.slot.monitor? = some m ∨ ∃ c, (s'.callers c).monitor? = some m := by
  have keep {d : CallerId} {p : Caller}
      (hd : (s.callers d).monitor? = some m → p.monitor? = some m) :
      (∃ c, (s.callers c).monitor? = some m) →
        ∃ c, ((s.setCaller d p).callers c).monitor? = some m := by
    rintro ⟨c, hc⟩
    refine ⟨c, ?_⟩
    by_cases hcd : c = d
    · subst hcd
      simpa using hd hc
    · simpa [hcd] using hc
  have alive {n : MonitorId} {p : Monitor} (hn : (s.monitors n).isAlive = true)
      (hm : ((s.setMonitor n p).monitors m).isAlive = true) : (s.monitors m).isAlive = true := by
    by_cases hmn : m = n
    · subst hmn
      exact hn
    · simpa [hmn] using hm
  cases hs with
  | start hp | stop hp | disabled hp | occupied hp | vacant hp =>
    exact (h.tracked m hm).imp id (keep (by simp [hp, Caller.monitor?]))
  | lock hp he hq =>
    refine (h.tracked m hm).imp (fun hx => ?_) (keep (by simp [hp, Caller.monitor?]))
    rw [hq] at hx
    cases hx
  | raise hp | lack hp =>
    refine (h.tracked m hm).imp (fun hx => ?_) id
    rw [hp] at hx
    cases hx
  | @launch c n hp hq =>
    by_cases hmn : m = n
    · subst hmn
      exact .inl rfl
    · refine (h.tracked m (by simpa [hmn] using hm)).imp (fun hx => ?_) id
      rw [hp] at hx
      cases hx
  | recover hp =>
    refine (h.tracked m hm).imp (fun hx => ?_) (keep (by simp [h.held _ _ hp, Caller.monitor?]))
    rw [hp] at hx
    cases hx
  | store hp =>
    refine (h.tracked m hm).imp (fun hx => ?_) (keep (by simp [h.held _ _ hp, Caller.monitor?]))
    rwa [hp] at hx
  | @take c n hp hq =>
    obtain hx | hx := h.tracked m hm
    · rw [hq] at hx
      exact .inr ⟨c, by simpa [Caller.monitor?, Slot.monitor?] using hx⟩
    · exact .inr (keep (by simp [hp, Caller.monitor?]) hx)
  | lower hp => exact (h.tracked m hm).imp id (keep (by simp [hp, Caller.monitor?]))
  | join hp hq =>
    refine (h.tracked m hm).imp id (keep fun hx => ?_)
    rw [hp] at hx
    cases hx
    rw [monitors_setCaller, hq] at hm
    cases hm
  | look hp | stir hp | scan hp => exact h.tracked m (alive (by rw [hp]; rfl) hm)

/-- As long as the flag is up, no monitor ends. -/
theorem Step.isAlive (hs : Step s a s') (hr : s.isRunning = true)
    (hm : (s.monitors m).isAlive = true) : (s'.monitors m).isAlive = true := by
  cases hs with
  | @launch c n hp hq =>
    by_cases hmn : m = n
    · subst hmn
      simp [Monitor.isAlive]
    · simpa [hmn] using hm
  | @look n hp | @stir n hp | @scan n hp =>
    by_cases hmn : m = n
    · subst hmn
      simp [Monitor.isAlive, hr]
    · simpa [hmn] using hm
  | _ => exact hm

theorem Step.alive (hs : Step s a s') (h : Regular s history) (hx : s'.slot.monitor? = some m)
    (hr : s'.isRunning = true) : (s'.monitors m).isAlive = true := by
  have same (hx : s.slot.monitor? = some m) (hr : s.isRunning = true) :
      (s'.monitors m).isAlive = true := hs.isAlive hr (h.alive m hx hr)
  cases hs with
  | launch hp hq =>
    cases hx
    simp [Monitor.isAlive]
  | lock | raise | lack | recover | take => cases hx
  | lower => cases hr
  | store hp =>
    refine same ?_ hr
    rwa [hp]
  | start | stop | disabled | occupied | vacant | join | look | stir | scan => exact same hx hr

theorem Step.regular (hs : Step s a s') (h : Regular s history) : Regular s' (a :: history) where
  held _ _ := hs.held h
  distinct := (hs.pending h).1
  pending := (hs.pending h).2
  early := (hs.level h).1
  late := (hs.level h).2.1
  down := (hs.level h).2.2
  tracked _ := hs.tracked h
  alive _ := hs.alive h

theorem new_regular (timeout interval : Duration) : Regular (new timeout interval) [] where
  held := nofun
  distinct := List.nodup_nil
  pending c := by simp [pendingStops, new]
  early := nofun
  late := nofun
  down := nofun
  tracked := nofun
  alive := nofun

theorem Run.regular {timeout interval : Duration} (hr : Run (new timeout interval) history s) :
    Regular s history := by
  induction hr with
  | nil => exact new_regular timeout interval
  | step _ hs ih => exact hs.regular ih

theorem Step.isRunning (hs : Step s a s') (ha : ∀ c, a ≠ .lower c ∧ a ≠ .recover c)
    (hr : s.isRunning = true) : s'.isRunning = true := by
  cases hs with
  | @lower c => exact absurd rfl (ha c).1
  | @recover c => exact absurd rfl (ha c).2
  | raise => rfl
  | _ => exact hr

theorem Run.watches (hr : Run s history s') (hn : ∀ c, .lower c ∉ history ∧ .recover c ∉ history)
    (hf : s.isRunning = true) (hm : (s.monitors m).isAlive = true) :
    s'.isRunning = true ∧ (s'.monitors m).isAlive = true := by
  induction hr with
  | nil => exact ⟨hf, hm⟩
  | step _ hs ih =>
    obtain ⟨hf, hm⟩ := ih fun c =>
      (hn c).imp (fun h hc => h (.tail _ hc)) fun h hc => h (.tail _ hc)
    refine ⟨hs.isRunning (fun c => ⟨?_, ?_⟩) hf, hs.isAlive hf hm⟩
    · rintro rfl
      exact (hn c).1 (.head _)
    · rintro rfl
      exact (hn c).2 (.head _)

/-- A monitor scans again, with nobody's help, as long as the flag is up. -/
theorem scans_again (hf : s.isRunning = true) (hm : (s.monitors m).isAlive = true) :
    ∃ acts s', Run s (.scan m :: acts) s' ∧ ∀ a ∈ acts, a = .look m ∨ a = .stir m := by
  cases hp : s.monitors m with
  | looking =>
    refine ⟨[.stir m, .look m], _, ((Run.nil.step (.look hp)).step (.stir ?_)).step (.scan ?_), ?_⟩
    · simp [hf]
    · simp [hf]
    · simp
  | resting =>
    refine ⟨[.stir m], _, (Run.nil.step (.stir hp)).step (.scan ?_), ?_⟩
    · simp [hf]
    · simp
  | scanning => exact ⟨[], _, Run.nil.step (.scan hp), nofun⟩
  | absent | ended =>
    rw [hp] at hm
    cases hm

/-- How far a start is that nobody else comes between. -/
inductive Lone (s₀ : Watch) (c : CallerId) (s : Watch) : Prop
  | starting : s.callers c = .starting → s.slot = s₀.slot → s.isRunning = false → Lone s₀ c s
  | begun : s.callers c = .launching → s.slot = .held c .begun → s₀.slot = .free none →
      s.isRunning = false → Lone s₀ c s
  | raised : s.callers c = .launching → s.slot = .held c .raised → s₀.slot = .free none →
      s.isRunning = true → Lone s₀ c s
  | launched {n : MonitorId} : s.callers c = .launching → s.slot = .held c (.launched n) →
      s₀.slot = .free none → s.isRunning = true → Lone s₀ c s
  | stored {n : MonitorId} : s.callers c = .idle → s.slot = .free (some n) →
      s₀.slot = .free none → s.isRunning = true → Lone s₀ c s
  | passed {n : MonitorId} : s.callers c = .idle → s.slot = .free (some n) →
      s₀.slot = .free (some n) → s.isRunning = false → Lone s₀ c s

variable {s₀ : Watch} {handle : Option MonitorId}

theorem Step.isEnabled (hs : Step s a s') : s'.enforcer.isEnabled = s.enforcer.isEnabled := by
  cases hs <;> rfl

theorem Step.idle (hs : Step s a s') (h : Regular s history)
    (hn : ∀ d, a ≠ .start d ∧ a ≠ .stop d) (hd : s.callers d = .idle) : s'.callers d = .idle := by
  have other {c : CallerId} {p q : Caller} (hc : s.callers c = q) (hq : q ≠ .idle) :
      (s.setCaller c p).callers d = .idle := by
    rw [callers_setCaller_of_ne, hd]
    rintro rfl
    exact hq (hc.symm.trans hd)
  cases hs with
  | @start c => exact absurd rfl (hn c).1
  | @stop c => exact absurd rfl (hn c).2
  | disabled hp | occupied hp | vacant hp | lock hp | take hp | lower hp | join hp =>
    exact other hp nofun
  | recover hp | store hp => exact other (h.held _ _ hp) nofun
  | raise | launch | lack | look | stir | scan => exact hd

theorem Lone.caller (h : Lone s₀ c s) :
    s.callers c = .starting ∨ s.callers c = .launching ∨ s.callers c = .idle := by
  cases h with
  | starting hc => exact .inl hc
  | begun hc | raised hc | launched hc => exact .inr (.inl hc)
  | stored hc | passed hc => exact .inr (.inr hc)

theorem Lone.of_starting (h : Lone s₀ c s) (hp : s.callers c = .starting) :
    s.slot = s₀.slot ∧ s.isRunning = false := by
  cases h with
  | starting _ hx hf => exact ⟨hx, hf⟩
  | begun hc | raised hc | launched hc | stored hc | passed hc =>
    rw [hp] at hc
    cases hc

/-- Only the start itself has the lock on the handle, and it raises the flag next or has done so. -/
theorem Lone.of_held {stage : Launch} (h : Lone s₀ c s) (h₀ : s₀.slot = .free handle)
    (hp : s.slot = .held d stage) :
    d = c ∧ s.callers c = .launching ∧ s₀.slot = .free none ∧ stage ≠ .failed ∧
      (stage ≠ .begun → s.isRunning = true) := by
  cases h with
  | starting _ hx =>
    rw [hp, h₀] at hx
    cases hx
  | begun hc hx hs =>
    rw [hp] at hx
    cases hx
    exact ⟨rfl, hc, hs, nofun, fun hn => absurd rfl hn⟩
  | raised hc hx hs hf | launched hc hx hs hf =>
    rw [hp] at hx
    cases hx
    exact ⟨rfl, hc, hs, nofun, fun _ => hf⟩
  | stored _ hx | passed _ hx =>
    rw [hp] at hx
    cases hx

theorem Step.lone (hs : Step s a s') (hn : ∀ d, a ≠ .start d ∧ a ≠ .stop d ∧ a ≠ .lack d)
    (he : s.enforcer.isEnabled = true) (ho : ∀ d, d ≠ c → s.callers d = .idle)
    (h₀ : s₀.slot = .free handle) (h : Lone s₀ c s) : Lone s₀ c s' := by
  have only {d : CallerId} {p : Caller} (hd : s.callers d = p) (hp : p ≠ .idle) : d = c :=
    Decidable.byContradiction fun hc => hp (hd.symm.trans (ho d hc))
  cases hs with
  | @start d => exact absurd rfl (hn d).1
  | @stop d => exact absurd rfl (hn d).2.1
  | @lack d => exact absurd rfl (hn d).2.2
  | disabled _ hd =>
    rw [he] at hd
    cases hd
  | occupied hp _ hq =>
    obtain rfl := only hp nofun
    obtain ⟨hx, hf⟩ := h.of_starting hp
    exact .passed (by simp) hq (hx.symm.trans hq) hf
  | lock hp _ hq =>
    obtain rfl := only hp nofun
    obtain ⟨hx, hf⟩ := h.of_starting hp
    exact .begun (by simp) rfl (hx.symm.trans hq) hf
  | raise hp =>
    obtain ⟨rfl, hc, hs, -⟩ := h.of_held h₀ hp
    exact .raised hc rfl hs rfl
  | launch hp =>
    obtain ⟨rfl, hc, hs, -, hf⟩ := h.of_held h₀ hp
    exact .launched hc rfl hs (hf nofun)
  | store hp =>
    obtain ⟨rfl, -, hs, -, hf⟩ := h.of_held h₀ hp
    exact .stored (by simp) rfl hs (hf nofun)
  | recover hp => exact absurd rfl (h.of_held h₀ hp).2.2.2.1
  | vacant hp | take hp | lower hp | join hp =>
    obtain rfl := only hp nofun
    obtain hc | hc | hc := h.caller <;> rw [hp] at hc <;> cases hc
  | look | stir | scan =>
    cases h with
    | starting hc hx hf => exact .starting hc hx hf
    | begun hc hx hs hf => exact .begun hc hx hs hf
    | raised hc hx hs hf => exact .raised hc hx hs hf
    | launched hc hx hs hf => exact .launched hc hx hs hf
    | stored hc hx hs hf => exact .stored hc hx hs hf
    | passed hc hx hs hf => exact .passed hc hx hs hf

theorem Run.lone {later : List Act} (hr : Run s later s')
    (hn : ∀ d, .start d ∉ later ∧ .stop d ∉ later ∧ .lack d ∉ later) (hreg : Regular s history)
    (he : s.enforcer.isEnabled = true) (ho : ∀ d, d ≠ c → s.callers d = .idle)
    (h₀ : s₀.slot = .free handle) (h : Lone s₀ c s) :
    Lone s₀ c s' ∧ s'.enforcer.isEnabled = true ∧ (∀ d, d ≠ c → s'.callers d = .idle) ∧
      Regular s' (later ++ history) := by
  induction hr with
  | nil => exact ⟨h, he, ho, hreg⟩
  | @step later s' a s'' _ hs ih =>
    obtain ⟨h, he, ho, hreg⟩ := ih fun d =>
      ⟨fun hd => (hn d).1 (.tail _ hd), fun hd => (hn d).2.1 (.tail _ hd),
        fun hd => (hn d).2.2 (.tail _ hd)⟩
    have ha : ∀ d, a ≠ .start d ∧ a ≠ .stop d ∧ a ≠ .lack d := by
      intro d
      refine ⟨?_, ?_, ?_⟩ <;> rintro rfl
      · exact (hn d).1 (.head _)
      · exact (hn d).2.1 (.head _)
      · exact (hn d).2.2 (.head _)
    refine ⟨hs.lone ha he ho h₀ h, by rw [hs.isEnabled, he], fun d hd => ?_, hs.regular hreg⟩
    exact hs.idle hreg (fun e => ⟨(ha e).1, (ha e).2.1⟩) (ho d hd)

theorem Lone.isRunning_iff (h : Lone s₀ c s) (hc : s.callers c = .idle) :
    s.isRunning = true ↔ s₀.slot = .free none := by
  cases h with
  | starting hp | begun hp | raised hp | launched hp =>
    rw [hc] at hp
    cases hp
  | stored _ _ h₀ hf => simp [h₀, hf]
  | passed _ _ h₀ hf => simp [h₀, hf]

theorem Regular.slot_free (h : Regular s history) (hq : s.Quiescent) :
    ∃ handle, s.slot = .free handle := by
  cases hs : s.slot with
  | free handle => exact ⟨handle, rfl⟩
  | held c stage =>
    have hl := h.held c stage hs
    rw [hq c] at hl
    cases hl

/-- Between calls, a monitor watches exactly if there is a handle and no stop has lowered the flag
that was raised for it. A start in such a state then has an effect exactly if there is no handle. -/
theorem lifecycle {timeout interval : Duration} (hr : Run (new timeout interval) history s)
    (hq : s.Quiescent) :
    (s.isRunning = true ↔ (∃ m, s.slot = .free (some m)) ∧ overtaken history = false) ∧
    (∀ m, (s.monitors m).isAlive = true → s.slot = .free (some m)) ∧
    (s.isRunning = true → ∃ m, s.slot = .free (some m) ∧ (s.monitors m).isAlive = true ∧
      ∀ later s', Run s later s' → (∀ c, .lower c ∉ later ∧ .recover c ∉ later) →
        ∃ acts s'', Run s' (.scan m :: acts) s'' ∧ ∀ a ∈ acts, a = .look m ∨ a = .stir m) ∧
    ∀ c s₁ later s', s.enforcer.isEnabled = true → s.isRunning = false → Step s (.start c) s₁ →
      Run s₁ later s' → (∀ d, .start d ∉ later ∧ .stop d ∉ later ∧ .lack d ∉ later) →
      s'.Quiescent → (s'.isRunning = true ↔ s.slot = .free none) := by
  have h := hr.regular
  obtain ⟨handle, hslot⟩ := h.slot_free hq
  have hp : pendingStops history = [] := by
    refine List.eq_nil_iff_forall_not_mem.2 fun c hc => ?_
    obtain ⟨m, hm⟩ := (h.pending c).1 hc
    rw [hq c] at hm
    cases hm
  have hrun : s.isRunning = true → ∃ m, s.slot = .free (some m) := by
    intro hf
    cases handle with
    | none => exact absurd hp (h.down (by rw [hslot]; rfl) hf)
    | some m => exact ⟨m, hslot⟩
  refine ⟨⟨fun hf => ⟨hrun hf, ?_⟩, ?_⟩, fun m hm => ?_, fun hf => ?_, ?_⟩
  · obtain ⟨m, hm⟩ := hrun hf
    cases ho : overtaken history with
    | false => rfl
    | true => exact absurd hp (h.late (by rw [hm]; rfl) ho hf)
  · rintro ⟨⟨m, hm⟩, ho⟩
    exact (h.early (by rw [hm]; rfl) ho).1
  · obtain hm | ⟨c, hc⟩ := h.tracked m hm
    · rw [hslot] at hm ⊢
      rw [show handle = some m from hm]
    · rw [hq c] at hc
      cases hc
  · obtain ⟨m, hm⟩ := hrun hf
    have ha := h.alive m (by rw [hm]; rfl) hf
    refine ⟨m, hm, ha, fun later s' hr' hn => ?_⟩
    obtain ⟨hf', ha'⟩ := hr'.watches hn hf ha
    exact scans_again hf' ha'
  · intro c s₁ later s' he hf hs hr' hn hq'
    have hreg := hs.regular h
    cases hs with
    | start hc =>
      have ho : ∀ d, d ≠ c → (s.setCaller c .starting).callers d = .idle := by
        intro d hd
        rw [callers_setCaller_of_ne _ hd, hq d]
      obtain ⟨hl, -⟩ := hr'.lone hn hreg he ho hslot (.starting (by simp) rfl hf)
      exact hl.isRunning_iff (hq' c)

theorem lifecycle_of_start :
    ∃ history s, Run (new ⟨5⟩ ⟨1⟩) history s ∧ s.Quiescent ∧ overtaken history = false ∧
      s.isRunning = true ∧ ∃ m, s.slot = .free (some m) ∧ (s.monitors m).isAlive = true := by
  have r : Run (new ⟨5⟩ ⟨1⟩) [] _ := .nil
  have r := r.step (.start (c := 0) rfl)
  have r := r.step (.lock (c := 0) rfl rfl rfl)
  have r := r.step (.raise (c := 0) rfl)
  have r := r.step (.launch (c := 0) (m := 0) rfl rfl)
  have r := r.step (.store (c := 0) rfl)
  have h := lifecycle r fun c =>
    match c with
    | 0 | _ + 1 => rfl
  have hf := h.1.2 ⟨⟨0, rfl⟩, rfl⟩
  obtain ⟨m, hm, ha, -⟩ := h.2.2.1 hf
  refine ⟨_, _, r, fun c => ?_, rfl, hf, m, hm, ha⟩
  match c with
  | 0 | _ + 1 => rfl

/-- Two calls that overlap can leave a handle without a monitor that watches. From then on a start
has no effect. -/
theorem exists_lost_start :
    ∃ history s s', Run (new ⟨5⟩ ⟨1⟩) history s ∧ s.Quiescent ∧ s.enforcer.isEnabled = true ∧
      s.isRunning = false ∧ s.slot = .free (some 1) ∧
      Run s [.pass 0, .start 0] s' ∧ s'.Quiescent ∧ s'.isRunning = false := by
  have r : Run (new ⟨5⟩ ⟨1⟩) [] _ := .nil
  have r := r.step (.start (c := 0) rfl)
  have r := r.step (.lock (c := 0) rfl rfl rfl)
  have r := r.step (.raise (c := 0) rfl)
  have r := r.step (.launch (c := 0) (m := 0) rfl rfl)
  have r := r.step (.store (c := 0) rfl)
  have r := r.step (.stop (c := 0) rfl)
  have r := r.step (.take (c := 0) rfl rfl)
  have r := r.step (.start (c := 1) rfl)
  have r := r.step (.lock (c := 1) rfl rfl rfl)
  have r := r.step (.raise (c := 1) rfl)
  have r := r.step (.launch (c := 1) (m := 1) rfl rfl)
  have r := r.step (.store (c := 1) rfl)
  have r := r.step (.lower (c := 0) rfl)
  have r := r.step (.look (m := 0) rfl)
  have r := r.step (.join (c := 0) rfl rfl)
  refine ⟨_, _, _, r, ?_, rfl, rfl, rfl,
    (Run.nil.step (.start (c := 0) rfl)).step (.occupied (c := 0) (m := 1) rfl rfl rfl), ?_, rfl⟩
  · intro c
    match c with
    | 0 | 1 | _ + 2 => rfl
  · intro c
    match c with
    | 0 | 1 | _ + 2 => rfl

/-- How a watch stands after calls that do not overlap. -/
structure Settled (s : Watch) : Prop where
  quiescent : s.Quiescent
  slot : ∃ handle, s.slot = .free handle ∧ handle.isSome = s.isRunning
  alive : ∀ m, s.slot = .free (some m) → (s.monitors m).isAlive = true
  vacant : ∃ n, ∀ m, n ≤ m → s.monitors m = .absent

theorem Run.trans {s'' : Watch} {early late : List Act} (h : Run s early s')
    (h' : Run s' late s'') : Run s (late ++ early) s'' := by
  induction h' with
  | nil => exact h
  | step _ hs ih => exact ih.step hs

theorem Quiescent.setCaller_idle (h : s.Quiescent) {p : Caller} :
    (s.setCaller c p).setCaller c .idle = s := by
  have hc : (fun d => if d = c then .idle else if d = c then p else s.callers d) = s.callers := by
    funext d
    by_cases hd : d = c
    · simp [hd, h c]
    · simp [hd]
  simp only [setCaller, hc]

/-- A monitor that is told to stop ends by its own acts. -/
theorem exists_ended (hf : s.isRunning = false) (hm : (s.monitors m).isAlive = true) :
    ∃ acts s', Run s acts s' ∧ s'.monitors m = .ended ∧ s'.enforcer = s.enforcer ∧
      s'.slot = s.slot ∧ s'.callers = s.callers ∧ ∀ n, n ≠ m → s'.monitors n = s.monitors n := by
  cases hp : s.monitors m with
  | looking =>
    refine ⟨_, _, Run.nil.step (.look hp), ?_, rfl, rfl, rfl, fun n hn => ?_⟩
    · simp [hf]
    · simp [hn]
  | resting =>
    refine ⟨_, _, Run.nil.step (.stir hp), ?_, rfl, rfl, rfl, fun n hn => ?_⟩
    · simp [hf]
    · simp [hn]
  | scanning =>
    refine ⟨_, _, (Run.nil.step (.scan hp)).step (.look (m := m) (by simp)), ?_, rfl, rfl, rfl,
      fun n hn => ?_⟩
    · simp [hf]
    · simp [hn]
  | absent | ended =>
    rw [hp] at hm
    cases hm

theorem Settled.exists_start (h : s.Settled) (c : CallerId) :
    ∃ acts s', Run s acts s' ∧ s'.enforcer = s.enforcer.start.1 ∧ s'.Settled := by
  obtain ⟨handle, hslot, hrun⟩ := h.slot
  have r := Run.nil.step (.start (h.quiescent c))
  cases he : s.enforcer.timeout with
  | none =>
    have r := r.step (.disabled (c := c) (by simp)
      (show s.enforcer.isEnabled = false by simp [Enforcer.isEnabled, he]))
    rw [h.quiescent.setCaller_idle] at r
    exact ⟨_, s, r, by simp [Enforcer.start, he], h⟩
  | some t =>
    have hen : s.enforcer.isEnabled = true := by simp [Enforcer.isEnabled, he]
    cases handle with
    | some m =>
      have hmon : s.enforcer.monitored = true := hrun.symm
      have r := r.step (.occupied (c := c) (by simp) hen hslot)
      rw [h.quiescent.setCaller_idle] at r
      exact ⟨_, s, r, by simp [Enforcer.start, he, hmon], h⟩
    | none =>
      have hmon : s.enforcer.monitored = false := hrun.symm
      obtain ⟨n, hn⟩ := h.vacant
      have r := r.step (.lock (c := c) (by simp) hen hslot)
      have r := r.step (.raise (c := c) rfl)
      have r := r.step (.launch (c := c) (m := n) rfl (hn n (Nat.le_refl n)))
      have r := r.step (.store (c := c) rfl)
      refine ⟨_, _, r, ?_, fun d => ?_, ⟨some n, rfl, rfl⟩, ?_, n + 1, fun m hm => ?_⟩
      · simp [Enforcer.start, he, hmon, setCaller, setSlot, setMonitor, setFlag]
      · by_cases hd : d = c
        · simp [hd]
        · simp [hd, h.quiescent d]
      · rintro m ⟨⟩
        simp [Monitor.isAlive]
      · have hne : m ≠ n := Nat.ne_of_gt hm
        simp [hne, hn m (Nat.le_of_lt hm)]

theorem Settled.exists_stop (h : s.Settled) (c : CallerId) :
    ∃ acts s', Run s acts s' ∧ s'.enforcer = s.enforcer.stop.1 ∧ s'.Settled := by
  obtain ⟨handle, hslot, hrun⟩ := h.slot
  have r := Run.nil.step (.stop (h.quiescent c))
  cases handle with
  | none =>
    have hmon : s.enforcer.monitored = false := hrun.symm
    have r := r.step (.vacant (c := c) (by simp) hslot)
    rw [h.quiescent.setCaller_idle] at r
    exact ⟨_, s, r, by simp [Enforcer.stop, hmon], h⟩
  | some m =>
    have hmon : s.enforcer.monitored = true := hrun.symm
    obtain ⟨n, hn⟩ := h.vacant
    have r := r.step (.take (c := c) (m := m) (by simp) hslot)
    have r := r.step (.lower (c := c) (m := m) (by simp))
    generalize ht : ((((s.setCaller c .stopping).setSlot (.free none)).setCaller c
      (.taken m)).setFlag false).setCaller c (.joining m) = t at r
    have hm : (t.monitors m).isAlive = true := by
      rw [← ht]
      exact h.alive m hslot
    obtain ⟨acts, s', r', hended, henf, hslot', hcallers, hother⟩ :=
      exists_ended (by rw [← ht]; rfl) hm
    have r := (r.trans r').step (.join (c := c) (by rw [hcallers, ← ht]; simp) hended)
    refine ⟨_, _, r, ?_, fun d => ?_, ⟨none, ?_, ?_⟩, ?_, n, fun k hk => ?_⟩
    · rw [enforcer_setCaller, henf, ← ht]
      simp [Enforcer.stop, hmon, setCaller, setSlot, setFlag]
    · by_cases hd : d = c
      · simp [hd]
      · simp [hd, hcallers, ← ht, h.quiescent d]
    · rw [slot_setCaller, hslot', ← ht]
      rfl
    · rw [isRunning_setCaller, isRunning, henf, ← ht]
      rfl
    · intro k hk
      rw [slot_setCaller, hslot', ← ht] at hk
      cases hk
    · have hne : k ≠ m := by
        rintro rfl
        have ha := h.alive k hslot
        rw [hn k hk] at ha
        cases ha
      rw [monitors_setCaller, hother k hne, ← ht]
      exact hn k hk

theorem new_settled (timeout interval : Duration) : (new timeout interval).Settled where
  quiescent _ := rfl
  slot := ⟨none, rfl, rfl⟩
  alive := nofun
  vacant := ⟨0, fun _ _ => rfl⟩

/-- Calls that are made one after the other do to the enforcer what its functions say. -/
theorem exists_calls {timeout interval : Duration} (c : CallerId)
    {calls : List (Enforcer → Enforcer)}
    (h : ∀ f ∈ calls, f = (fun e => e.start.1) ∨ f = (fun e => e.stop.1)) :
    ∃ acts s, Run (new timeout interval) acts s ∧ s.Settled ∧
      s.enforcer = calls.foldr (· ·) ((Enforcer.new timeout).withInterval interval) := by
  induction calls with
  | nil => exact ⟨[], _, .nil, new_settled timeout interval, rfl⟩
  | cons f calls ih =>
    obtain ⟨acts, s, r, hs, he⟩ := ih fun g hg => h g (.tail _ hg)
    rw [List.foldr_cons, ← he]
    obtain rfl | rfl := h f (.head _)
    · obtain ⟨acts', s', r', he', hs'⟩ := hs.exists_start c
      exact ⟨_, s', r.trans r', hs', he'⟩
    · obtain ⟨acts', s', r', he', hs'⟩ := hs.exists_stop c
      exact ⟨_, s', r.trans r', hs', he'⟩

end Watch

end Grok.Timeout
