import Grok.Proofs.Timeout.Transparency
/-!
Deadlines that have passed. A worker is told that its time ran out only once the clock has reached
the deadline of its call. Main statement: from then on, every call of the worker that shares the
deadline is over at once, whatever the others do, and no executor gets a job for it.
-/
namespace Grok.Timeout

/-- A call and what it came to. -/
structure Turn where
  call : Call
  outcome : MatchOutcome

namespace Turn

/-- What a worker asks and is told. -/
def acts (w : WorkerId) (t : Turn) : List Act := [.call w t.call, .answer w t.outcome]

/-- All that a worker does for a call whose time was up before. -/
def lateActs (w : WorkerId) (t : Turn) : List Act :=
  [.call w t.call, .work w, .answer w (.timedOut .zero)]

end Turn

/-- Whether a worker asks for something, or is told what it came to. -/
def Act.isExchange (w : WorkerId) : Act → Bool
  | .call v _ | .answer v _ => v == w
  | _ => false

/-- What a worker asks and is told in some acts, oldest first. -/
def exchange (w : WorkerId) (history : List Act) : List Act :=
  (history.filter (Act.isExchange w)).reverse

/-- What a worker does in some acts, oldest first. -/
def deeds (w : WorkerId) (history : List Act) : List Act :=
  (history.filter (·.worker? = some w)).reverse

/-- No scan is ahead of the clock. -/
def Crew.Timely (s : Crew) : Prop := ∀ e c, s.scans e = some c → c.instant ≤ s.now

/-- Whether a call in front of its deadline goes by the deadline that it came with. -/
def Phase.Dated : Phase → Prop
  | .inTime c _ expires => c.deadline.expires? = some expires
  | .bounded t _ | .returned t _ => t.call.deadline.expires? = some t.expires
  | .idle | .called _ | .settled .. => True

/-- What a worker has done, newest first, and how far it is, if all of its calls have come after
their common deadline. -/
inductive Belated (w : WorkerId) (expires : Instant) : List Act → Phase → Prop
  | idle : Belated w expires [] .idle
  | call {acts : List Act} {c : Call} : Belated w expires acts .idle →
      c.deadline.expires? = some expires → Belated w expires (.call w c :: acts) (.called c)
  | pass {acts : List Act} {c : Call} : Belated w expires acts (.called c) →
      Belated w expires (.work w :: acts) (.settled c (.timedOut .zero))
  | answer {acts : List Act} {c : Call} : Belated w expires acts (.settled c (.timedOut .zero)) →
      Belated w expires (.answer w (.timedOut .zero) :: acts) .idle

variable {execute : Matcher → String → JobResult} {s₀ s s' : Crew} {w : WorkerId} {a : Act}
  {m : Member} {f : Effect} {history : List Act} {c : Call} {o : MatchOutcome} {e : EnforcerId}
  {expires : Instant} {t : Stint} {acts early late : List Act}

/-! ### Acts -/

theorem Run.split (hr : Run execute s₀ (late ++ early) s) :
    ∃ s₁, Run execute s₀ early s₁ ∧ Run execute s₁ late s := by
  induction late generalizing s with
  | nil => exact ⟨s, hr, .nil⟩
  | cons a late ih =>
    cases hr with
    | step hr hs =>
      obtain ⟨s₁, hearly, hlate⟩ := ih hr
      exact ⟨s₁, hearly, hlate.step hs⟩

theorem Run.now_le (hr : Run execute s₀ history s) : s₀.now ≤ s.now := by
  induction hr with
  | nil => exact Int.le_refl _
  | step _ hs ih => exact Int.le_trans ih hs.now_le

theorem Act.worker?_of_isExchange (h : a.isExchange w = true) : a.worker? = some w := by
  cases a with
  | call v c | answer v o => exact congrArg some (by simpa [isExchange] using h)
  | _ => cases h

theorem filter_isExchange (w : WorkerId) (history : List Act) :
    history.filter (Act.isExchange w) = (exchange w history).reverse :=
  (List.reverse_reverse _).symm

@[simp] theorem exchange_cons_answer (w : WorkerId) (o : MatchOutcome) (history : List Act) :
    exchange w (.answer w o :: history) = exchange w history ++ [.answer w o] := by
  rw [exchange, List.filter_cons_of_pos (by simp [Act.isExchange]), List.reverse_cons]
  rfl

theorem lastCall?_append (h : ∀ a ∈ late, a.isExchange w = false) :
    lastCall? w (late ++ early) = lastCall? w early := by
  induction late with
  | nil => rfl
  | cons a late ih =>
    obtain ⟨ha, hlate⟩ := List.forall_mem_cons.1 h
    rw [List.cons_append, lastCall?_cons_of_ne, ih hlate]
    rintro c rfl
    simp [Act.isExchange] at ha

/-! ### The clock -/

theorem Crew.new_timely (timeouts intervals : EnforcerId → Duration) (now : Instant) :
    (Crew.new timeouts intervals now).Timely := by
  intro e c hc
  cases hc

theorem Crew.Timely.setScan (h : s.Timely) {c : Option Scan}
    (hc : ∀ d, c = some d → d.instant ≤ s.now) : (s.setScan e c).Timely := by
  intro d x hx
  by_cases hd : d = e
  · subst hd
    rw [scans_setScan_self] at hx
    exact hc x hx
  · rw [scans_setScan_of_ne _ hd] at hx
    exact h d x hx

theorem Step.timely (hs : Step execute s a s') (h : s.Timely) : s'.Timely := by
  cases hs with
  | move hm =>
    intro e c hc
    simp only [Crew.scans_setMember, Crew.scans_apply, Crew.now_setMember, Crew.now_apply] at hc ⊢
    exact h e c hc
  | tick ht => exact fun e c hc => Int.le_trans (h e c hc) ht
  | scan he ht =>
    refine h.setScan ?_
    rintro _ ⟨⟩
    exact ht
  | strike he hl hle =>
    have hscan := h _ _ he
    refine Crew.Timely.setScan h ?_
    rintro _ ⟨⟩
    exact hscan
  | signal he =>
    have hscan := h _ _ he
    refine Crew.Timely.setScan h ?_
    rintro _ ⟨⟩
    exact hscan
  | scanned he => exact h.setScan nofun
  | start | stop | take | deliver | exit | crash => exact h

theorem Run.timely (hr : Run execute s₀ history s) (h : s₀.Timely) : s.Timely := by
  induction hr with
  | nil => exact h
  | step _ hs ih => exact hs.timely ih

/-- Whoever has its entry struck out is past its time then, and stays so. -/
theorem Within.expires_le (hw : Within execute s₀ w t (Strikes w t) history s) (h : s₀.Timely) :
    t.expires ≤ s.now := by
  induction hw with
  | now hr hs _ hp =>
    obtain ⟨-, -, u, hscan, hle⟩ := hp
    exact Int.le_trans hle (Int.le_trans (hr.timely h _ _ hscan) hs.now_le)
  | later _ hs _ ih => exact Int.le_trans ih hs.now_le

theorem Phase.Dated.alike {p q : Phase} (h : q.Dated) (ha : p.Alike q) : p.Dated := by
  cases ha with
  | refl | wait => exact h

theorem Move.dated (hm : Move execute s w a m f) (h : (s.members w).phase.Dated) :
    m.phase.Dated := by
  cases hm with
  | early _ hd => exact hd
  | call | unbounded | late | unmonitored | settle | finish | abandon | fail => trivial
  | _ => simp_all [Phase.Dated]

theorem Step.dated (hs : Step execute s a s') (h : (s.members w).phase.Dated) :
    (s'.members w).phase.Dated := by
  obtain ⟨m, f, hm, rfl⟩ | ⟨-, -, ha⟩ := hs.alike w
  · rw [Crew.members_setMember_self]
    exact hm.dated h
  · exact h.alike ha

theorem Run.dated (hr : Run execute s₀ history s) (h : (s₀.members w).phase.Dated) :
    (s.members w).phase.Dated := by
  induction hr with
  | nil => exact h
  | step _ hs ih => exact hs.dated ih

/-- Time runs out only at the deadline of the call, and not before. -/
theorem Run.expires_le_of_answer {timeouts intervals : EnforcerId → Duration} {now : Instant}
    (hr : Run execute (.new timeouts intervals now) history s) {elapsed : Duration}
    (hs : Step execute s (.answer w (.timedOut elapsed)) s') (hc : lastCall? w history = some c) :
    ∃ expires, c.deadline.expires? = some expires ∧ expires ≤ s.now := by
  have hdated : (s.members w).phase.Dated := hr.dated trivial
  have hcall {d : Call} (hd : (s.members w).phase.call? = some d) : d = c :=
    Option.some.inj ((hr.called rfl hd).symm.trans hc)
  generalize ho : MatchOutcome.timedOut elapsed = o at hs
  cases hs with
  | move hm =>
    cases hm with
    | settle hp =>
      have hexplained : (s.members w).phase.Explained execute s.now := hr.explained trivial
      rw [hp] at hexplained
      obtain rfl := hcall (by rw [hp]; rfl)
      obtain hinline | ⟨-, hlate⟩ := hexplained
      · exact absurd (ho.trans hinline).symm (MatchOutcome.ofResult_ne_timedOut _ _)
      · exact hlate
    | finish hp => exact absurd ho.symm (MatchOutcome.ofResult_ne_timedOut _ _)
    | @abandon t hp =>
      obtain rfl := hcall (by rw [hp]; rfl)
      rw [hp] at hdated
      have hstruck : Within execute (.new timeouts intervals now) w t (Strikes w t) history s :=
        hr.within_strikes (Crew.new_standing timeouts intervals now)
          (by simp [Member.Interrupted, Crew.new, Member.new, Phase.stint?])
          ⟨by rw [hp]; rfl, .inr (by rw [hp]; rfl)⟩
      exact ⟨t.expires, hdated, hstruck.expires_le (Crew.new_timely _ _ _)⟩
    | fail => cases ho

/-! ### Calls behind their deadline -/

theorem Belated.not_isBounded {p : Phase} (h : Belated w expires acts p) : p.isBounded = false := by
  cases h <;> rfl

theorem Belated.alike {p q : Phase} (h : Belated w expires acts q) (ha : p.Alike q) :
    Belated w expires acts p := by
  cases ha with
  | refl => exact h
  | wait => cases h

theorem Move.belated (hm : Move execute s w a m f)
    (h : Belated w expires acts (s.members w).phase) (hnow : expires ≤ s.now)
    (hcall : ∀ c, a = .call w c → c.deadline.expires? = some expires) :
    Belated w expires (a :: acts) m.phase := by
  cases hm with
  | call hp =>
    rw [hp] at h
    exact h.call (hcall _ rfl)
  | late hp =>
    rw [hp] at h
    exact h.pass
  | settle hp =>
    rw [hp] at h
    cases h with
    | pass h => exact h.pass.answer
  | unbounded hp hd =>
    rw [hp] at h
    cases h with
    | call _ hc =>
      rw [hd] at hc
      cases hc
  | early hp hd hlt =>
    rw [hp] at h
    cases h with
    | call _ hc =>
      obtain rfl := Option.some.inj (hd.symm.trans hc)
      exact absurd hnow (Int.not_le.2 hlt)
  | unmonitored hp | enlist hp | clear hp | announce hp | reuse hp | hire hp | lack hp
    | register hp | submit hp | refuse hp | sleep hp | stir hp | wake hp | leave hp | miss hp
    | unsignal hp | keep hp | drop hp | finish hp | abandon hp | fail hp =>
    rw [hp] at h
    cases h

theorem Step.belated (hs : Step execute s a s')
    (h : Belated w expires acts (s.members w).phase) (hnow : expires ≤ s.now)
    (hcall : ∀ c, a = .call w c → c.deadline.expires? = some expires) :
    Belated w expires (if a.worker? = some w then a :: acts else acts) (s'.members w).phase := by
  obtain ⟨m, f, hm, rfl⟩ | ⟨hw, -, ha⟩ := hs.alike w
  · rw [if_pos hm.worker?, Crew.members_setMember_self]
    exact hm.belated h hnow hcall
  · rw [if_neg hw]
    exact h.alike ha

theorem Run.belated (hr : Run execute s₀ history s) (h : (s₀.members w).phase = .idle)
    (hnow : expires ≤ s₀.now)
    (hcall : ∀ c, .call w c ∈ history → c.deadline.expires? = some expires) :
    Belated w expires (history.filter (·.worker? = some w)) (s.members w).phase := by
  induction hr with
  | nil =>
    rw [h]
    exact .idle
  | @step history s a s' hr hs ih =>
    have hstep := hs.belated (ih fun c hc => hcall c (List.mem_cons_of_mem _ hc))
      (Int.le_trans hnow hr.now_le) fun c hc => hcall c (hc ▸ List.mem_cons_self)
    rw [List.filter_cons]
    simpa using hstep

theorem Step.owed_of_not_isBounded (hs : Step execute s a s') {j : Job}
    (hp : (s.members w).phase.isBounded = false) (h : s'.Owed w j) : s.Owed w j := by
  by_cases hw : a.worker? = some w
  · obtain ⟨m, f, hm, rfl⟩ | ⟨hn, -⟩ := hs.alike w
    · refine (hm.owed h).resolve_right ?_
      rintro ⟨-, t, x, hsubmit, -⟩
      rw [hsubmit] at hp
      cases hp
    · exact absurd hw hn
  · exact hs.owed hw h

/-- No executor gets a job for calls that come after their deadline. -/
theorem Run.owed_of_belated (hr : Run execute s₀ history s) (h : (s₀.members w).phase = .idle)
    (hnow : expires ≤ s₀.now)
    (hcall : ∀ c, .call w c ∈ history → c.deadline.expires? = some expires) {j : Job}
    (hj : s.Owed w j) : s₀.Owed w j := by
  induction hr with
  | nil => exact hj
  | step hr hs ih =>
    have hcall' := fun c hc => hcall c (List.mem_cons_of_mem _ hc)
    exact ih hcall' (hs.owed_of_not_isBounded (hr.belated h hnow hcall').not_isBounded hj)

/-- What is asked and told determines what is done. -/
theorem Belated.eq_of_exchange {p : Phase} {ts : List Turn} (h : Belated w expires acts p)
    (hx : acts.filter (Act.isExchange w) = ts.flatMap fun t => (t.acts w).reverse) :
    acts = ts.flatMap (fun t => (t.lateActs w).reverse) ∧
      ∀ t ∈ ts, t.outcome = .timedOut .zero := by
  induction ts generalizing acts p with
  | nil =>
    cases h with
    | idle => exact ⟨rfl, nofun⟩
    | call => simp [Act.isExchange] at hx
    | pass h =>
      cases h
      simp [Act.isExchange] at hx
    | answer => simp [Act.isExchange] at hx
  | cons t ts ih =>
    cases h with
    | idle => simp [Turn.acts] at hx
    | call => simp [Act.isExchange, Turn.acts] at hx
    | pass h =>
      cases h
      simp [Act.isExchange, Turn.acts] at hx
    | @answer _ c h =>
      cases h with
      | pass h =>
        cases h with
        | @call acts _ h =>
          obtain ⟨ho, hc, hx⟩ : .timedOut .zero = t.outcome ∧ c = t.call ∧
              acts.filter (Act.isExchange w) = ts.flatMap fun t => (t.acts w).reverse := by
            simpa [Act.isExchange, Turn.acts] using hx
          obtain ⟨hacts, hts⟩ := ih h hx
          refine ⟨?_, List.forall_mem_cons.2 ⟨ho.symm, hts⟩⟩
          rw [List.flatMap_cons, ← hacts, hc]
          rfl

theorem Belated.deeds_eq {p : Phase} {ts : List Turn}
    (h : Belated w expires (history.filter (·.worker? = some w)) p)
    (hx : exchange w history = ts.flatMap (Turn.acts w)) :
    deeds w history = ts.flatMap (Turn.lateActs w) ∧ ∀ t ∈ ts, t.outcome = .timedOut .zero := by
  have hown : (history.filter (·.worker? = some w)).filter (Act.isExchange w) =
      history.filter (Act.isExchange w) := by
    rw [List.filter_filter]
    refine List.filter_congr fun a _ => ?_
    cases ha : a.isExchange w with
    | false => rfl
    | true => simp [Act.worker?_of_isExchange ha]
  have hnewest : (history.filter (·.worker? = some w)).filter (Act.isExchange w) =
      ts.reverse.flatMap fun t => (t.acts w).reverse := by
    rw [hown, filter_isExchange, hx, List.reverse_flatMap]
    rfl
  obtain ⟨hacts, houtcomes⟩ := h.eq_of_exchange hnewest
  refine ⟨?_, fun t ht => houtcomes t (List.mem_reverse.2 ht)⟩
  rw [deeds, hacts, List.reverse_flatMap, List.reverse_reverse]
  simp [Function.comp_def]

theorem Step.idle_of_answer (hs : Step execute s (.answer w o) s') :
    (s'.members w).phase = .idle := by
  cases hs with
  | @move v _ m f hm =>
    obtain rfl : w = v := Option.some.inj hm.worker?
    rw [Crew.members_setMember_self]
    cases hm <;> rfl

/-! ### The end of the time of a call -/

variable {timeouts intervals : EnforcerId → Duration} {now : Instant} {past : List Act}
  {before after : List Turn} {u : Turn}

/-- The acts behind an answer, and those before it, of which the last exchange is its call. -/
theorem exists_split_of_exchange
    (h : exchange w history = (before ++ u :: after).flatMap (Turn.acts w)) :
    ∃ late early, history = late ++ .answer w u.outcome :: early ∧
      exchange w late = after.flatMap (Turn.acts w) ∧
      exchange w early = before.flatMap (Turn.acts w) ++ [.call w u.call] := by
  have hnewest : history.filter (Act.isExchange w) = (after.flatMap (Turn.acts w)).reverse ++
      .answer w u.outcome :: .call w u.call :: (before.flatMap (Turn.acts w)).reverse := by
    simp [filter_isExchange, h, Turn.acts]
  obtain ⟨newer, rest, rfl, hnewer, hrest⟩ := List.filter_eq_append_iff.1 hnewest
  obtain ⟨between, early, rfl, hbetween, -, hearly⟩ := List.filter_eq_cons_iff.1 hrest
  refine ⟨newer ++ between, early, (List.append_assoc ..).symm, ?_, ?_⟩
  · rw [exchange, List.filter_append, List.filter_eq_nil_iff.2 hbetween, List.append_nil, hnewer,
      List.reverse_reverse]
  · rw [exchange, hearly, List.reverse_cons, List.reverse_reverse]

theorem lastCall?_of_exchange (h : exchange w early = acts ++ [.call w c]) (past : List Act) :
    lastCall? w (early ++ past) = some c := by
  have hnewest : early.filter (Act.isExchange w) = .call w c :: acts.reverse := by
    simp [filter_isExchange, h]
  obtain ⟨skipped, older, rfl, hskipped, -⟩ := List.filter_eq_cons_iff.1 hnewest
  rw [List.append_assoc, lastCall?_append (by simpa using hskipped)]
  exact lastCall?_cons_self

theorem Run.expires_le (hpast : Run execute (.new timeouts intervals now) past s₀)
    (hr : Run execute s₀ (.answer w o :: early) s) (htimed : o.isTimedOut)
    (hcall : exchange w early = acts ++ [.call w c]) :
    ∃ expires, c.deadline.expires? = some expires ∧ expires ≤ s.now := by
  cases hr with
  | step hr hs =>
    cases o with
    | matched | notMatched => cases htimed
    | timedOut elapsed =>
      obtain ⟨expires, hexpires, hle⟩ :=
        (hpast.trans hr).expires_le_of_answer hs (lastCall?_of_exchange hcall past)
      exact ⟨expires, hexpires, Int.le_trans hle hs.now_le⟩

/-- Once a worker was told that the time of a call ran out, its later calls with the same deadline
are told so at once. It does nothing else for them, and no executor gets a job of its. -/
theorem Run.late_of_timedOut (hpast : Run execute (.new timeouts intervals now) past s₀)
    (hr : Run execute s₀ history s)
    (hturns : exchange w history = (before ++ u :: after).flatMap (Turn.acts w))
    (htimed : u.outcome.isTimedOut)
    (hafter : ∀ t ∈ after, t.call.deadline = u.call.deadline) :
    (∀ t ∈ after, t.outcome = .timedOut .zero) ∧
      ∃ early late s₁, history = late ++ early ∧
        Run execute s₀ early s₁ ∧ Run execute s₁ late s ∧
        exchange w early = (before ++ [u]).flatMap (Turn.acts w) ∧
        deeds w late = after.flatMap (Turn.lateActs w) ∧ ∀ j, s.Owed w j → s₁.Owed w j := by
  obtain ⟨late, early, rfl, hlate, hearly⟩ := exists_split_of_exchange hturns
  obtain ⟨s₁, hr₁, hr₂⟩ := hr.split
  -- The clock has reached the deadline at the answer, so that all later calls are belated.
  obtain ⟨expires, hexpires, hnow⟩ := hpast.expires_le hr₁ htimed hearly
  have hidle : (s₁.members w).phase = .idle := by
    cases hr₁ with
    | step _ hs => exact hs.idle_of_answer
  have hcall : ∀ c, .call w c ∈ late → c.deadline.expires? = some expires := by
    intro c hc
    have hmem : .call w c ∈ exchange w late :=
      List.mem_reverse.2 (List.mem_filter.2 ⟨hc, by simp [Act.isExchange]⟩)
    rw [hlate] at hmem
    obtain ⟨t, ht, hmem⟩ := List.mem_flatMap.1 hmem
    obtain rfl : c = t.call := by simpa [Turn.acts] using hmem
    rw [hafter t ht, hexpires]
  obtain ⟨hdeeds, houtcomes⟩ := (hr₂.belated hidle hnow hcall).deeds_eq hlate
  refine ⟨houtcomes, _, late, s₁, rfl, hr₁, hr₂, ?_, hdeeds,
    fun j => hr₂.owed_of_belated hidle hnow hcall⟩
  simp [hearly, Turn.acts]

/-- A worker can be interrupted at the deadline of a call, and be late with the next one. -/
theorem Crew.exists_late (execute : Matcher → String → JobResult) (m m' : Matcher)
    (text text' : String) :
    ∃ history s, Run execute (.new (fun _ => ⟨5⟩) (fun _ => ⟨1⟩) 0) history s ∧
      exchange 0 history = [Turn.mk ⟨0, m, text, .at 0 5⟩ (.timedOut ⟨5⟩),
        Turn.mk ⟨0, m', text', .at 0 5⟩ (.timedOut .zero)].flatMap (Turn.acts 0) := by
  have hlt : (0 : Instant) < 5 := by decide
  have hle : (5 : Instant) ≤ 5 := Int.le_refl 5
  have r : Run execute (.new (fun _ => ⟨5⟩) (fun _ => ⟨1⟩) 0) [] _ := .nil
  have r := r.step (.start (e := 0))
  have r := r.step (.move (.call (w := 0) (c := ⟨0, m, text, .at 0 5⟩) rfl))
  have r := r.step (.move (.early (w := 0) rfl rfl hlt))
  have r := r.step (.move (.enlist (w := 0) rfl rfl))
  have r := r.step (.move (.clear (w := 0) rfl))
  have r := r.step (.move (.announce (w := 0) rfl))
  have r := r.step (.move (.hire (w := 0) (x := 0) rfl rfl rfl))
  have r := r.step (.move (.register (w := 0) rfl rfl))
  have r := r.step (.move (.submit (w := 0) rfl rfl))
  have r := r.step (.take (x := 0) rfl)
  have r := r.step (.tick (t := 5) (Int.le_of_lt hlt))
  have r := r.step (.scan (e := 0) (t := 5) rfl hle)
  have r := r.step (.strike (e := 0) (t := 5) (w := 0) rfl (.head _) hle)
  have r := r.step (.signal (e := 0) rfl)
  have r := r.step (.move (.wake (w := 0) (k := .interrupted) rfl rfl))
  have r := r.step (.scanned (e := 0) (t := 5) rfl rfl)
  have r := r.step (.move (.miss (w := 0) rfl rfl rfl))
  have r := r.step (.move (.unsignal (w := 0) rfl))
  have r := r.step (.move (.drop (w := 0) rfl))
  have r := r.step (.move (.abandon (w := 0) rfl))
  have r := r.step (.move (.call (w := 0) (c := ⟨0, m', text', .at 0 5⟩) rfl))
  have r := r.step (.move (.late (w := 0) rfl rfl hle))
  exact ⟨_, _, r.step (.move (.settle (w := 0) rfl)), rfl⟩

end Grok.Timeout
