import Mathlib
import Grok.Engine
import Grok.Proofs.Filter.Configured
import Grok.Proofs.Filter.Verdict
import Grok.Proofs.Timeout.Session
/-!
Filtering with and without deadlines. Two runs are followed side by side: one in which attempts may
run out of time, and one without bounds. Main statement: unless a field ran out of time, the outcome
and the record are those of the run without bounds, whatever unit of work the deadlines are for.
-/
namespace Grok

/-- The outcome of a matcher that is left to work to its end. -/
def Matcher.outcome (m : Matcher) (text : String) : MatchOutcome := .ofCaptures (m.execute text)

/-- The options with another scope and interval, and without a bound. -/
def Options.untimed (o : Options) (scope : Timeout.Scope) (intervalMillis : Nat) : Options :=
  { o with timeoutMillis := 0, scope := scope, intervalMillis := intervalMillis }

namespace Runner

variable {σ : Type}

/-- Every attempt comes to the outcome that the matcher has by itself, or runs out of time. -/
def Faithful (r : Runner σ) : Prop :=
  ∀ s m text d, (r.run s m text d).1 = m.outcome text ∨ (r.run s m text d).1.isTimedOut

/-- In these states there are no bounds, and every attempt comes to the outcome that the matcher has
by itself and leads to such a state again. -/
structure Unbounded (r : Runner σ) (P : σ → Prop) : Prop where
  deadline {s : σ} : P s → r.deadline s = .unbounded
  run {s : σ} (m : Matcher) (text : String) : P s →
    (r.run s m text .unbounded).1 = m.outcome text ∧ P (r.run s m text .unbounded).2.2

end Runner

/-- Both pieces of work have the same answer and leave the same record, the second one in a state
without bounds. -/
structure Agree {σ τ α : Type} (P : τ → Prop) (x : α × Progress σ) (y : α × Progress τ) :
    Prop where
  answer : y.1 = x.1
  event : y.2.event = x.2.event
  state : P y.2.state

theorem Agree.map {σ τ α β : Type} {P : τ → Prop} {x : α × Progress σ} {y : α × Progress τ}
    (h : Agree P x y) (g : α → β) : Agree P (g x.1, x.2) (g y.1, y.2) :=
  ⟨congrArg g h.answer, h.event, h.state⟩

namespace Filter

variable {σ τ : Type} {r : Runner σ} {u : Runner τ} {P : τ → Prop} {o : Options}
  {scope : Timeout.Scope} {interval : Nat} {field text : String} {pooled whole : Timeout.Deadline}
  {p : Progress σ} {q : Progress τ}

theorem attemptDeadline_unbounded (hu : u.Unbounded P) {s : τ} (hs : P s) (o : Options) :
    attemptDeadline u o .unbounded s = .unbounded := by
  unfold attemptDeadline
  split
  · rfl
  · exact hu.deadline hs

theorem tryText_untimed (hr : r.Faithful) (hu : u.Unbounded P) {ms : List Matcher}
    (h : (tryText r o field pooled text ms p).1 ≠ none) (he : q.event = p.event) (hs : P q.state) :
    Agree P (tryText r o field pooled text ms p)
      (tryText u (o.untimed scope interval) field .unbounded text ms q) := by
  induction ms generalizing p q with
  | nil => exact ⟨rfl, he, hs⟩
  | cons m ms ih =>
    rcases hrun : r.run p.state m text (attemptDeadline r o pooled p.state) with ⟨outcome, log, s⟩
    rcases hfree : u.run q.state m text (attemptDeadline u (o.untimed scope interval) .unbounded
      q.state) with ⟨outcome', log', s'⟩
    have houtcome := hr p.state m text (attemptDeadline r o pooled p.state)
    rw [hrun] at houtcome
    obtain ⟨houtcome', hs'⟩ := hu.run m text hs
    rw [← attemptDeadline_unbounded hu hs (o.untimed scope interval), hfree] at houtcome' hs'
    have hsame : ¬ outcome.isTimedOut → outcome' = outcome := fun hin =>
      houtcome'.trans (houtcome.resolve_right hin).symm
    cases outcome with
    | matched cs =>
      obtain rfl := hsame nofun
      have hevent : applyCaptures (o.untimed scope interval) q.event cs =
          applyCaptures o p.event cs := by rw [he]; rfl
      rw [tryText_of_matched hrun] at h ⊢
      rw [tryText_of_matched hfree]
      have hoptions : (o.untimed scope interval).breakOnMatch = o.breakOnMatch := rfl
      by_cases hbreak : o.breakOnMatch
      · simp only [hoptions, hbreak, if_true]
        exact ⟨rfl, hevent, hs'⟩
      · simp only [hoptions, hbreak] at h ⊢
        exact (ih (by simpa using h) hevent hs').map _
    | notMatched =>
      obtain rfl := hsame nofun
      rw [tryText_of_notMatched hrun] at h ⊢
      rw [tryText_of_notMatched hfree]
      exact ih h he hs'
    | timedOut elapsed =>
      rw [tryText_of_timedOut hrun] at h
      exact absurd rfl h

theorem tryTexts_untimed (hr : r.Faithful) (hu : u.Unbounded P) {f : FieldMatchers}
    {texts : List String} (h : (tryTexts r o f pooled texts p).1 ≠ none) (he : q.event = p.event)
    (hs : P q.state) :
    Agree P (tryTexts r o f pooled texts p)
      (tryTexts u (o.untimed scope interval) f .unbounded texts q) := by
  induction texts generalizing p q with
  | nil => exact ⟨rfl, he, hs⟩
  | cons text texts ih =>
    have hfirst : (tryText r o f.field pooled text f.matchers p).1 ≠ none →
        Agree P (tryText r o f.field pooled text f.matchers p)
          (tryText u (o.untimed scope interval) f.field .unbounded text f.matchers q) :=
      fun h => tryText_untimed hr hu h he hs
    rw [tryTexts] at h ⊢
    rw [tryTexts]
    generalize tryText r o f.field pooled text f.matchers p = x at h hfirst ⊢
    generalize tryText u (o.untimed scope interval) f.field .unbounded text f.matchers q = y
      at hfirst ⊢
    obtain ⟨_ | found, p'⟩ := x
    · exact absurd rfl h
    · obtain ⟨answer, q'⟩ := y
      obtain ⟨rfl, he', hs'⟩ := hfirst (Option.some_ne_none found)
      exact (ih (by simpa using h) he' hs').map _

theorem tryField_untimed (hr : r.Faithful) (hu : u.Unbounded P) {f : FieldMatchers}
    (h : (tryField r o whole f p).1 ≠ .timedOut) (he : q.event = p.event) (hs : P q.state) :
    Agree P (tryField r o whole f p)
      (tryField u (o.untimed scope interval) .unbounded f q) := by
  have hdeadline : fieldDeadline u (o.untimed scope interval) .unbounded q.state = .unbounded := by
    unfold fieldDeadline
    split
    · rfl
    · exact hu.deadline hs
    · rfl
  simp only [tryField, he] at h ⊢
  cases hget : p.event.get f.field with
  | none => exact ⟨rfl, he, hs⟩
  | some v =>
    simp only [hget, matchField_eq, hdeadline] at h ⊢
    refine (tryTexts_untimed hr hu (fun hnone => h ?_) he hs).map _
    rw [hnone]
    rfl

theorem tryFields_untimed (hr : r.Faithful) (hu : u.Unbounded P) {fs : List FieldMatchers}
    (h : ∀ d ∈ (tryFields r o whole fs p).1, d.2 ≠ .timedOut) (he : q.event = p.event)
    (hs : P q.state) :
    Agree P (tryFields r o whole fs p)
      (tryFields u (o.untimed scope interval) .unbounded fs q) := by
  induction fs generalizing p q with
  | nil => exact ⟨rfl, he, hs⟩
  | cons f fs ih =>
    have hfirst : (tryField r o whole f p).1 ≠ .timedOut →
        Agree P (tryField r o whole f p)
          (tryField u (o.untimed scope interval) .unbounded f q) :=
      fun h => tryField_untimed hr hu h he hs
    rw [tryFields] at h ⊢
    rw [tryFields]
    generalize tryField r o whole f p = x at h hfirst ⊢
    generalize tryField u (o.untimed scope interval) .unbounded f q = y at hfirst ⊢
    obtain ⟨outcome, p'⟩ := x
    obtain ⟨outcome', q'⟩ := y
    have hoptions : (o.untimed scope interval).breakOnMatch = o.breakOnMatch := rfl
    by_cases hbreak : (outcome = .matched && o.breakOnMatch) = true
    · simp only [hbreak, if_true, List.mem_singleton, forall_eq] at h
      obtain ⟨rfl, he', hs'⟩ := hfirst h
      simp only [hoptions, hbreak, if_true]
      exact ⟨rfl, he', hs'⟩
    · simp only [hbreak, Bool.false_eq_true, if_false, List.mem_cons, forall_eq_or_imp] at h
      obtain ⟨rfl, he', hs'⟩ := hfirst h.1
      simp only [hoptions, hbreak, Bool.false_eq_true, if_false]
      exact (ih h.2 he' hs').map _

/-- Filters of the same patterns that differ in what concerns time come to the same, unless a field
ran out of time. -/
theorem apply_untimed (hr : r.Faithful) (hu : u.Unbounded P) {f g : Filter}
    (hfields : g.fields = f.fields) (hoptions : g.options = f.options.untimed scope interval)
    (h : ¬ (apply r f p).1.isTimedOut) (he : q.event = p.event) (hs : P q.state) :
    Agree P (apply r f p) (apply u g q) := by
  have hdeadline : eventDeadline u (f.options.untimed scope interval) q.state = .unbounded := by
    unfold eventDeadline
    split
    · exact hu.deadline hs
    · rfl
    · rfl
  have hintime : ∀ d ∈ (tryFields r f.options (eventDeadline r f.options p.state) f.fields
      (f.begin p)).1, d.2 ≠ .timedOut := by
    intro d hd htimed
    exact h (List.any_eq_true.2 ⟨d, hd, by simp [htimed]⟩)
  have hrun : Agree P
      (tryFields r f.options (eventDeadline r f.options p.state) f.fields (f.begin p))
      (tryFields u (f.options.untimed scope interval) .unbounded f.fields (g.begin q)) :=
    tryFields_untimed hr hu hintime he hs
  obtain ⟨hanswer, hevent, hstate⟩ := hrun
  rw [apply_eq, apply_eq, hoptions, hfields, hdeadline]
  refine ⟨?_, ?_, hstate⟩
  · simp only [finish, hanswer]
  · simp only [finish, hanswer, hevent]
    rfl

theorem fields_untimed {tree : FileTree} {f g : Filter} (hf : (ofOptions tree o).1 = .ok f)
    (hg : (ofOptions tree (o.untimed scope interval)).1 = .ok g) : g.fields = f.fields := by
  obtain ⟨-, hload, hfields⟩ := ofOptions_eq_ok hf
  obtain ⟨-, hload', hfields'⟩ := ofOptions_eq_ok hg
  have hsources : (o.untimed scope interval).sources = o.sources := rfl
  have hlibrary : g.library = f.library := by
    rw [hsources, hload] at hload'
    exact (Except.ok.inj hload').symm
  rw [hlibrary] at hfields'
  exact Except.ok.inj (hfields'.symm.trans hfields)

end Filter

namespace Timeout.Session

variable {c : Session} {m : Matcher} {text : String} {expires : Instant}

theorem runBounded_faithful : (c.runBounded m text expires).1 = m.outcome text ∨
    (c.runBounded m text expires).1.isTimedOut := by
  cases ha : m.attempt (some ((expires - c.now).toNat / stepNanos)) text with
  | done captures steps =>
    have he : (c.submit expires).evaluate m text expires =
        ((c.submit expires).elapse steps).deliver (.ok captures) := by
      simp [evaluate, submit, ha]
    left
    rw [runBounded, he, Matcher.outcome, m.execute_of_attempt ha]
    simp [elapse, deliver, submit, wait, Mailbox.deliver, Mailbox.expect, Mailbox.collect?,
      MatchOutcome.ofResult]
  | cutOff =>
    have he : (c.submit expires).evaluate m text expires = (c.submit expires).scan expires := by
      simp [evaluate, submit, ha]
    have hdue : ((c.submit expires).enforcer.ledger.overdue expires).contains c.worker.id := by
      rw [List.contains_iff_mem, Ledger.mem_overdue]
      exact ⟨expires, Ledger.mem_register.2 (.inl rfl), Int.le_refl _⟩
    have hwait : ((c.submit expires).scan expires).wait.1 = some .interrupted := by
      have hbox : ((c.submit expires).scan expires).worker.mailbox =
          (c.submit expires).worker.mailbox.interrupt := if_pos hdue
      have hcollect : (c.submit expires).worker.mailbox.interrupt.collect? =
          some (.interrupted, (c.submit expires).worker.mailbox.interrupt) :=
        Mailbox.collect?_eq_interrupted_iff.2 ⟨rfl, rfl, rfl⟩
      rw [wait, hbox, hcollect]
    right
    rw [runBounded, he]
    generalize ((c.submit expires).scan expires).wait = w at hwait ⊢
    obtain ⟨_, s'⟩ := w
    obtain rfl := hwait
    rfl

/-- An attempt of a session comes to what the matcher comes to by itself, or runs out of time. -/
theorem runner_faithful : runner.Faithful := by
  intro c m text d
  obtain ⟨later, -, hinline⟩ := c.runInline_eq m text
  simp only [runner, run]
  cases d.expires? with
  | none =>
    left
    rw [hinline]
    rfl
  | some expires =>
    dsimp only
    split
    · exact .inr rfl
    · split
      · exact runBounded_faithful
      · left
        rw [hinline]
        rfl

/-- Without a timeout a session sets no bounds. -/
theorem runner_unbounded : runner.Unbounded fun c => ¬ c.enforcer.isEnabled where
  deadline {c} hc := by
    have hnone : c.enforcer.timeout = none := by simpa [Enforcer.isEnabled] using hc
    simp [runner, deadline, Enforcer.deadline, hnone, Deadline.startingAt]
  run {c} m text hc := by
    obtain ⟨later, -, hinline⟩ := c.runInline_eq m text
    simp only [runner, run, Deadline.expires?, hinline]
    exact ⟨rfl, hc⟩

end Timeout.Session

namespace Engine

variable {tree : FileTree} {o : Options} {scope : Timeout.Scope} {interval : Nat} {e u : Engine}

theorem ofOptions_eq_ok (h : (ofOptions tree o).1 = .ok e) :
    (Filter.ofOptions tree o).1 = .ok e.filter ∧
      e.session = (Timeout.Session.new (enforcerOf o)).start.1 := by
  unfold ofOptions at h
  split at h
  · cases h
  · next hfilter =>
    cases h
    exact ⟨by rw [hfilter], rfl⟩

/-- Time changes nothing but by running out. Of two engines of the same options that differ in what
concerns time, let the first one make its attempts in any way in which each comes to what the
matcher comes to by itself or runs out of time, and let the second one have no timeout. Unless a
field of a record runs out of time in the first, both come to the same outcome and leave the same
record, whatever the second one has done before. -/
theorem run_untimed (he : (ofOptions tree o).1 = .ok e)
    (hu : (ofOptions tree (o.untimed scope interval)).1 = .ok u) {σ : Type} {r : Runner σ}
    (hr : r.Faithful) {p : Progress σ} (h : ¬ (e.filter.apply r p).1.isTimedOut) :
    ¬ u.session.enforcer.isEnabled ∧ ∀ c : Timeout.Session, ¬ c.enforcer.isEnabled →
      let v : Engine := { u with session := c }
      (v.run p.event).1 = (e.filter.apply r p).1 ∧
        (v.run p.event).2.1 = (e.filter.apply r p).2.event := by
  obtain ⟨hf, -⟩ := ofOptions_eq_ok he
  obtain ⟨hg, hsession⟩ := ofOptions_eq_ok hu
  have hdisabled : enforcerOf (o.untimed scope interval) = .disabled := rfl
  refine ⟨by rw [hsession, hdisabled]; decide, fun c hc => ?_⟩
  have hoptions : u.filter.options = e.filter.options.untimed scope interval := by
    rw [(Filter.ofOptions_eq_ok hf).1, (Filter.ofOptions_eq_ok hg).1]
  have hrun : Agree _ (e.filter.apply r p)
      (u.filter.apply Timeout.Session.runner ⟨p.event, c, []⟩) :=
    Filter.apply_untimed hr Timeout.Session.runner_unbounded (Filter.fields_untimed hf hg) hoptions
      h rfl hc
  exact ⟨hrun.answer, hrun.event⟩

theorem run_untimed_letter :
    let o : Options :=
      { Options.initial with patterns := [("message", ["(?<w>a)"])], builtins := false }
    let m : Matcher :=
      ⟨"(?<w>a)", "(?<w>a)", .group 1 (some "w") (.char (.exactly 97)), [⟨"w", "w", .text⟩]⟩
    let e : Engine :=
      ⟨⟨o, .empty, [⟨"message", [m]⟩]⟩, (Timeout.Session.new (enforcerOf o)).start.1⟩
    let u : Engine := ⟨⟨o.untimed .event 10, .empty, [⟨"message", [m]⟩]⟩, .new .disabled⟩
    let event : Event := ⟨[("message", .string "ba")]⟩
    (ofOptions .empty o).1 = .ok e ∧ (ofOptions .empty (o.untimed .event 10)).1 = .ok u ∧
      (e.run event).1.isMatched ∧ (u.run event).1 = (e.run event).1 ∧
      (u.run event).2.1 = (e.run event).2.1 := by
  intro o m e u event
  have he : (ofOptions .empty o).1 = .ok e := by
    subst o m e
    cbv
  have hu : (ofOptions .empty (o.untimed .event 10)).1 = .ok u := by
    subst o m u
    cbv
  have hmatched : (e.run event).1.isMatched ∧ ¬ (e.run event).1.isTimedOut := by decide +kernel
  obtain ⟨hdisabled, hsame⟩ := run_untimed (p := ⟨event, e.session, []⟩) he hu
    Timeout.Session.runner_faithful hmatched.2
  exact ⟨he, hu, hmatched.1, hsame u.session hdisabled⟩

end Engine

end Grok
