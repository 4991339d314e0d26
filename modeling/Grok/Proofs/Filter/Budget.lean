import Grok.Proofs.Filter.Course
import Grok.Proofs.Filter.Projection
import Grok.Proofs.Filter.Tour
import Grok.Proofs.Timeout.Expiry
/-!
Budgets for whole records. Main statement: once a field has run out of the time that all attempts on
a record share, the fields behind it get one late attempt at most, which is not carried out, and
nothing more is written.
-/
namespace Grok

open Timeout (Crew Act EnforcerId Turn WorkerId)
open Trial (AreRows IsRow written)

variable {σ : Type}

/-- Makes the same attempts, and keeps a list of the calls to an enforcer that they are. -/
def Runner.calling (r : Runner σ) (e : EnforcerId) : Runner (σ × List Turn) where
  deadline s := r.deadline s.1
  run s m text deadline :=
    let (outcome, log, s') := r.run s.1 m text deadline
    (outcome, log, s', s.2 ++ [⟨⟨e, m, text, deadline⟩, outcome⟩])

theorem Runner.calling_projects (r : Runner σ) (e : EnforcerId) :
    (r.calling e).Projects r Prod.fst where
  deadline_eq _ := rfl
  run_eq _ _ _ _ := rfl

namespace Trial

/-- The call of an attempt, and its outcome. -/
def turn (e : EnforcerId) (deadline : Timeout.Deadline) (t : Trial) : Turn :=
  ⟨⟨e, t.matcher, t.text, deadline⟩, t.outcome⟩

/-- The attempt that a field gets when the time is up: its first matcher on its first text. -/
def late? (e : Event) (f : FieldMatchers) : Option Trial :=
  (e.get f.field).bind fun v => v.texts.head?.bind fun text =>
    f.matchers.head?.map fun m => ⟨m, text, .timedOut .zero⟩

end Trial

namespace Visit

/-- What becomes of a field when the time is up. -/
def late (e : Event) (f : FieldMatchers) : Visit :=
  ⟨f.field, (e.get f.field).map fun _ => (Trial.late? e f).toList⟩

end Visit

/-- The outcome of a field when the time is up. -/
def FieldOutcome.late (e : Event) (f : FieldMatchers) : FieldOutcome :=
  match e.get f.field with
  | none => .missing
  | some v => if v.texts = [] then .notMatched else .timedOut

variable {o : Options} {e : Event} {f : FieldMatchers} {fs : List FieldMatchers} {v : Visit}
  {vs : List Visit} {ts us : List Trial} {t : Trial}

namespace Trial

theorem isTimedOut_of_outcome {elapsed : Timeout.Duration} (h : t.outcome = .timedOut elapsed) :
    t.isTimedOut := by
  rw [isTimedOut, h]
  rfl

theorem written_of_isTimedOut (h : ∀ t ∈ ts, t.isTimedOut) : written o e ts = e := by
  induction ts with
  | nil => rfl
  | cons t ts ih =>
    obtain ⟨ht, hts⟩ := List.forall_mem_cons.1 h
    obtain ⟨m, text, _ | _ | elapsed⟩ := t
    · cases ht
    · cases ht
    · exact ih hts

theorem IsRow.eq_singleton {m : Matcher} {ms : List Matcher} {text : String} {row : List Trial}
    (h : IsRow o (m :: ms) text row) (hlate : ∀ t ∈ row, t.outcome = .timedOut .zero) :
    row = [⟨m, text, .timedOut .zero⟩] := by
  have hmatchers := h.matchers_eq
  cases row with
  | nil => cases hmatchers
  | cons t row =>
    obtain ⟨htext, -⟩ := List.forall_mem_cons.1 h.text_eq
    obtain ⟨houtcome, -⟩ := List.forall_mem_cons.1 hlate
    have hlast : t.isLast o = true := by simp [isLast, isTimedOut_of_outcome houtcome]
    rw [List.findIdx_cons, hlast] at hmatchers
    obtain ⟨hm, hrow⟩ : t.matcher = m ∧ row = [] := by simpa using hmatchers
    subst hm hrow htext
    rw [← houtcome]

theorem AreRows.flatten_eq {ms : List Matcher} {texts : List String} {rows : List (List Trial)}
    (h : AreRows o ms texts rows) (hms : ms ≠ [])
    (hlate : ∀ t ∈ rows.flatten, t.outcome = .timedOut .zero) : rows.flatten =
      (texts.head?.bind fun text => ms.head?.map fun m => ⟨m, text, .timedOut .zero⟩).toList := by
  obtain ⟨m, ms, rfl⟩ := List.exists_cons_of_ne_nil hms
  cases texts with
  | nil =>
    rw [AreRows, List.take_nil, List.forall₂_nil_left_iff] at h
    rw [h]
    rfl
  | cons text texts =>
    cases rows with
    | nil => cases h
    | cons row rows =>
      rw [AreRows, List.findIdx_cons, List.take_succ_cons] at h
      obtain ⟨hrow, hrows⟩ := List.forall₂_cons.1 h
      obtain rfl := hrow.eq_singleton fun t ht => hlate t (List.mem_append_left _ ht)
      obtain rfl : rows = [] := List.forall₂_nil_left_iff.1 hrows
      rfl

end Trial

namespace Visit

theorem On.eq_late (h : v.On o e f) (hms : f.matchers ≠ [])
    (hlate : ∀ t ∈ v.trials, t.outcome = .timedOut .zero) : v = late e f := by
  cases h with
  | missing hget =>
    rw [late, hget]
    rfl
  | tried hget hrows =>
    rw [late, Trial.late?, hget, hrows.flatten_eq hms hlate]
    rfl

theorem trials_late (e : Event) (f : FieldMatchers) :
    (late e f).trials = (Trial.late? e f).toList := by
  rw [trials, late, Trial.late?]
  cases e.get f.field <;> rfl

theorem outcome_late (e : Event) (hms : f.matchers ≠ []) : (late e f).outcome = .late e f := by
  obtain ⟨m, ms, hms⟩ := List.exists_cons_of_ne_nil hms
  rw [late, Trial.late?, FieldOutcome.late, hms]
  cases e.get f.field with
  | none => rfl
  | some value =>
    rw [Option.map_some, outcome_some]
    cases htexts : value.texts with
    | nil => simp [htexts]
    | cons text texts =>
      simp [htexts, Trial.isTimedOut, MatchOutcome.isTimedOut]

/-- The trial that ran out of time is the last one on its field. -/
theorem On.exists_trials_eq_append (h : v.On o e f) (htimed : v.outcome = .timedOut) :
    ∃ before t, v.trials = before ++ [t] ∧ t.isTimedOut := by
  obtain ⟨t, ht, hlate⟩ := outcome_eq_timedOut_iff.1 htimed
  cases h with
  | missing => cases ht
  | @tried _ rows _ hrows =>
    obtain ⟨before, after, heq⟩ : ∃ before after, rows.flatten = before ++ t :: after :=
      List.append_of_mem ht
    refine ⟨before, t, heq.trans ?_, hlate⟩
    obtain rfl | hne := eq_or_ne after []
    · rfl
    · rw [List.append_cons] at heq
      have hdrop : t ∈ rows.flatten.dropLast := by
        rw [heq, List.dropLast_append_of_ne_nil hne]
        exact List.mem_append_left _ (List.mem_append_right _ List.mem_cons_self)
      exact absurd hlate (hrows.not_isTimedOut hdrop)

end Visit

namespace Tour

theorem eq_late (h : Tour o e fs vs) (hms : ∀ f ∈ fs, f.matchers ≠ [])
    (hlate : ∀ v ∈ vs, ∀ t ∈ v.trials, t.outcome = .timedOut .zero) :
    vs = fs.map (Visit.late e) := by
  induction h with
  | done => rfl
  | @stop e f fs v hv hmatched =>
    obtain ⟨⟨t, ht, hmatched⟩, -⟩ := Visit.outcome_eq_matched_iff.1 hmatched
    rw [Trial.isMatched, hlate v List.mem_cons_self t ht] at hmatched
    cases hmatched
  | @go e f fs v vs hv _ _ ih =>
    obtain ⟨hf, hfs⟩ := List.forall_mem_cons.1 hms
    obtain ⟨hfirst, hrest⟩ := List.forall_mem_cons.1 hlate
    have hevent : written o e v.trials = e :=
      Trial.written_of_isTimedOut fun t ht => Trial.isTimedOut_of_outcome (hfirst t ht)
    rw [hevent] at ih
    rw [List.map_cons, ← hv.eq_late hf hfirst, ← ih hfs hrest]

/-- The tour goes on behind a field that ran out of time. -/
theorem of_timedOut {us : List Visit} (h : Tour o e fs (us ++ v :: vs))
    (htimed : v.outcome = .timedOut) :
    (∃ f, v.On o (written o e (us.flatMap Visit.trials)) f) ∧
      Tour o (written o e (us.flatMap Visit.trials ++ v.trials)) (fs.drop (us.length + 1)) vs := by
  have hdrop := h.drop
  rw [← List.tail_drop, Trial.written_append]
  generalize fs.drop us.length = left at hdrop ⊢
  cases hdrop with
  | stop _ hmatched =>
    rw [htimed] at hmatched
    cases hmatched
  | go hv _ htour => exact ⟨⟨_, hv⟩, htour⟩

end Tour

namespace Filter

/-- The calls that are made while a record is filtered, in order. -/
def turns (r : Runner σ) (e : EnforcerId) (f : Filter) (p : Progress σ) : List Turn :=
  (apply (r.calling e) f ⟨p.event, (p.state, []), p.log⟩).2.state.2

/-- Where the budget is for a whole record, all calls share the deadline that it starts with. -/
theorem turns_eq (r : Runner σ) (e : EnforcerId) {f : Filter} (hscope : f.options.scope = .event)
    (p : Progress σ) :
    turns r e f p = (trials r f p).map (Trial.turn e (r.deadline p.state)) := by
  let q : Progress (σ × List Turn) := ⟨p.event, (p.state, []), p.log⟩
  have hturns : turns r e f p =
      (apply (r.calling e).recording f (q.recorded [])).2.state.1.2 := by
    have hmap := apply_map (r.calling e).recording_projects f (q.recorded [])
    exact congrArg (fun x => x.2.state.2) hmap
  have htrials : trials r f p = trials (r.calling e) f q := trials_map (r.calling_projects e) f q
  rw [hturns, htrials]
  refine apply_keeps (r := (r.calling e).recording) (p := q.recorded [])
    (I := fun s => s.1.2 = s.2.map (Trial.turn e (r.deadline p.state))) ?_ rfl
  intro s m text d _ hd hs
  obtain rfl := hd hscope
  change s.1.2 ++ [_] = (s.2 ++ [_]).map _
  rw [List.map_append, hs]
  rfl

/-- The trials up to the one for which a field ran out of time, and the tour that goes on. -/
theorem exists_tour_of_timedOut {r : Runner σ} {f : Filter} {p : Progress σ}
    {done later : List (String × FieldOutcome)} {field : String}
    (h : (apply r f p).1.fields = done ++ (field, .timedOut) :: later) :
    ∃ before t vs, t.isTimedOut ∧ trials r f p = before ++ t :: vs.flatMap Visit.trials ∧
      later = vs.map (fun v => (v.field, v.outcome)) ∧
      Tour f.options (written f.options p.event before) (f.fields.drop (done.length + 1)) vs := by
  obtain ⟨vs, htour, hfields, htrials⟩ := exists_tour r f p
  obtain ⟨us, vs, rfl, rfl, hlater⟩ := List.map_eq_append_iff.1 (hfields.symm.trans h)
  obtain ⟨v, vs, rfl, hv, rfl⟩ := List.map_eq_cons_iff.1 hlater
  obtain ⟨⟨g, hon⟩, hrest⟩ := htour.of_timedOut (congrArg Prod.snd hv)
  obtain ⟨before, t, hlast, htimed⟩ := hon.exists_trials_eq_append (congrArg Prod.snd hv)
  refine ⟨us.flatMap Visit.trials ++ before, t, vs, htimed, ?_, rfl, ?_⟩
  · simp [htrials, hlast]
  · rw [hlast, ← List.append_assoc, Trial.written_append,
      Trial.written_of_isTimedOut (by simpa using htimed)] at hrest
    rwa [List.length_map]

/-- Let a worker filter a record by calls to an enforcer of a crew, in any run of the crew, with one
budget for the record. Once a field has run out of time, the fields behind it that hold a text run
out of time as well, with one attempt that is over at once and that no executor gets, the others are
missing or do not match, and nothing more is written. -/
theorem fields_of_timedOut {execute : Matcher → String → Timeout.JobResult}
    {timeouts intervals : EnforcerId → Timeout.Duration} {now : Timeout.Instant} {s₀ s : Crew}
    {past history : List Act} {w : WorkerId} {enforcer : EnforcerId} {tree : FileTree} {f : Filter}
    {r : Runner σ} {p : Progress σ} {done later : List (String × FieldOutcome)} {field : String}
    (hpast : Timeout.Run execute (.new timeouts intervals now) past s₀)
    (hrun : Timeout.Run execute s₀ history s) (hf : (ofOptions tree f.options).1 = .ok f)
    (hscope : f.options.scope = .event)
    (hturns : Timeout.exchange w history = (turns r enforcer f p).flatMap (Turn.acts w))
    (htimed : (apply r f p).1.fields = done ++ (field, .timedOut) :: later) :
    ∃ before t early late s₁,
      let e := written f.options p.event before
      let rest := f.fields.drop (done.length + 1)
      let turn := Trial.turn enforcer (r.deadline p.state)
      t.isTimedOut ∧ trials r f p = before ++ t :: rest.filterMap (Trial.late? e) ∧
        later = rest.map (fun g => (g.field, .late e g)) ∧
        (apply r f p).2.event = tagEvent f.options (apply r f p).1 e ∧
        history = late ++ early ∧ Timeout.Run execute s₀ early s₁ ∧
        Timeout.Run execute s₁ late s ∧
        Timeout.exchange w early = (before ++ [t]).flatMap (fun u => (turn u).acts w) ∧
        Timeout.deeds w late =
          (rest.filterMap (Trial.late? e)).flatMap (fun u => (turn u).lateActs w) ∧
        ∀ j, s.Owed w j → s₁.Owed w j := by
  obtain ⟨before, t, vs, ht, htrials, rfl, htour⟩ := exists_tour_of_timedOut htimed
  rw [turns_eq r enforcer hscope p, htrials, List.map_append, List.map_cons] at hturns
  obtain ⟨hlate, early, late, s₁, hhistory, hearly, hlater, hexchange, hdeeds, howed⟩ :=
    hpast.late_of_timedOut hrun hturns ht fun u hu => by
      obtain ⟨t', -, rfl⟩ := List.mem_map.1 hu
      rfl
  have hlate' : ∀ v ∈ vs, ∀ u ∈ v.trials, u.outcome = .timedOut .zero := fun v hv u hu =>
    hlate _ (List.mem_map_of_mem (List.mem_flatMap.2 ⟨v, hv, hu⟩))
  have hms : ∀ g ∈ f.fields.drop (done.length + 1), g.matchers ≠ [] := fun g hg =>
    (name_and_matchers_ne hf g (List.mem_of_mem_drop hg)).2
  have hvs := htour.eq_late hms hlate'
  have hbelated : vs.flatMap Visit.trials = (f.fields.drop (done.length + 1)).filterMap
      (Trial.late? (written f.options p.event before)) := by
    rw [hvs, List.flatMap_map, List.filterMap_eq_flatMap_toList]
    simp only [Visit.trials_late]
  have hevent : (apply r f p).2.event =
      tagEvent f.options (apply r f p).1 (written f.options p.event before) := by
    rw [event_apply, htrials, Trial.written_append, Trial.written_of_isTimedOut]
    refine List.forall_mem_cons.2 ⟨ht, fun u hu => ?_⟩
    obtain ⟨v, hv, hu⟩ := List.mem_flatMap.1 hu
    exact Trial.isTimedOut_of_outcome (hlate' v hv u hu)
  rw [hbelated] at htrials hdeeds
  refine ⟨before, t, early, late, s₁, ht, htrials, ?_, hevent, hhistory, hearly, hlater, ?_, ?_,
    howed⟩
  · rw [hvs, List.map_map]
    exact List.map_congr_left fun g hg =>
      congrArg (Prod.mk g.field) (Visit.outcome_late _ (hms g hg))
  · simpa [List.flatMap_map] using hexchange
  · simpa [List.flatMap_map] using hdeeds

/-- A run in which a worker filters a record of two fields and one that is missing. The first field
is interrupted at the deadline, and the second one is late. -/
theorem fields_of_timedOut_interrupt :
    let execute : Matcher → String → Timeout.JobResult := fun m text => .ok (m.execute text)
    let o : Options := { Options.initial with
      patterns := [("slow", ["a"]), ("message", ["a"]), ("other", ["a"])]
      builtins := false
      scope := .event }
    let m : Matcher := ⟨"a", "a", .char (.exactly 97), []⟩
    let f : Filter := ⟨o, .empty, [⟨"slow", [m]⟩, ⟨"message", [m]⟩, ⟨"other", [m]⟩]⟩
    let r : Runner Unit :=
      { deadline _ := .at 0 5
        run _ _ text _ := (.timedOut (if text = "b" then ⟨5⟩ else .zero), [], ()) }
    let p : Progress Unit := ⟨⟨[("message", .string "a"), ("slow", .string "b")]⟩, (), []⟩
    ∃ history s, Timeout.Run execute (.new (fun _ => ⟨5⟩) (fun _ => ⟨1⟩) 0) history s ∧
      Timeout.exchange 0 history = (turns r 0 f p).flatMap (Turn.acts 0) ∧
      (apply r f p).1.fields = [("slow", .timedOut), ("message", .timedOut), ("other", .missing)] ∧
      ∃ early late, history = late ++ early ∧ Timeout.deeds 0 late =
        [.call 0 ⟨0, m, "a", .at 0 5⟩, .work 0, .answer 0 (.timedOut .zero)] := by
  intro execute o m f r p
  obtain ⟨history, s, hrun, hexchange⟩ := Crew.exists_late execute m m "b" "a"
  have hf : (ofOptions .empty o).1 = .ok f := by
    subst o m f
    cbv
  have hturns : turns r 0 f p =
      [⟨⟨0, m, "b", .at 0 5⟩, .timedOut ⟨5⟩⟩, ⟨⟨0, m, "a", .at 0 5⟩, .timedOut .zero⟩] := by
    subst o m f r p
    rfl
  have hfields : (apply r f p).1.fields =
      [("slow", .timedOut), ("message", .timedOut), ("other", .missing)] := by decide +kernel
  rw [← hturns] at hexchange
  obtain ⟨before, t, early, late, s₁, -, htrials, -, -, hhistory, -, -, -, hdeeds, -⟩ :=
    fields_of_timedOut .nil hrun hf rfl hexchange
      (show (apply r f p).1.fields = [] ++ ("slow", .timedOut) :: _ from hfields)
  have hnothing : written f.options p.event before = p.event :=
    Trial.written_of_isTimedOut fun u hu => by
      have hmem : u ∈ trials r f p := htrials ▸ List.mem_append_left _ hu
      obtain ⟨-, _, _, houtcome⟩ := attempt_of_mem_trials hmem
      exact Trial.isTimedOut_of_outcome houtcome.symm
  refine ⟨history, s, hrun, hexchange, hfields, early, late, hhistory, hdeeds.trans ?_⟩
  rw [hnothing]
  subst o m f r p
  rfl

end Filter

end Grok
