import Mathlib.Data.List.Forall2
import Grok.Filter
/-!
The trials that are made while a record is filtered, with their outcomes. They are read off a
runner that keeps a list of them. Main statement: on every text of a field the matchers are tried
in order up to the trial that is the last one, these trials settle the outcome of the field, and
the captures of the matches among them are what is written, in order.
-/
namespace Grok

/-- An attempt that was made. -/
structure Trial where
  matcher : Matcher
  text : String
  outcome : MatchOutcome

variable {σ : Type}

/-- Makes the same attempts, and keeps a list of them. -/
def Runner.recording (r : Runner σ) : Runner (σ × List Trial) where
  deadline s := r.deadline s.1
  run s m text deadline :=
    let (outcome, log, s') := r.run s.1 m text deadline
    (outcome, log, s', s.2 ++ [⟨m, text, outcome⟩])

def Progress.recorded (p : Progress σ) (ts : List Trial) : Progress (σ × List Trial) :=
  ⟨p.event, (p.state, ts), p.log⟩

theorem Runner.run_recording {r : Runner σ} {p : Progress σ} {m : Matcher} {text : String}
    {deadline : Timeout.Deadline} {outcome : MatchOutcome} {log : Log} {s : σ}
    (h : r.run p.state m text deadline = (outcome, log, s)) (before : List Trial) :
    r.recording.run (p.recorded before).state m text deadline =
      (outcome, log, s, before ++ [⟨m, text, outcome⟩]) := by
  simp [recording, Progress.recorded, h]

namespace Trial

def isMatched (t : Trial) : Bool := t.outcome.isMatched

def isTimedOut (t : Trial) : Bool := t.outcome.isTimedOut

/-- Whether one of the trials matched, or nothing once one has run out of time. -/
def answer (ts : List Trial) : Option Bool :=
  if ts.any isTimedOut then none else some (ts.any isMatched)

/-- The record with the captures of the matches written in order. -/
def written (o : Options) (e : Event) (ts : List Trial) : Event :=
  ts.foldl (fun e t => (t.outcome.captures?).elim e (Filter.applyCaptures o e)) e

/-- Whether nothing more is tried on the same text: the time ran out, or there is a match and the
options say so. -/
def isLast (o : Options) (t : Trial) : Bool := t.isTimedOut || (o.breakOnMatch && t.isMatched)

/-- The trials on one text: the matchers in order, up to and including the first trial behind which
nothing more is tried. -/
structure IsRow (o : Options) (ms : List Matcher) (text : String) (row : List Trial) : Prop where
  text_eq : ∀ t ∈ row, t.text = text
  matchers_eq : row.map matcher = ms.take (row.findIdx (isLast o) + 1)

/-- The trials on some texts, in rows: the texts in order, up to and including the first on which
the time ran out. -/
def AreRows (o : Options) (ms : List Matcher) (texts : List String) (rows : List (List Trial)) :
    Prop :=
  List.Forall₂ (IsRow o ms) (texts.take (rows.findIdx (List.any · isTimedOut) + 1)) rows

variable {m : Matcher} {text : String} {ts us : List Trial}

@[simp] theorem answer_matched (cs : List Capture) :
    answer [⟨m, text, .matched cs⟩] = some true := rfl

@[simp] theorem answer_notMatched : answer [⟨m, text, .notMatched⟩] = some false := rfl

@[simp] theorem answer_timedOut (elapsed : Timeout.Duration) :
    answer [⟨m, text, .timedOut elapsed⟩] = none := rfl

theorem answer_append :
    answer (ts ++ us) = (answer ts).bind fun found => (answer us).map (found || ·) := by
  cases hts : ts.any isTimedOut <;> cases hus : us.any isTimedOut <;> simp [answer, hts, hus]

theorem answer_eq_none_iff : answer ts = none ↔ ts.any isTimedOut = true := by
  simp [answer]

variable {o : Options} {ms : List Matcher} {t : Trial} {texts : List String} {row : List Trial}
  {rows : List (List Trial)} {e : Event}

theorem written_append : written o e (ts ++ us) = written o (written o e ts) us :=
  List.foldl_append

theorem IsRow.nil : IsRow o [] text [] := ⟨nofun, rfl⟩

theorem IsRow.last (h : t.isLast o) : IsRow o (t.matcher :: ms) t.text [t] := by
  refine ⟨by simp, ?_⟩
  rw [List.findIdx_cons, h]
  rfl

theorem IsRow.cons (h : t.isLast o = false) (hrow : IsRow o ms t.text row) :
    IsRow o (t.matcher :: ms) t.text (t :: row) := by
  refine ⟨by simpa using hrow.text_eq, ?_⟩
  rw [List.findIdx_cons, h, List.map_cons, hrow.matchers_eq]
  rfl

theorem AreRows.nil : AreRows o ms [] [] := List.Forall₂.nil

theorem AreRows.last (hrow : IsRow o ms text row) (h : row.any isTimedOut = true) :
    AreRows o ms (text :: texts) [row] := by
  rw [AreRows, List.findIdx_cons, h]
  exact .cons hrow .nil

theorem AreRows.cons (hrow : IsRow o ms text row) (h : row.any isTimedOut = false)
    (hrows : AreRows o ms texts rows) : AreRows o ms (text :: texts) (row :: rows) := by
  rw [AreRows, List.findIdx_cons, h]
  exact .cons hrow hrows

end Trial

/-- A piece of work, with and without a record of it, made these trials. -/
structure Makes {α : Type} (o : Options) (p : Progress σ) (plain : α × Progress σ)
    (recorded : List Trial → α × Progress (σ × List Trial)) (ts : List Trial) : Prop where
  recorded_eq : ∀ before, recorded before = (plain.1, plain.2.recorded (before ++ ts))
  event_eq : plain.2.event = Trial.written o p.event ts

namespace Makes

variable {α β : Type} {o : Options} {p p' : Progress σ} {plain : α × Progress σ}
  {recorded recorded' : List Trial → α × Progress (σ × List Trial)} {ts us : List Trial}

theorem nothing {a : α} : Makes o p (a, p) (fun before => (a, p.recorded before)) [] :=
  ⟨fun before => by rw [List.append_nil], rfl⟩

theorem map (g : α → β) (h : Makes o p plain recorded ts) :
    Makes o p (g plain.1, plain.2)
      (fun before => (g (recorded before).1, (recorded before).2)) ts :=
  ⟨fun before => by rw [h.recorded_eq], h.event_eq⟩

/-- What goes on from where other trials have led makes its own trials behind them. -/
theorem after (h : Makes o p' plain recorded us) (hevent : p'.event = Trial.written o p.event ts)
    (hrec : ∀ before, recorded' before = recorded (before ++ ts)) :
    Makes o p plain recorded' (ts ++ us) where
  recorded_eq before := by rw [hrec, h.recorded_eq, List.append_assoc]
  event_eq := by rw [h.event_eq, hevent, Trial.written, Trial.written, ← List.foldl_append]; rfl

end Makes

namespace Filter

open Trial (answer)

variable {r : Runner σ} {o : Options} {f : FieldMatchers} {field text : String}
  {pooled whole : Timeout.Deadline} {m : Matcher} {ms : List Matcher} {p : Progress σ}
  {cs : List Capture} {elapsed : Timeout.Duration} {log : Log} {s : σ}

def attemptDeadline (r : Runner σ) (o : Options) (pooled : Timeout.Deadline) (s : σ) :
    Timeout.Deadline :=
  if o.scope.isPooled then pooled else r.deadline s

theorem tryText_of_matched
    (h : r.run p.state m text (attemptDeadline r o pooled p.state) = (.matched cs, log, s)) :
    tryText r o field pooled text (m :: ms) p =
      let p' : Progress σ := ⟨applyCaptures o p.event cs, s, p.log ++ log⟩
      if o.breakOnMatch then (some true, p')
      else
        ((tryText r o field pooled text ms p').1.map fun _ => true,
          (tryText r o field pooled text ms p').2) := by
  unfold attemptDeadline at h
  rw [tryText]
  simp only [h]

theorem tryText_of_notMatched
    (h : r.run p.state m text (attemptDeadline r o pooled p.state) = (.notMatched, log, s)) :
    tryText r o field pooled text (m :: ms) p =
      tryText r o field pooled text ms ⟨p.event, s, p.log ++ log⟩ := by
  unfold attemptDeadline at h
  rw [tryText]
  simp only [h]

theorem tryText_of_timedOut
    (h : r.run p.state m text (attemptDeadline r o pooled p.state) = (.timedOut elapsed, log, s)) :
    tryText r o field pooled text (m :: ms) p =
      (none, ⟨p.event, s, p.log ++ log ++ [timeoutEntry field m text elapsed]⟩) := by
  unfold attemptDeadline at h
  rw [tryText]
  simp only [h]

theorem exists_row_tryText (r : Runner σ) (o : Options) (field : String)
    (pooled : Timeout.Deadline) (text : String) (ms : List Matcher) (p : Progress σ) :
    ∃ row, Trial.IsRow o ms text row ∧
      (tryText r o field pooled text ms p).1 = answer row ∧
      Makes o p (tryText r o field pooled text ms p)
        (fun before => tryText r.recording o field pooled text ms (p.recorded before)) row := by
  induction ms generalizing p with
  | nil => exact ⟨[], .nil, rfl, .nothing⟩
  | cons m ms ih =>
    rcases hrun : r.run p.state m text (attemptDeadline r o pooled p.state) with ⟨outcome, log, s⟩
    have hrec := Runner.run_recording hrun
    cases outcome with
    | matched cs =>
      obtain ⟨row, hrow, hanswer, hrest⟩ := ih ⟨applyCaptures o p.event cs, s, p.log ++ log⟩
      rw [tryText_of_matched hrun]
      by_cases hbreak : o.breakOnMatch
      · have hlast : Trial.isLast o ⟨m, text, .matched cs⟩ := by
          simp [Trial.isLast, Trial.isMatched, MatchOutcome.isMatched, hbreak]
        refine ⟨[⟨m, text, .matched cs⟩], .last hlast, by simp [hbreak], fun before => ?_, ?_⟩
        · rw [tryText_of_matched (hrec before)]
          simp [hbreak, Progress.recorded]
        · simp [hbreak, Trial.written, MatchOutcome.captures?]
      · have hgo : Trial.isLast o ⟨m, text, .matched cs⟩ = false := by
          simp [Trial.isLast, Trial.isTimedOut, MatchOutcome.isTimedOut, hbreak]
        refine ⟨[⟨m, text, .matched cs⟩] ++ row, .cons hgo hrow, ?_, ?_⟩
        · rw [Trial.answer_append]
          simp [hbreak, hanswer]
        · simp only [hbreak]
          refine (hrest.map _).after rfl fun before => ?_
          rw [tryText_of_matched (hrec before)]
          simp [hbreak, Progress.recorded]
    | notMatched =>
      obtain ⟨row, hrow, hanswer, hrest⟩ := ih ⟨p.event, s, p.log ++ log⟩
      have hgo : Trial.isLast o ⟨m, text, .notMatched⟩ = false := Bool.and_false _
      rw [tryText_of_notMatched hrun]
      refine ⟨[⟨m, text, .notMatched⟩] ++ row, .cons hgo hrow, ?_, hrest.after rfl fun before => ?_⟩
      · rw [Trial.answer_append]
        simp [hanswer]
      · exact tryText_of_notMatched (hrec before)
    | timedOut elapsed =>
      have hlast : Trial.isLast o ⟨m, text, .timedOut elapsed⟩ := rfl
      rw [tryText_of_timedOut hrun]
      refine ⟨[⟨m, text, .timedOut elapsed⟩], .last hlast, rfl, fun before => ?_, rfl⟩
      rw [tryText_of_timedOut (hrec before)]
      rfl

theorem exists_rows_tryTexts (r : Runner σ) (o : Options) (f : FieldMatchers)
    (pooled : Timeout.Deadline) (texts : List String) (p : Progress σ) :
    ∃ rows, Trial.AreRows o f.matchers texts rows ∧
      (tryTexts r o f pooled texts p).1 = answer rows.flatten ∧
      Makes o p (tryTexts r o f pooled texts p)
        (fun before => tryTexts r.recording o f pooled texts (p.recorded before)) rows.flatten := by
  induction texts generalizing p with
  | nil => exact ⟨[], .nil, rfl, .nothing⟩
  | cons text texts ih =>
    obtain ⟨row, hrow, hanswer, hfirst⟩ := exists_row_tryText r o f.field pooled text f.matchers p
    rcases htry : tryText r o f.field pooled text f.matchers p with ⟨found, p'⟩
    rw [htry] at hanswer hfirst
    obtain rfl : found = answer row := hanswer
    have hrec : ∀ before, tryText r.recording o f.field pooled text f.matchers (p.recorded before) =
        (answer row, p'.recorded (before ++ row)) := hfirst.recorded_eq
    cases hfound : answer row with
    | none =>
      rw [hfound] at htry hrec
      refine ⟨[row], .last hrow (Trial.answer_eq_none_iff.1 hfound), ?_, fun before => ?_, ?_⟩
      · simp [tryTexts, htry, hfound]
      · simp [tryTexts, htry, hrec]
      · simpa [tryTexts, htry] using hfirst.event_eq
    | some found =>
      have hgo : row.any Trial.isTimedOut = false := by
        rw [← Bool.not_eq_true, ← Trial.answer_eq_none_iff, hfound]
        exact Option.some_ne_none found
      rw [hfound] at htry hrec
      obtain ⟨rows, hrows, hanswer, hrest⟩ := ih p'
      refine ⟨row :: rows, .cons hrow hgo hrows, ?_, ?_⟩
      · rw [List.flatten_cons, Trial.answer_append, hfound, ← hanswer]
        simp [tryTexts, htry]
      · simp only [tryTexts, htry]
        refine (hrest.map _).after hfirst.event_eq fun before => ?_
        simp only [hrec]

end Filter

end Grok
