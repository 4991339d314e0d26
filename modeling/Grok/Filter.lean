import Grok.Event
import Grok.Matcher
import Grok.Options
import Grok.Outcome
import Grok.Text.Clip
import Grok.Text.Slice
/-!
Filters: the patterns of options, compiled, and the rules by which they are tried on a record. How a
single attempt is made is left open here, so that the rules hold whatever the clock does.
-/
namespace Grok

structure FieldMatchers where
  field : String
  matchers : List Matcher

structure Filter where
  options : Options
  library : Library
  fields : List FieldMatchers

/-- A way to make attempts, over a state that they change. -/
structure Runner (σ : Type) where
  deadline : σ → Timeout.Deadline
  run : σ → Matcher → String → Timeout.Deadline → MatchOutcome × Log × σ

/-- Where the work on a record stands: the record so far, the state of the runner, and the log. -/
structure Progress (σ : Type) where
  event : Event
  state : σ
  log : Log

namespace Filter

/-! ### Building -/

def compileField (library : Library) (namedOnly : Bool) (field : String) :
    List String → Except Error (List Matcher) × Log
  | [] => (.ok [], [])
  | p :: ps =>
    match library.compile namedOnly p with
    | .error e => (.error e, [])
    | .ok m =>
      let (ms, log) := compileField library namedOnly field ps
      (ms.map (m :: ·),
        ⟨.info, "Grok compiled",
          [("field", field), ("pattern", p), ("expression", m.expression)]⟩ :: log)

def compileFields (library : Library) (namedOnly : Bool) :
    List (String × List String) → Except Error (List FieldMatchers) × Log
  | [] => (.ok [], [])
  | (field, ps) :: rest =>
    match compileField library namedOnly field ps with
    | (.error e, log) => (.error e, log)
    | (.ok ms, log) =>
      let (fs, log') := compileFields library namedOnly rest
      (fs.map (⟨field, ms⟩ :: ·), log ++ log')

/-- Loads the library and compiles all patterns. -/
def ofOptions (tree : FileTree) (o : Options) : Except Error Filter × Log :=
  match o.validate with
  | .error e => (.error e, [])
  | .ok () =>
    match Library.load tree o.sources with
    | (.error e, log) => (.error e, log)
    | (.ok library, log) =>
      let (fields, log') := compileFields library o.namedOnly o.patterns
      (fields.map fun fs => ⟨o, library, fs⟩, log ++ log')

/-! ### Writing captures -/

/-- Whether a capture is written at all. A group that took no part gives way to one that feeds the
same field, and empty captures are only kept if the options say so. -/
def keeps (o : Options) (all : List Capture) (c : Capture) : Bool :=
  !(c.value.isNone && all.any fun d => d.field == c.field && d.value.isSome) &&
    (!c.isEmpty || o.keepEmpty)

def write (o : Options) (e : Event) (c : Capture) : Event :=
  let v := c.value.getD .null
  if o.overwrites c.field then e.set c.field v else e.merge c.field v

def applyCaptures (o : Options) (e : Event) (cs : List Capture) : Event :=
  (cs.filter (keeps o cs)).foldl (write o) e

/-! ### Trying -/

/-- The longest start of a value that is logged, in bytes. -/
def loggedBytes : Nat := 255

/-- What stands in the log for a value of which only a start is shown. -/
def abridged (value start : String) : String :=
  s!"Value too large to output ({value.utf8ByteSize} bytes)! First {loggedBytes} chars are: " ++ start

def loggable (value : String) : String :=
  if value.utf8ByteSize ≤ loggedBytes then value
  else abridged value (.ofList (Text.clip loggedBytes value.toList))

/-- What `loggable` gives, with the value sliced between its bytes. There is no answer if there is
no place to slice it, or the slice fails. -/
def loggableOfBytes (value : String) : Option String :=
  if value.utf8ByteSize ≤ loggedBytes then some value
  else do
    let stop ← Text.lastBoundary? value loggedBytes
    let start ← Text.sliceTo? value stop
    return abridged value start

def timeoutEntry (field : String) (m : Matcher) (text : String) (elapsed : Timeout.Duration) :
    LogEntry :=
  ⟨.warn, "Timeout executing grok",
    [("field", field), ("pattern", m.source), ("elapsed_ms", toString elapsed.toMillis),
      ("value", loggable text)]⟩

variable {σ : Type}

/-- Tries matchers on one text, up to a match if the options say so. The answer is whether one
matched, or nothing once an attempt has run out of time. -/
def tryText (r : Runner σ) (o : Options) (field : String) (pooled : Timeout.Deadline)
    (text : String) : List Matcher → Progress σ → Option Bool × Progress σ
  | [], p => (some false, p)
  | m :: ms, p =>
    let deadline := if o.scope.isPooled then pooled else r.deadline p.state
    match r.run p.state m text deadline with
    | (.matched cs, log, s) =>
      let p : Progress σ := ⟨applyCaptures o p.event cs, s, p.log ++ log⟩
      if o.breakOnMatch then (some true, p)
      else
        let (found, p) := tryText r o field pooled text ms p
        (found.map fun _ => true, p)
    | (.notMatched, log, s) => tryText r o field pooled text ms ⟨p.event, s, p.log ++ log⟩
    | (.timedOut elapsed, log, s) =>
      (none, ⟨p.event, s, p.log ++ log ++ [timeoutEntry field m text elapsed]⟩)

def tryTexts (r : Runner σ) (o : Options) (f : FieldMatchers) (pooled : Timeout.Deadline) :
    List String → Progress σ → Option Bool × Progress σ
  | [], p => (some false, p)
  | text :: texts, p =>
    match tryText r o f.field pooled text f.matchers p with
    | (none, p) => (none, p)
    | (some found, p) =>
      let (found', p) := tryTexts r o f pooled texts p
      (found'.map (found || ·), p)

def matchField (r : Runner σ) (o : Options) (f : FieldMatchers) (pooled : Timeout.Deadline)
    (texts : List String) (p : Progress σ) : FieldOutcome × Progress σ :=
  match tryTexts r o f pooled texts p with
  | (none, p) => (.timedOut, p)
  | (some true, p) => (.matched, p)
  | (some false, p) => (.notMatched, p)

/-- The deadline of a field whose attempts share one. -/
def fieldDeadline (r : Runner σ) (o : Options) (whole : Timeout.Deadline) (s : σ) :
    Timeout.Deadline :=
  match o.scope with
  | .pattern => .unbounded
  | .field => r.deadline s
  | .event => whole

/-- Tries a field of a record, if the record has it. -/
def tryField (r : Runner σ) (o : Options) (whole : Timeout.Deadline) (f : FieldMatchers)
    (p : Progress σ) : FieldOutcome × Progress σ :=
  match p.event.get f.field with
  | none => (.missing, p)
  | some v => matchField r o f (fieldDeadline r o whole p.state) v.texts p

/-- Tries fields in order, up to the first that matches if the options say so. -/
def tryFields (r : Runner σ) (o : Options) (whole : Timeout.Deadline) :
    List FieldMatchers → Progress σ → List (String × FieldOutcome) × Progress σ
  | [], p => ([], p)
  | f :: fs, p =>
    let (outcome, p) := tryField r o whole f p
    if outcome = .matched && o.breakOnMatch then ([(f.field, outcome)], p)
    else
      let (rest, p) := tryFields r o whole fs p
      ((f.field, outcome) :: rest, p)

/-- Tags a record by its outcome: for time first, then for failure. -/
def tagEvent (o : Options) (outcome : FilterOutcome) (e : Event) : Event :=
  let e := if outcome.isTimedOut then e.tag o.timeoutTag else e
  if outcome.isFailed then o.failureTags.foldl Event.tag e else e

def apply (r : Runner σ) (f : Filter) (p : Progress σ) : FilterOutcome × Progress σ :=
  let begun : LogEntry :=
    ⟨.debug, "Running grok filter", [("fields", toString f.fields.length)]⟩
  let whole := match f.options.scope with
    | .event => r.deadline p.state
    | .pattern | .field => .unbounded
  let (fields, p) := tryFields r f.options whole f.fields { p with log := p.log ++ [begun] }
  let outcome : FilterOutcome := ⟨fields⟩
  let ended : LogEntry :=
    ⟨.debug, "Grok filter finished",
      [("matched", toString outcome.isMatched), ("timed_out", toString outcome.isTimedOut)]⟩
  (outcome, ⟨tagEvent f.options outcome p.event, p.state, p.log ++ [ended]⟩)

end Filter

end Grok
