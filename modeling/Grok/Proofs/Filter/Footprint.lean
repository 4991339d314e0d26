import Grok.Proofs.Event.Apart
import Grok.Proofs.Filter.Invariant
import Grok.Proofs.Filter.Untimed
/-!
What a filter writes. Main statements: a field that is apart from the tags and from all fields of
the capture tables is left as it is, and a field of the tables that is apart from all others holds
in the end what it held before, followed by what was captured for it.
-/
namespace Grok

/-- What a match can put into a field of a table: what the coercion makes of some text, or
nothing. -/
def Capture.Feeds (c : Capture) (entry : CaptureField) : Prop :=
  c.field = entry.field ∧ ∀ v, c.value = some v → ∃ text, v = entry.coercion.apply text

/-- Every capture of a match is for a field in the capture table of its matcher. -/
def Runner.Tabled {σ : Type} (r : Runner σ) : Prop :=
  ∀ s m text d cs, (r.run s m text d).1 = .matched cs →
    ∀ c ∈ cs, ∃ entry ∈ m.captures, c.Feeds entry

theorem Coercion.apply_ne_array (c : Coercion) (text : String) (vs : List Value) :
    c.apply text ≠ .array vs := by
  cases c with
  | text => exact nofun
  | int =>
    rw [apply, integer]
    split <;> exact nofun
  | float =>
    rw [apply]
    split <;> exact nofun

theorem Matcher.exists_feeds {m : Matcher} {text : String} {cs : List Capture}
    (h : m.outcome text = .matched cs) : ∀ c ∈ cs, ∃ entry ∈ m.captures, c.Feeds entry := by
  rw [outcome, execute, attempt] at h
  cases hsearch : Regex.search ⟨text.toList.toArray, none⟩ m.regex with
  | found found steps =>
    simp only [hsearch] at h
    cases h
    intro c hc
    obtain ⟨entry, hentry, rfl⟩ := List.mem_map.1 hc
    refine ⟨entry, hentry, rfl, fun v hv => ?_⟩
    obtain ⟨span, -, rfl⟩ := Option.map_eq_some_iff.1 hv
    exact ⟨_, rfl⟩
  | absent | exhausted =>
    simp only [hsearch] at h
    cases h

theorem Runner.Faithful.tabled {σ : Type} {r : Runner σ} (h : r.Faithful) : r.Tabled := by
  intro s m text d cs hcs
  obtain hin | hlate := h s m text d
  · exact m.exists_feeds (hin.symm.trans hcs)
  · rw [hcs] at hlate
    cases hlate

namespace Capture

/-- The value that a capture adds to a field. A capture without usable text adds none. -/
def valueFor (name : String) (c : Capture) : Option Value :=
  if c.field = name ∧ ¬ c.isEmpty then c.value else none

/-- Whether a field keeps its own values when the capture is written: the capture holds one value,
and is for that field or one that is apart from it. -/
structure Suits (name : String) (c : Capture) : Prop where
  apart : c.field ≠ name → Event.Apart (Event.keyPath name) (Event.keyPath c.field)
  noArray : ∀ vs, c.value ≠ some (.array vs)

end Capture

namespace Trial

def captures (t : Trial) : List Capture := t.outcome.captures?.getD []

/-- The values that trials captured for a field, in order. -/
def valuesFor (name : String) (ts : List Trial) : List Value :=
  ts.flatMap fun t => t.captures.filterMap (Capture.valueFor name)

end Trial

namespace Filter

open Event (keyPath tagsField Apart content)

variable {σ : Type} {r : Runner σ} {f : Filter} {o : Options} {e : Event} {name : String}
  {c : Capture} {cs : List Capture} {ts : List Trial} {p : Progress σ}

/-- The names in the capture tables of all matchers. -/
def captureNames (f : Filter) : List String :=
  f.fields.flatMap fun g => g.matchers.flatMap fun m => m.captures.map CaptureField.field

/-! ### Fields that are left alone -/

theorem get_write_of_apart (h : Apart (keyPath name) (keyPath c.field)) :
    (write o e c).get name = e.get name := by
  rw [write]
  split
  · exact Event.get_set_of_apart h
  · exact Event.get_merge_of_apart h

theorem get_foldl_write_of_apart (h : ∀ c ∈ cs, Apart (keyPath name) (keyPath c.field))
    (e : Event) : (cs.foldl (write o) e).get name = e.get name := by
  induction cs generalizing e with
  | nil => rfl
  | cons c cs ih =>
    obtain ⟨hc, hcs⟩ := List.forall_mem_cons.1 h
    rw [List.foldl_cons, ih hcs, get_write_of_apart hc]

theorem get_applyCaptures_of_apart (h : ∀ c ∈ cs, Apart (keyPath name) (keyPath c.field)) :
    (applyCaptures o e cs).get name = e.get name :=
  get_foldl_write_of_apart (fun c hc => h c (List.mem_of_mem_filter hc)) e

theorem written_cons (t : Trial) : Trial.written o e (t :: ts) =
    Trial.written o (applyCaptures o e t.captures) ts := by
  rw [Trial.written, List.foldl_cons, Trial.written, Trial.captures]
  cases t.outcome.captures? <;> rfl

theorem get_written_of_apart
    (h : ∀ t ∈ ts, ∀ c ∈ t.captures, Apart (keyPath name) (keyPath c.field)) (e : Event) :
    (Trial.written o e ts).get name = e.get name := by
  induction ts generalizing e with
  | nil => rfl
  | cons t ts ih =>
    obtain ⟨ht, hts⟩ := List.forall_mem_cons.1 h
    rw [written_cons, ih hts, get_applyCaptures_of_apart ht]

theorem get_tagEvent_of_apart (h : Apart (keyPath name) (keyPath tagsField))
    (outcome : FilterOutcome) : (tagEvent o outcome e).get name = e.get name := by
  rw [tagEvent]
  split <;> split <;>
    simp only [Event.get_foldl_tag_of_apart h, Event.get_tag_of_apart h]

/-- What the trials on a record captured is for the fields in the capture tables. -/
theorem exists_feeds (hr : r.Tabled) {t : Trial} (ht : t ∈ trials r f p) (hc : c ∈ t.captures) :
    ∃ entry, c.Feeds entry ∧ entry.field ∈ f.captureNames := by
  obtain ⟨⟨g, hg, hm⟩, s, d, hrun⟩ := attempt_of_mem_trials ht
  rw [Trial.captures] at hc
  cases hout : t.outcome with
  | matched cs =>
    rw [hout] at hc hrun
    obtain ⟨entry, hentry, hfeeds⟩ := hr _ _ _ _ _ hrun c hc
    refine ⟨entry, hfeeds, List.mem_flatMap.2 ⟨g, hg, List.mem_flatMap.2 ⟨t.matcher, hm, ?_⟩⟩⟩
    exact List.mem_map_of_mem hentry
  | notMatched | timedOut =>
    rw [hout] at hc
    cases hc

/-- Whatever is tried on a record, and whatever comes of it, a field that is apart from the tags and
from all fields of the capture tables reads as before. -/
theorem get_apply_of_apart (hr : r.Tabled) (f : Filter) (p : Progress σ) {name : String}
    (hcaptures : ∀ x ∈ f.captureNames, Apart (keyPath name) (keyPath x))
    (htags : Apart (keyPath name) (keyPath tagsField)) :
    (apply r f p).2.event.get name = p.event.get name := by
  rw [event_apply, get_tagEvent_of_apart htags]
  refine get_written_of_apart (fun t ht c hc => ?_) p.event
  obtain ⟨entry, hfeeds, hentry⟩ := exists_feeds hr ht hc
  rw [hfeeds.1]
  exact hcaptures _ hentry

/-- A capture next to a field leaves the field alone, though it is written into the same object. -/
theorem get_apply_of_apart_method :
    let m : Matcher := ⟨"(?<s>2)", "(?<s>2)", .group 1 (some "s") (.char (.exactly 50)),
      [⟨"s", "[http][status]", .int⟩]⟩
    let f : Filter := ⟨.initial, .empty, [⟨"message", [m]⟩]⟩
    let p : Progress Timeout.Session := ⟨⟨[("http", .object [("method", .string "GET")]),
      ("message", .string "2")]⟩, .new .disabled, []⟩
    let e := (apply Timeout.Session.runner f p).2.event
    e.get "[http][status]" = some (.int 2) ∧ e.get "[http][method]" = some (.string "GET") := by
  intro m f p e
  have hstatus : e.get "[http][status]" = some (.int 2) := by
    subst m f p e
    rfl
  have hbefore : p.event.get "[http][method]" = some (.string "GET") := by
    subst m f p
    rfl
  have hcaptures : ∀ x ∈ f.captureNames, Apart (keyPath "[http][method]") (keyPath x) := by
    subst m f p
    decide
  refine ⟨hstatus, ?_⟩
  rw [← hbefore]
  exact get_apply_of_apart Timeout.Session.runner_faithful.tabled f p hcaptures (by decide)

/-! ### Fields that collect -/

theorem keeps_eq (h : o.keepEmpty = false) : keeps o cs c = !c.isEmpty := by
  rw [keeps, h, Bool.or_false, Capture.isEmpty]
  cases c.value <;> simp

theorem content_write (hover : o.overwrites name = false) (hname : keyPath name ≠ [])
    (hc : c.Suits name) (hempty : ¬ c.isEmpty) (e : Event) :
    content ((write o e c).get name) = content (e.get name) ++ (c.valueFor name).toList := by
  by_cases hfield : c.field = name
  · obtain ⟨field, _ | v⟩ := c
    · exact absurd rfl hempty
    · obtain rfl : field = name := hfield
      have hnull : v ≠ .null := by
        rintro rfl
        exact hempty rfl
      have hwrite : write o e ⟨field, some v⟩ = e.merge field v := by
        rw [write, hover]
        rfl
      rw [hwrite, Event.content_get_merge hname hnull fun vs hvs => hc.noArray vs (by rw [hvs]),
        Capture.valueFor, if_pos ⟨rfl, hempty⟩]
      rfl
  · rw [get_write_of_apart (hc.apart hfield), Capture.valueFor, if_neg fun h => hfield h.1]
    exact (List.append_nil _).symm

theorem content_foldl_write (hover : o.overwrites name = false) (hname : keyPath name ≠ [])
    (hcs : ∀ c ∈ cs, c.Suits name) (hempty : ∀ c ∈ cs, ¬ c.isEmpty) (e : Event) :
    content ((cs.foldl (write o) e).get name) =
      content (e.get name) ++ cs.filterMap (Capture.valueFor name) := by
  induction cs generalizing e with
  | nil => exact (List.append_nil _).symm
  | cons c cs ih =>
    obtain ⟨hc, hcs⟩ := List.forall_mem_cons.1 hcs
    obtain ⟨hfull, hempty⟩ := List.forall_mem_cons.1 hempty
    have hcons : (c :: cs).filterMap (Capture.valueFor name) =
        (c.valueFor name).toList ++ cs.filterMap (Capture.valueFor name) := by
      cases h : c.valueFor name <;> simp [h]
    rw [List.foldl_cons, ih hcs hempty, content_write hover hname hc hfull, hcons,
      List.append_assoc]

theorem content_applyCaptures (hkeep : o.keepEmpty = false) (hover : o.overwrites name = false)
    (hname : keyPath name ≠ []) (hcs : ∀ c ∈ cs, c.Suits name) (e : Event) :
    content ((applyCaptures o e cs).get name) =
      content (e.get name) ++ cs.filterMap (Capture.valueFor name) := by
  have hkept : cs.filter (keeps o cs) = cs.filter (!·.isEmpty) :=
    List.filter_congr fun c _ => keeps_eq hkeep
  have hvalues : (cs.filter (!·.isEmpty)).filterMap (Capture.valueFor name) =
      cs.filterMap (Capture.valueFor name) := by
    rw [List.filterMap_filter]
    refine List.filterMap_congr fun c _ => ?_
    cases h : c.isEmpty <;> simp [Capture.valueFor, h]
  rw [applyCaptures, hkept, content_foldl_write hover hname, hvalues]
  · exact fun c hc => hcs c (List.mem_of_mem_filter hc)
  · exact fun c hc => by simpa using List.of_mem_filter hc

theorem content_written (hkeep : o.keepEmpty = false) (hover : o.overwrites name = false)
    (hname : keyPath name ≠ []) (hts : ∀ t ∈ ts, ∀ c ∈ t.captures, c.Suits name) (e : Event) :
    content ((Trial.written o e ts).get name) = content (e.get name) ++ Trial.valuesFor name ts := by
  induction ts generalizing e with
  | nil => exact (List.append_nil _).symm
  | cons t ts ih =>
    obtain ⟨ht, hts⟩ := List.forall_mem_cons.1 hts
    rw [written_cons, ih hts, content_applyCaptures hkeep hover hname ht, Trial.valuesFor,
      Trial.valuesFor, List.flatMap_cons, List.append_assoc]

/-- Where empty captures are not kept, a field that is not overwritten, and is apart from the tags
and from every other field of the capture tables, collects: behind the values that it held there
are those that were captured for it, in the order of the attempts. -/
theorem content_apply (hr : r.Tabled) (f : Filter) (p : Progress σ) {name : String}
    (hkeep : f.options.keepEmpty = false) (hover : f.options.overwrites name = false)
    (hname : keyPath name ≠ [])
    (hcaptures : ∀ x ∈ f.captureNames, x ≠ name → Apart (keyPath name) (keyPath x))
    (htags : Apart (keyPath name) (keyPath tagsField)) :
    content ((apply r f p).2.event.get name) =
      content (p.event.get name) ++ Trial.valuesFor name (trials r f p) := by
  rw [event_apply, get_tagEvent_of_apart htags]
  refine content_written hkeep hover hname (fun t ht c hc => ?_) p.event
  obtain ⟨entry, ⟨hfield, hvalue⟩, hentry⟩ := exists_feeds hr ht hc
  refine ⟨fun hne => ?_, fun vs hvs => ?_⟩
  · rw [hfield] at hne ⊢
    exact hcaptures _ hentry hne
  · obtain ⟨text, htext⟩ := hvalue _ hvs
    exact entry.coercion.apply_ne_array text vs htext.symm

/-- The field holds one value, then values from the texts of another field, and then values from
its own texts, among them those that it has just got. -/
theorem content_apply_letters :
    let a : Matcher := ⟨"(?<w>a)", "(?<w>a)", .group 1 (some "w") (.char (.exactly 97)),
      [⟨"w", "w", .text⟩]⟩
    let b : Matcher := ⟨"(?<w>b)", "(?<w>b)", .group 1 (some "w") (.char (.exactly 98)),
      [⟨"w", "w", .text⟩]⟩
    let f : Filter := ⟨{ Options.initial with breakOnMatch := false }, .empty,
      [⟨"message", [a, b]⟩, ⟨"w", [a]⟩]⟩
    let p : Progress Timeout.Session := ⟨⟨[("message", .array [.string "ba", .string "b"]),
      ("w", .string "a")]⟩, .new .disabled, []⟩
    content ((apply Timeout.Session.runner f p).2.event.get "w") =
      .string "a" :: [.string "a", .string "b", .string "b", .string "a", .string "a"] := by
  intro a b f p
  have hbefore : content (p.event.get "w") = [.string "a"] := by
    subst a b f p
    rfl
  have hvalues : Trial.valuesFor "w" (trials Timeout.Session.runner f p) =
      [.string "a", .string "b", .string "b", .string "a", .string "a"] := by
    subst a b f p
    rfl
  have hcaptures : ∀ x ∈ f.captureNames, x ≠ "w" → Apart (keyPath "w") (keyPath x) := by
    subst a b f p
    decide
  rw [content_apply Timeout.Session.runner_faithful.tabled f p rfl rfl (by decide) hcaptures
    (by decide), hbefore, hvalues]
  rfl

end Filter

end Grok
