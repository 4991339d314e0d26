import Mathlib
import Grok.Proofs.Filter.Tour
import Grok.Proofs.Options.Patterns
/-!
The outcome of a field by its name. Main statement: fields that documents and settings have brought
in are distinct and collect their patterns, a filter has them with all their matchers, and whatever
makes the attempts on a record, what it says of a field is the outcome of the one visit to it.
-/
namespace Grok

namespace FilterOutcome

variable {outcome : FilterOutcome} {name : String} {a : FieldOutcome}

theorem field?_eq_some_iff (h : (outcome.fields.map Prod.fst).Nodup) :
    outcome.field? name = some a ↔ (name, a) ∈ outcome.fields := by
  rw [field?, Option.map_eq_some_iff]
  constructor
  · rintro ⟨⟨name', a'⟩, hfind, rfl⟩
    have hname : name' = name := by simpa using List.find?_some hfind
    exact hname ▸ List.mem_of_find?_eq_some hfind
  · intro hmem
    have hfound : (outcome.fields.find? (·.1 == name)).isSome :=
      List.find?_isSome.2 ⟨_, hmem, by simp⟩
    obtain ⟨d, hd⟩ := Option.isSome_iff_exists.1 hfound
    have hname : d.1 = name := by simpa using List.find?_some hd
    cases List.inj_on_of_nodup_map h (List.mem_of_find?_eq_some hd) hmem hname
    exact ⟨_, hd, rfl⟩

end FilterOutcome

namespace Filter

open Options (Given)

/-- Fields are listed once, in the order in which they came up, with the patterns that the settings
have collected for them. A filter has a field for each of them, under a name and with matchers. In
every outcome a name stands for the one visit to its field, or for none. -/
theorem fields_of_settings {o₀ : Options} (h : o₀.Given) (settings : List Setting) :
    let o := settings.foldl Options.set o₀
    o.fieldNames.Nodup ∧
      o.fieldNames = (o₀.fieldNames ++ settings.filterMap Setting.mentioned?).eraseDups ∧
      (∀ d ∈ o.patterns, Collects d.1 (o₀.patternsOf d.1) settings d.2) ∧
      ∀ tree e, (Engine.ofOptions tree o).1 = .ok e →
        e.filter.fields.map configured = o.patterns ∧
        (∀ g ∈ e.filter.fields, g.field ≠ "" ∧ g.matchers ≠ []) ∧
        ∀ (σ : Type) (r : Runner σ) (p : Progress σ), ∃ vs,
          Tour o p.event e.filter.fields vs ∧ trials r e.filter p = vs.flatMap Visit.trials ∧
          (vs.map Visit.field).Nodup ∧
          ∀ name a, (apply r e.filter p).1.field? name = some a ↔
            ∃ v ∈ vs, v.field = name ∧ v.outcome = a := by
  intro o
  have hnodup : o.fieldNames.Nodup := Options.nodup_foldl_set h.nodup settings
  refine ⟨hnodup, Options.fieldNames_foldl_set h.nodup, fun d hd => ?_, fun tree e he => ?_⟩
  · have hcollects := Options.collects_foldl_set o₀ settings d.1
    rwa [Options.patternsOf_of_mem hnodup hd] at hcollects
  have hfilter := Engine.filter_of_ofOptions he
  have hconfigured := configured_ofOptions hfilter
  refine ⟨hconfigured, name_and_matchers_ne hfilter, fun σ r p => ?_⟩
  have hfields : (e.filter.fields.map FieldMatchers.field).Nodup := by
    rw [Options.fieldNames, ← hconfigured, List.map_map] at hnodup
    exact hnodup
  obtain ⟨vs, htour, houtcome, htrials⟩ := exists_tour r e.filter p
  have hvs : (vs.map Visit.field).Nodup := htour.isPrefix.sublist.nodup hfields
  have hnames : ((apply r e.filter p).1.fields.map Prod.fst).Nodup := by
    rw [houtcome, List.map_map]
    exact hvs
  rw [(ofOptions_eq_ok hfilter).1] at htour
  refine ⟨vs, htour, htrials, hvs, fun name a => ?_⟩
  rw [FilterOutcome.field?_eq_some_iff hnames, houtcome, List.mem_map]
  simp only [Prod.mk.injEq]

/-- A document with one field, and settings that replace its pattern and bring in a second field,
which is the one that matches. -/
theorem fields_of_settings_mixed :
    let o₀ : Options := { Options.initial with patterns := [("message", ["a"])] }
    let settings : List Setting :=
      [.pattern "other" "x", .pattern "message" "b", .patterns "message" ["c"], .noBuiltins,
        .pattern "other" "y", .pattern "message" "d"]
    let o := settings.foldl Options.set o₀
    let event : Event := ⟨[("message", .string "a"), ("other", .string "y")]⟩
    Options.ofYaml "match:\n  message: a" = .ok o₀ ∧ o.fieldNames.Nodup ∧
      Collects "message" ["a"] settings ["c", "d"] ∧
      ∃ e, (Engine.ofOptions .empty o).1 = .ok e ∧
        e.filter.fields.map configured = [("message", ["c", "d"]), ("other", ["x", "y"])] ∧
        (e.run event).1.field? "other" = some .matched ∧
        ∃ vs, Tour o event e.filter.fields vs ∧ (vs.map Visit.field).Nodup ∧
          ∃ v ∈ vs, v.field = "other" ∧ v.outcome = .matched := by
  intro o₀ settings o event
  have hyaml : Options.ofYaml "match:\n  message: a" = .ok o₀ := by cbv
  have hrun : (Engine.ofOptions .empty o).1.map (fun e => (e.run event).1.field? "other") =
      .ok (some .matched) := by cbv
  obtain ⟨hnodup, -, hcollects, hengine⟩ := fields_of_settings (.yaml hyaml) settings
  refine ⟨hyaml, hnodup, hcollects ("message", ["c", "d"]) (.head _), ?_⟩
  cases he : (Engine.ofOptions .empty o).1 with
  | error err =>
    rw [he] at hrun
    cases hrun
  | ok e =>
    rw [he] at hrun
    have hother : (e.run event).1.field? "other" = some .matched := Except.ok.inj hrun
    obtain ⟨hconfigured, -, hfields⟩ := hengine .empty e he
    obtain ⟨vs, htour, -, hvs, hiff⟩ :=
      hfields _ Timeout.Session.runner ⟨event, e.session, []⟩
    exact ⟨e, rfl, hconfigured, hother, vs, htour, hvs, (hiff _ _).1 hother⟩

end Filter

end Grok
