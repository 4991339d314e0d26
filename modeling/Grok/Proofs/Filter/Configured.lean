import Grok.Engine
/-!
Filters as their options set them up. Main statement: the fields of a filter are those of its
options, in the same order, with a matcher for each of their patterns.
-/
namespace Grok

theorem Library.source_of_compile {l : Library} {namedOnly : Bool} {pattern : String} {m : Matcher}
    (h : l.compile namedOnly pattern = .ok m) : m.source = pattern := by
  rw [compile] at h
  cases hx : l.expand namedOnly pattern with
  | error e =>
    rw [hx] at h
    cases h
  | ok x =>
    rw [hx] at h
    change Matcher.ofExpression pattern x.expression x.captures = .ok m at h
    rw [Matcher.ofExpression] at h
    split at h
    · cases h
      rfl
    · cases h

namespace Filter

variable {o : Options} {f : Filter} {tree : FileTree} {library : Library} {namedOnly : Bool}
  {field : String}

/-- What a filter takes from the options. -/
theorem ofOptions_eq_ok {tree : FileTree} {f : Filter} (h : (ofOptions tree o).1 = .ok f) :
    f.options = o ∧ (Library.load tree o.sources).1 = .ok f.library ∧
      (compileFields f.library o.namedOnly o.patterns).1 = .ok f.fields := by
  unfold ofOptions at h
  split at h
  · cases h
  · split at h
    · cases h
    · next library l hload =>
      dsimp only at h
      cases hfields : (compileFields library o.namedOnly o.patterns).1 with
      | error e =>
        rw [hfields] at h
        cases h
      | ok fields =>
        rw [hfields] at h
        cases h
        exact ⟨rfl, by rw [hload], hfields⟩

/-- The field and the patterns that it was made from. -/
def configured (g : FieldMatchers) : String × List String := (g.field, g.matchers.map Matcher.source)

theorem sources_compileField {ps : List String} {ms : List Matcher}
    (h : (compileField library namedOnly field ps).1 = .ok ms) : ms.map Matcher.source = ps := by
  induction ps generalizing ms with
  | nil =>
    cases h
    rfl
  | cons p ps ih =>
    rw [compileField] at h
    split at h
    · cases h
    · next m hm =>
      dsimp only at h
      cases hms : (compileField library namedOnly field ps).1 with
      | error e =>
        rw [hms] at h
        cases h
      | ok ms =>
        rw [hms] at h
        cases h
        rw [List.map_cons, Library.source_of_compile hm, ih hms]

theorem configured_compileFields {ps : List (String × List String)} {fs : List FieldMatchers}
    (h : (compileFields library namedOnly ps).1 = .ok fs) : fs.map configured = ps := by
  induction ps generalizing fs with
  | nil =>
    cases h
    rfl
  | cons p ps ih =>
    obtain ⟨field, sources⟩ := p
    rw [compileFields] at h
    split at h
    · cases h
    · next ms log hms =>
      have hsources : ms.map Matcher.source = sources := sources_compileField (by rw [hms])
      dsimp only at h
      cases hfs : (compileFields library namedOnly ps).1 with
      | error e =>
        rw [hfs] at h
        cases h
      | ok fs =>
        rw [hfs] at h
        cases h
        rw [List.map_cons, configured, hsources, ih hfs]

theorem configured_ofOptions (h : (ofOptions tree o).1 = .ok f) :
    f.fields.map configured = o.patterns :=
  configured_compileFields (ofOptions_eq_ok h).2.2

theorem validatePatterns_of_ofOptions (h : (ofOptions tree o).1 = .ok f) :
    Options.validatePatterns o.patterns = .ok () := by
  rw [ofOptions] at h
  cases hpatterns : Options.validatePatterns o.patterns with
  | ok => rfl
  | error e =>
    have hvalid : o.validate = .error e := by
      rw [Options.validate, hpatterns]
      rfl
    rw [hvalid] at h
    cases h

end Filter

theorem Options.validatePatterns_eq_ok_iff {ps : List (String × List String)} :
    validatePatterns ps = .ok () ↔ ∀ p ∈ ps, p.1 ≠ "" ∧ p.2 ≠ [] := by
  induction ps with
  | nil => simp [validatePatterns]
  | cons p ps ih =>
    rw [validatePatterns, List.forall_mem_cons]
    split
    · next hempty => simp [String.isEmpty_iff.1 hempty]
    · next hname =>
      split
      · next hnone => simp [List.isEmpty_iff.1 hnone]
      · next hsome => simp_all

namespace Filter

variable {o : Options} {f : Filter} {tree : FileTree}

/-- Every field of a filter has a name and matchers, since options without are refused. -/
theorem name_and_matchers_ne (h : (ofOptions tree o).1 = .ok f) :
    ∀ g ∈ f.fields, g.field ≠ "" ∧ g.matchers ≠ [] := by
  intro g hg
  have hmem : configured g ∈ o.patterns := by
    rw [← configured_ofOptions h]
    exact List.mem_map_of_mem hg
  obtain ⟨hname, hsome⟩ :=
    Options.validatePatterns_eq_ok_iff.1 (validatePatterns_of_ofOptions h) _ hmem
  exact ⟨hname, fun hnil => hsome (by rw [configured, hnil]; rfl)⟩

end Filter

theorem Engine.filter_of_ofOptions {tree : FileTree} {o : Options} {e : Engine}
    (h : (ofOptions tree o).1 = .ok e) : (Filter.ofOptions tree o).1 = .ok e.filter := by
  unfold ofOptions at h
  split at h
  · cases h
  · next f log hf =>
    cases h
    rw [hf]

end Grok
