import Mathlib
import Grok.Engine
import Grok.Proofs.Filter.Configured
import Grok.Proofs.Library.Loading
/-!
Which definition of a name is in force. Main statement: a library that has been loaded for an engine
holds, for every name, its last definition in the order of the options, and the order in which
directories list their files makes no difference.
-/
namespace Grok

/-- The definitions that options ask for, where `contributed` stand at their paths. -/
def Options.sequence (o : Options) (contributed : List (List (String × String))) :
    List (String × String) :=
  (if o.builtins then Builtin.patterns else []) ++ contributed.flatten ++ o.definitions

namespace Library

open FileTree

variable {tree tree' : FileTree} {o : Options} {l : Library} {sources : List PatternSource}

theorem addSources_of_load (h : (load tree sources).1 = .ok l) :
    (addSources tree empty sources).Succeeds ∧ (addSources tree empty sources).library = l := by
  unfold load at h
  dsimp only at h
  cases hadded : (addSources tree empty sources).added with
  | error e =>
    rw [hadded] at h
    cases h
  | ok n =>
    rw [hadded] at h
    exact ⟨⟨n, hadded⟩, Except.ok.inj h⟩

theorem addSources_sources (ht : tree.Sound) (h : (addSources tree empty o.sources).Succeeds) :
    ∃ contributed, o.dirs.Forall₂ (tree.Contributes o.filesGlob) contributed ∧
      (addSources tree empty o.sources).library = empty.addAll (o.sequence contributed) := by
  have hbuiltins : (addSources tree empty (if o.builtins then [.builtin] else [])).library =
      empty.addAll (if o.builtins then Builtin.patterns else []) := by
    cases o.builtins <;> rfl
  have hdefinitions (l : Library) :
      (addSources tree l (if o.definitions.isEmpty then [] else [.inline o.definitions])).library =
        l.addAll o.definitions := by
    cases o.definitions <;> rfl
  obtain ⟨hpaths, -, hlast⟩ := addSources_append h
  obtain ⟨-, hdirs, hmiddle⟩ := addSources_append hpaths
  obtain ⟨contributed, hcontributed, hadded⟩ := addSources_paths ht hdirs
  refine ⟨contributed, hcontributed, ?_⟩
  rw [Options.sources, hlast, hdefinitions, hmiddle, hadded, addAll_addAll, hbuiltins,
    addAll_addAll, ← List.append_assoc, Options.sequence]

end Library

end Grok
