import Mathlib
import Grok.Proofs.Library.Definitions
import Grok.Proofs.Library.Files
/-!
Loading of definitions step by step. Main statement: whatever is loaded without an error adds the
definitions of its files and sources one after the other, and a directory contributes its files in
ascending order of their names.
-/
namespace Grok

/-- The definitions that stand at a path: those of a single file, whatever the glob is, or those of
the files of a directory whose names have the form of the glob, in ascending order of the names. -/
inductive FileTree.Contributes (t : FileTree) (glob path : String) :
    List (String × String) → Prop
  | file {place : List String} {text : String} : t.resolve path = some place →
      t.isDirectory place = false → t.Holds place text →
      Contributes t glob path (PatternFile.definitions text)
  | directory {dir names texts : List String} {g : Glob} : t.resolve path = some dir →
      t.isDirectory dir → Glob.ofText glob = .ok g → names.Pairwise (· < ·) →
      (∀ name, name ∈ names ↔ g.accepts name ∧ t.HasFile (dir ++ [name])) →
      List.Forall₂ (fun name text => t.Holds (dir ++ [name]) text) names texts →
      Contributes t glob path (texts.flatMap PatternFile.definitions)

namespace Loaded

variable {first : Loaded} {rest : Library → Loaded}

def Succeeds (r : Loaded) : Prop := ∃ n, r.added = .ok n

/-- Goes on loading unless something has failed. -/
def andThen (first : Loaded) (rest : Library → Loaded) : Loaded :=
  match first.added with
  | .error e => ⟨first.library, first.log, .error e⟩
  | .ok n =>
    let r := rest first.library
    ⟨r.library, first.log ++ r.log, r.added.map (n + ·)⟩

theorem succeeds_andThen_iff :
    (first.andThen rest).Succeeds ↔ first.Succeeds ∧ (rest first.library).Succeeds := by
  unfold andThen Succeeds
  cases first.added with
  | error e => simp
  | ok n => cases hrest : (rest first.library).added <;> simp [hrest, Except.map]

theorem library_andThen (h : first.Succeeds) :
    (first.andThen rest).library = (rest first.library).library := by
  obtain ⟨n, hn⟩ := h
  rw [andThen, hn]

end Loaded

namespace Library

open FileTree

variable {tree : FileTree} {l : Library} {path glob : String} {dir paths names dirs : List String}
  {source : PatternSource} {sources sources' : List PatternSource}
  {defs defs' : List (String × String)}

theorem addAll_addAll : (l.addAll defs).addAll defs' = l.addAll (defs ++ defs') :=
  congrArg mk (Table.putAll_append _ _ _).symm

theorem addFiles_cons : addFiles tree l (path :: paths) =
    (addFile tree l path).andThen fun l => addFiles tree l paths := rfl

theorem addSources_cons : addSources tree l (source :: sources) =
    (addSource tree l source).andThen fun l => addSources tree l sources := rfl

/-! ### What is added -/

theorem addFile_succeeds (h : (addFile tree l path).Succeeds) :
    ∃ text, tree.readText path = .ok text ∧
      (addFile tree l path).library = l.addAll (PatternFile.definitions text) := by
  obtain ⟨n, hn⟩ := h
  unfold addFile at hn ⊢
  split at hn
  · cases hn
  · dsimp only at hn ⊢
    cases htext : tree.readText path with
    | error e =>
      rw [htext] at hn
      cases hn
    | ok text => exact ⟨text, rfl, rfl⟩

theorem addFiles_succeeds (h : (addFiles tree l paths).Succeeds) :
    ∃ texts, paths.Forall₂ (fun path text => tree.readText path = .ok text) texts ∧
      (addFiles tree l paths).library = l.addAll (texts.flatMap PatternFile.definitions) := by
  induction paths generalizing l with
  | nil => exact ⟨[], .nil, rfl⟩
  | cons path paths ih =>
    rw [addFiles_cons] at h ⊢
    obtain ⟨hfile, hfiles⟩ := Loaded.succeeds_andThen_iff.1 h
    obtain ⟨text, htext, hadded⟩ := addFile_succeeds hfile
    obtain ⟨texts, htexts, hrest⟩ := ih hfiles
    refine ⟨text :: texts, .cons htext htexts, ?_⟩
    rw [Loaded.library_andThen hfile, hrest, hadded, addAll_addAll, List.flatMap_cons]

/-- The paths of files of a directory lead to what lies in it. -/
theorem holds_of_readText_join (ht : tree.Sound) (hdir : tree.resolve path = some dir)
    {texts : List String} (hfiles : ∀ name ∈ names, tree.HasFile (dir ++ [name]))
    (h : (names.map (join path)).Forall₂ (fun path text => tree.readText path = .ok text) texts) :
    names.Forall₂ (fun name text => tree.Holds (dir ++ [name]) text) texts := by
  induction names generalizing texts with
  | nil =>
    cases h
    exact .nil
  | cons name names ih =>
    cases h with
    | cons htext htexts =>
      obtain ⟨hfile, hfiles⟩ := List.forall_mem_cons.1 hfiles
      exact .cons ((readText_join_eq_ok_iff ht hdir hfile).1 htext) (ih hfiles htexts)

theorem addPath_succeeds (ht : tree.Sound) (h : (addPath tree l path glob).Succeeds) :
    ∃ defs, tree.Contributes glob path defs ∧
      (addPath tree l path glob).library = l.addAll defs := by
  unfold addPath at h ⊢
  cases hplace : tree.resolve path with
  | none =>
    rw [hplace] at h
    cases h.choose_spec
  | some place =>
    rw [hplace] at h
    dsimp only at h ⊢
    cases hdir : tree.isDirectory place with
    | false =>
      rw [hdir] at h
      obtain ⟨text, htext, hlibrary⟩ := addFile_succeeds h
      obtain ⟨place', hplace', hholds⟩ := (readText_eq_ok_iff ht).1 htext
      cases hplace.symm.trans hplace'
      exact ⟨_, .file hplace hdir hholds, hlibrary⟩
    | true =>
      rw [hdir] at h
      cases hglob : Glob.ofText glob with
      | error fault =>
        rw [hglob] at h
        cases h.choose_spec
      | ok g =>
        rw [hglob] at h
        dsimp only at h ⊢
        cases hlist : tree.listingFault? place with
        | some detail =>
          rw [hlist] at h
          cases h.choose_spec
        | none =>
          rw [hlist] at h
          obtain ⟨texts, htexts, hlibrary⟩ := addFiles_succeeds h
          refine ⟨_, .directory hplace hdir hglob (pairwise_selectFiles ht place g)
            (fun _ => mem_selectFiles_iff) ?_, hlibrary⟩
          exact holds_of_readText_join ht hplace
            (fun _ hname => (mem_selectFiles_iff.1 hname).2) htexts

theorem addSources_append (h : (addSources tree l (sources ++ sources')).Succeeds) :
    (addSources tree l sources).Succeeds ∧
      (addSources tree (addSources tree l sources).library sources').Succeeds ∧
      (addSources tree l (sources ++ sources')).library =
        (addSources tree (addSources tree l sources).library sources').library := by
  induction sources generalizing l with
  | nil => exact ⟨⟨0, rfl⟩, h, rfl⟩
  | cons source sources ih =>
    rw [List.cons_append, addSources_cons] at h
    obtain ⟨hfirst, hrest⟩ := Loaded.succeeds_andThen_iff.1 h
    obtain ⟨hsources, hsources', hlibrary⟩ := ih hrest
    rw [List.cons_append, addSources_cons, addSources_cons, Loaded.library_andThen hfirst,
      Loaded.library_andThen hfirst]
    exact ⟨Loaded.succeeds_andThen_iff.2 ⟨hfirst, hsources⟩, hsources', hlibrary⟩

/-- Paths add the definitions that stand there, in order. -/
theorem addSources_paths (ht : tree.Sound)
    (h : (addSources tree l (dirs.map (.path · glob))).Succeeds) :
    ∃ contributed, dirs.Forall₂ (tree.Contributes glob) contributed ∧
      (addSources tree l (dirs.map (.path · glob))).library = l.addAll contributed.flatten := by
  induction dirs generalizing l with
  | nil => exact ⟨[], .nil, rfl⟩
  | cons path dirs ih =>
    rw [List.map_cons, addSources_cons] at h ⊢
    obtain ⟨hpath, hpaths⟩ := Loaded.succeeds_andThen_iff.1 h
    obtain ⟨defs, hdefs, hadded⟩ := addPath_succeeds ht hpath
    obtain ⟨contributed, hcontributed, hrest⟩ := ih hpaths
    refine ⟨defs :: contributed, .cons hdefs hcontributed, ?_⟩
    rw [Loaded.library_andThen hpath, hrest, addSource, hadded, addAll_addAll, List.flatten_cons]

/-! ### The order of entries -/

section Order

variable {tree' : FileTree} (horder : tree'.entries.Perm tree.entries) (ht : tree.Sound)
include horder ht

theorem addFile_of_perm : addFile tree' l path = addFile tree l path := by
  rw [addFile, addFile, resolve_of_perm horder ht, readText_of_perm horder ht]

theorem addFiles_of_perm : addFiles tree' l paths = addFiles tree l paths := by
  induction paths generalizing l with
  | nil => rfl
  | cons path paths ih =>
    rw [addFiles_cons, addFiles_cons, addFile_of_perm horder ht]
    simp only [ih]

theorem addSource_of_perm : addSource tree' l source = addSource tree l source := by
  cases source with
  | builtin => rfl
  | path path glob =>
    simp only [addSource, addPath, resolve_of_perm horder ht, isDirectory_of_perm horder,
      listingFault?_of_perm horder ht, addFile_of_perm horder ht, addFiles_of_perm horder ht,
      selectFiles_of_perm horder ht]
  | inline defs => rfl

theorem addSources_of_perm : addSources tree' l sources = addSources tree l sources := by
  induction sources generalizing l with
  | nil => rfl
  | cons source sources ih =>
    rw [addSources_cons, addSources_cons, addSource_of_perm horder ht]
    simp only [ih]

end Order

end Library

end Grok
