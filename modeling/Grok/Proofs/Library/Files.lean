import Mathlib
import Grok.Library
/-!
What a library reads of a file tree. Main statement: the files that are selected in a directory are
those whose names have the form of the glob, each one once and in strictly ascending order, so that
the order in which the tree lists them makes no difference.
-/
namespace Grok

theorem FileNode.content?_eq_ok_iff {node : FileNode} {bytes : ByteArray} :
    node.content? = some (.ok bytes) ↔ node = .file bytes := by
  cases node <;> simp [content?]

namespace FileTree

/-- A name that can be a component of a path, and leads to what it names. -/
def IsComponent (name : String) : Prop :=
  name ≠ "" ∧ name ≠ "." ∧ name ≠ ".." ∧ '/' ∉ name.toList

instance : DecidablePred IsComponent := fun _ => inferInstanceAs (Decidable (_ ∧ _))

/-- Every place is listed once, under names that paths can hold. -/
structure Sound (t : FileTree) : Prop where
  nodup : (t.entries.map Prod.fst).Nodup
  names : ∀ e ∈ t.entries, ∀ name ∈ e.1, IsComponent name

/-- A plain file is listed at a place, whether it can be read or not. -/
def HasFile (t : FileTree) (place : List String) : Prop :=
  ∃ node, (place, node) ∈ t.entries ∧ node.isPlain

/-- The file at a place is a text. -/
def Holds (t : FileTree) (place : List String) (text : String) : Prop :=
  ∃ bytes, (place, .file bytes) ∈ t.entries ∧ String.fromUTF8? bytes = some text

variable {t t' : FileTree} {place dir : List String} {path name text : String} {bytes : ByteArray}
  {g : Glob}

/-! ### Files -/

theorem file?_eq_some_iff (h : t.Sound) {content : Except String ByteArray} :
    t.file? place = some content ↔
      ∃ node, (place, node) ∈ t.entries ∧ node.content? = some content := by
  have hmem {content} (hfile : t.file? place = some content) :
      ∃ node, (place, node) ∈ t.entries ∧ node.content? = some content := by
    obtain ⟨⟨p, node⟩, hentry, hnode⟩ := List.exists_of_findSome?_eq_some hfile
    obtain ⟨rfl, hcontent⟩ := Option.ite_none_right_eq_some.1 hnode
    exact ⟨node, hentry, hcontent⟩
  refine ⟨hmem, ?_⟩
  rintro ⟨node, hentry, hcontent⟩
  have hsome : (t.file? place).isSome :=
    List.findSome?_isSome_iff.2 ⟨_, hentry, by simp [hcontent]⟩
  obtain ⟨content', hfile⟩ := Option.isSome_iff_exists.1 hsome
  obtain ⟨node', hentry', hcontent'⟩ := hmem hfile
  cases List.inj_on_of_nodup_map h.nodup hentry hentry' rfl
  rw [hfile, ← hcontent', hcontent]

theorem file?_eq_ok_iff (h : t.Sound) :
    t.file? place = some (.ok bytes) ↔ (place, .file bytes) ∈ t.entries := by
  simp [file?_eq_some_iff h, FileNode.content?_eq_ok_iff]

theorem listingFault?_eq_some_iff (h : t.Sound) {detail : String} :
    t.listingFault? place = some detail ↔ (place, .unlisted detail) ∈ t.entries := by
  have hmem {detail} (hfault : t.listingFault? place = some detail) :
      (place, .unlisted detail) ∈ t.entries := by
    obtain ⟨⟨p, node⟩, hentry, hnode⟩ := List.exists_of_findSome?_eq_some hfault
    cases node with
    | file | sealed | fleeting | directory => cases hnode
    | unlisted d =>
      obtain ⟨rfl, hd⟩ := Option.ite_none_right_eq_some.1 hnode
      cases hd
      exact hentry
  refine ⟨hmem, fun hentry => ?_⟩
  have hsome : (t.listingFault? place).isSome :=
    List.findSome?_isSome_iff.2 ⟨_, hentry, by simp⟩
  obtain ⟨d, hd⟩ := Option.isSome_iff_exists.1 hsome
  cases List.inj_on_of_nodup_map h.nodup hentry (hmem hd) rfl
  exact hd

theorem readText_eq_ok_iff (h : t.Sound) :
    t.readText path = .ok text ↔ ∃ place, t.resolve path = some place ∧ t.Holds place text := by
  unfold readText Holds
  cases t.resolve path with
  | none => simp
  | some place =>
    simp only [Option.some.injEq, exists_eq_left', ← file?_eq_ok_iff h]
    cases t.file? place with
    | none => simp
    | some content =>
      cases content with
      | error detail => simp
      | ok bytes => cases htext : String.fromUTF8? bytes <;> simp [htext]

/-- The name of a plain file that is an entry right below a directory. -/
theorem name_of_entry_iff {p : List String} {node : FileNode} :
    (if node.isPlain && p.length = dir.length + 1 && dir.isPrefixOf p then p.getLast?
      else none) = some name ↔ node.isPlain ∧ p = dir ++ [name] := by
  simp only [Option.ite_none_right_eq_some, Bool.and_eq_true, decide_eq_true_eq,
    List.isPrefixOf_iff_prefix, and_assoc, and_congr_right_iff]
  intro _
  constructor
  · rintro ⟨hlength, ⟨rest, rfl⟩, hlast⟩
    rw [List.length_append, Nat.add_left_cancel_iff, List.length_eq_one_iff] at hlength
    obtain ⟨last, rfl⟩ := hlength
    simpa using hlast
  · rintro rfl
    simp

theorem mem_fileNames_iff : name ∈ t.fileNames dir ↔ t.HasFile (dir ++ [name]) := by
  simp only [fileNames, List.mem_filterMap, HasFile]
  constructor
  · rintro ⟨⟨p, node⟩, hentry, hname⟩
    obtain ⟨hplain, rfl⟩ := name_of_entry_iff.1 hname
    exact ⟨node, hentry, hplain⟩
  · rintro ⟨node, hentry, hplain⟩
    exact ⟨_, hentry, name_of_entry_iff.2 ⟨hplain, rfl⟩⟩

theorem nodup_fileNames (h : t.Sound) (dir : List String) : (t.fileNames dir).Nodup := by
  have hplaces : t.entries.Pairwise fun e e' => e.1 ≠ e'.1 := List.pairwise_map.1 h.nodup
  rw [fileNames, List.Nodup, List.pairwise_filterMap]
  refine hplaces.imp fun {e e'} hne name hname name' hname' heq => hne ?_
  rw [(name_of_entry_iff.1 hname).2, (name_of_entry_iff.1 hname').2, heq]

/-! ### Paths -/

theorem walk_cons (place : List String) (c : String) (cs : List String) :
    t.walk place (c :: cs) = (t.walk place [c]).bind fun p => t.walk p cs := by
  simp only [walk]
  split_ifs <;> rfl

theorem walk_append (place cs cs' : List String) :
    t.walk place (cs ++ cs') = (t.walk place cs).bind fun p => t.walk p cs' := by
  induction cs generalizing place with
  | nil => rfl
  | cons c cs ih =>
    rw [List.cons_append, walk_cons, walk_cons place c cs, Option.bind_assoc]
    simp only [ih]

/-- A walk through a directory to a file that it lists. -/
theorem walk_listed (h : t.Sound) (hfile : t.HasFile (dir ++ [name])) :
    t.walk dir [name] =
      if t.isDirectory (dir ++ [name]) || (t.file? (dir ++ [name])).isSome
        then some (dir ++ [name]) else none := by
  obtain ⟨node, hentry, -⟩ := hfile
  obtain ⟨hempty, hdot, hdots, -⟩ := h.names _ hentry name (by simp)
  have hdir : t.isDirectory dir := by
    rw [isDirectory, Bool.or_eq_true]
    exact .inr (List.any_eq_true.2 ⟨_, hentry, by simp⟩)
  simp [walk, hdir, hempty, hdot, hdots]

theorem resolve_eq_some_iff :
    t.resolve path = some place ↔
      path.toList ≠ [] ∧ ¬ ['/'] <+: path.toList ∧ t.walk [] (components path) = some place := by
  simp [resolve, and_assoc]

theorem components_of_append {cs : List Char} (hpath : path.toList = cs ++ '/' :: name.toList)
    (hname : '/' ∉ name.toList) :
    components path = components (String.ofList cs) ++ [name] := by
  rw [components, components, hpath, List.splitOn_append_cons_self,
    List.splitOn_eq_singleton hname, String.toList_ofList]
  simp

/-- A name behind a directory is one more component, in place of the empty one behind a slash. -/
theorem components_join (path : String) (hname : '/' ∉ name.toList) :
    ∃ cs, components (join path name) = cs ++ [name] ∧
      (components path = cs ∨ components path = cs ++ [""]) := by
  unfold join
  split
  · next hslash =>
    simp only [← String.endsWith_toSlice, String.Slice.endsWith_string_iff,
      String.copy_toSlice] at hslash
    obtain ⟨cs, hcs⟩ := hslash
    refine ⟨components (String.ofList cs), ?_, .inr ?_⟩
    · refine components_of_append ?_ hname
      rw [String.toList_append, ← hcs, List.append_assoc]
      rfl
    · exact components_of_append hcs.symm (by decide)
  · have hjoin : components (path ++ "/" ++ name) =
        components (String.ofList path.toList) ++ [name] :=
      components_of_append (by simp) hname
    rw [String.ofList_toList] at hjoin
    exact ⟨components path, hjoin, .inl rfl⟩

theorem exists_toList_join (path name : String) :
    ∃ rest, (join path name).toList = path.toList ++ rest := by
  unfold join
  split
  · exact ⟨_, String.toList_append⟩
  · exact ⟨_, by rw [String.toList_append, String.toList_append, List.append_assoc]⟩

/-- The path of a name in a directory leads one step on from the directory. -/
theorem resolve_join (hdir : t.resolve path = some dir) (hname : '/' ∉ name.toList) :
    t.resolve (join path name) = t.walk dir [name] := by
  obtain ⟨hne, hrelative, hwalk⟩ := resolve_eq_some_iff.1 hdir
  obtain ⟨rest, hrest⟩ := exists_toList_join path name
  obtain ⟨cs, hjoin, hcs⟩ := components_join path hname
  have hcsdir : t.walk [] cs = some dir := by
    obtain hcs | hcs := hcs
    · rwa [← hcs]
    · rw [hcs, walk_append] at hwalk
      obtain ⟨place, hplace, hlast⟩ := Option.bind_eq_some_iff.1 hwalk
      simp only [walk] at hlast
      split at hlast
      · cases hlast
      · cases hlast
        exact hplace
  have hrelative' : ¬ ['/'] <+: (join path name).toList := by
    obtain ⟨c, l, hpath⟩ := List.exists_cons_of_ne_nil hne
    rw [hrest, hpath, List.cons_append, List.cons_prefix_cons]
    rw [hpath, List.cons_prefix_cons] at hrelative
    simpa using hrelative
  refine Option.ext fun place => ?_
  rw [resolve_eq_some_iff, hjoin, walk_append, hcsdir]
  simp [hrest, hne, hrest ▸ hrelative']

theorem readText_join_eq_ok_iff (h : t.Sound) (hdir : t.resolve path = some dir)
    (hfile : t.HasFile (dir ++ [name])) :
    t.readText (join path name) = .ok text ↔ t.Holds (dir ++ [name]) text := by
  obtain ⟨-, -, -, hname⟩ := h.names _ hfile.choose_spec.1 name (by simp)
  rw [readText_eq_ok_iff h, resolve_join hdir hname, walk_listed h hfile]
  constructor
  · rintro ⟨place, hplace, hholds⟩
    obtain ⟨-, heq⟩ := Option.ite_none_right_eq_some.1 hplace
    cases heq
    exact hholds
  · intro hholds
    have hthere : (t.file? (dir ++ [name])).isSome := by
      obtain ⟨bytes, hentry, -⟩ := hholds
      simp [(file?_eq_ok_iff h).2 hentry]
    exact ⟨_, by rw [hthere, Bool.or_true, if_pos rfl], hholds⟩

/-! ### The order of entries -/

section Order

variable (horder : t'.entries.Perm t.entries)
include horder

theorem Sound.of_perm (h : t.Sound) : t'.Sound where
  nodup := (horder.map Prod.fst).nodup_iff.2 h.nodup
  names := fun e he => h.names e (horder.mem_iff.1 he)

theorem isDirectory_of_perm : t'.isDirectory = t.isDirectory := by
  funext place
  rw [isDirectory, isDirectory, horder.any_eq]

theorem file?_of_perm (h : t.Sound) : t'.file? = t.file? := by
  funext place
  refine Option.ext fun content => ?_
  simp only [file?_eq_some_iff (h.of_perm horder), file?_eq_some_iff h, horder.mem_iff]

theorem listingFault?_of_perm (h : t.Sound) : t'.listingFault? = t.listingFault? := by
  funext place
  refine Option.ext fun detail => ?_
  rw [listingFault?_eq_some_iff (h.of_perm horder), listingFault?_eq_some_iff h, horder.mem_iff]

theorem walk_of_perm (h : t.Sound) (place cs : List String) : t'.walk place cs = t.walk place cs := by
  induction cs generalizing place with
  | nil => rfl
  | cons c cs ih =>
    simp only [walk, isDirectory_of_perm horder, file?_of_perm horder h, ih]

theorem resolve_of_perm (h : t.Sound) : t'.resolve = t.resolve := by
  funext path
  rw [resolve, resolve, walk_of_perm horder h]

theorem readText_of_perm (h : t.Sound) : t'.readText = t.readText := by
  funext path
  rw [readText, readText, resolve_of_perm horder h, file?_of_perm horder h]

end Order

end FileTree

namespace Library

open FileTree

variable {t t' : FileTree} {dir : List String} {name : String} {g : Glob}

theorem mem_selectFiles_iff :
    name ∈ selectFiles t dir g ↔ g.accepts name ∧ t.HasFile (dir ++ [name]) := by
  rw [selectFiles, List.mem_mergeSort, List.mem_filter, mem_fileNames_iff, and_comm]

theorem pairwise_selectFiles (h : t.Sound) (dir : List String) (g : Glob) :
    (selectFiles t dir g).Pairwise (· < ·) := by
  have hle : (selectFiles t dir g).Pairwise (· ≤ ·) := List.pairwise_mergeSort' _ _
  have hne : (selectFiles t dir g).Pairwise (· ≠ ·) :=
    (List.mergeSort_perm _ _).nodup_iff.2 ((nodup_fileNames h dir).filter _)
  exact hle.imp₂ (fun _ _ => lt_of_le_of_ne) hne

/-- The files of a directory come in one order, however the tree lists them. -/
theorem selectFiles_of_perm (horder : t'.entries.Perm t.entries) (h : t.Sound) :
    selectFiles t' dir g = selectFiles t dir g := by
  refine (pairwise_selectFiles (h.of_perm horder) dir g).eq_of_mem_iff
    (pairwise_selectFiles h dir g) fun name => ?_
  simp only [mem_selectFiles_iff, HasFile, horder.mem_iff]

end Library

end Grok
