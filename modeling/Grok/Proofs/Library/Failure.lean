import Mathlib
import Grok.Proofs.Library.Loading
/-!
Loading that fails. Main statement: a path is loaded whole or up to the file that refuses to be
read, what is loaded are whole files in the order of their names, and a sequence of sources fails
as the first of them that fails.
-/
namespace Grok

namespace FileTree

/-- Nothing lies below a plain file. -/
structure Proper (t : FileTree) : Prop extends t.Sound where
  plain : ∀ e ∈ t.entries, e.2.isPlain → t.isDirectory e.1 = false

/-- Reading the plain file at a place fails, with an error that may name the path to it. -/
inductive Refuses (t : FileTree) (path : String) (place : List String) : Error → Prop
  | fleeting : (place, .fleeting) ∈ t.entries → Refuses t path place (.missingFile path)
  | sealed {detail : String} :
      (place, .sealed detail) ∈ t.entries → Refuses t path place (.io detail)
  | notText {bytes : ByteArray} : (place, .file bytes) ∈ t.entries →
      String.fromUTF8? bytes = none → Refuses t path place (.io "the file is not valid UTF-8")

/-- The files of a directory whose names have the form of a glob, in ascending order. -/
structure Selects (t : FileTree) (dir : List String) (g : Glob) (names : List String) : Prop where
  ascending : names.Pairwise (· < ·)
  mem_iff : ∀ name, name ∈ names ↔ g.accepts name ∧ t.HasFile (dir ++ [name])

/-- The files of a directory hold these texts. -/
abbrev HoldAll (t : FileTree) (dir names texts : List String) : Prop :=
  names.Forall₂ (fun name text => t.Holds (dir ++ [name]) text) texts

/-- How a path is loaded into a library: the library that is left behind, and the number of
definitions or the error. -/
inductive Loads (t : FileTree) (glob path : String) (l : Library) :
    Library → Except Error Nat → Prop
  | missing : t.resolve path = none → Loads t glob path l l (.error (.missingFile path))
  | file {place : List String} {text : String} : t.resolve path = some place →
      t.isDirectory place = false → t.Holds place text →
      Loads t glob path l (l.addAll (PatternFile.definitions text))
        (.ok (PatternFile.definitions text).length)
  | refused {place : List String} {e : Error} : t.resolve path = some place →
      t.isDirectory place = false → t.Refuses path place e → Loads t glob path l l (.error e)
  | malformed {dir : List String} {fault : Glob.Fault} : t.resolve path = some dir →
      t.isDirectory dir → Glob.ofText glob = .error fault →
      Loads t glob path l l (.error (.invalidGlob glob fault.message))
  | unlisted {dir : List String} {g : Glob} {detail : String} : t.resolve path = some dir →
      t.isDirectory dir → Glob.ofText glob = .ok g → (dir, .unlisted detail) ∈ t.entries →
      Loads t glob path l l (.error (.io detail))
  | directory {dir names texts : List String} {g : Glob} : t.resolve path = some dir →
      t.isDirectory dir → Glob.ofText glob = .ok g →
      (∀ detail, (dir, .unlisted detail) ∉ t.entries) → t.Selects dir g names →
      t.HoldAll dir names texts →
      Loads t glob path l (l.addAll (texts.flatMap PatternFile.definitions))
        (.ok (texts.map fun text => (PatternFile.definitions text).length).sum)
  | stopped {dir before after texts : List String} {name : String} {g : Glob} {e : Error} :
      t.resolve path = some dir → t.isDirectory dir → Glob.ofText glob = .ok g →
      (∀ detail, (dir, .unlisted detail) ∉ t.entries) →
      t.Selects dir g (before ++ name :: after) → t.HoldAll dir before texts →
      t.Refuses (join path name) (dir ++ [name]) e →
      Loads t glob path l (l.addAll (texts.flatMap PatternFile.definitions)) (.error e)

variable {t : FileTree} {place place' dir cs names names' texts : List String} {path : String}
  {node : FileNode} {g : Glob}

theorem file?_of_mem (h : t.Sound) (hentry : (place, node) ∈ t.entries) :
    t.file? place = node.content? := by
  refine Option.ext fun content => ?_
  rw [file?_eq_some_iff h]
  constructor
  · rintro ⟨node', hentry', hcontent⟩
    cases List.inj_on_of_nodup_map h.nodup hentry hentry' rfl
    exact hcontent
  · exact fun hcontent => ⟨node, hentry, hcontent⟩

theorem listingFault?_eq_none_iff (h : t.Sound) :
    t.listingFault? place = none ↔ ∀ detail, (place, .unlisted detail) ∉ t.entries := by
  simp only [Option.eq_none_iff_forall_ne_some, ne_eq, listingFault?_eq_some_iff h]

theorem Selects.unique (h : t.Selects dir g names) (h' : t.Selects dir g names') :
    names = names' :=
  h.ascending.eq_of_mem_iff h'.ascending fun name => (h.mem_iff name).trans (h'.mem_iff name).symm

/-- How a path is loaded depends on the library only in what is added to it. -/
theorem Loads.into {l l' : Library} {glob : String} {added : Except Error Nat}
    (h : t.Loads glob path l l' added) (m : Library) : ∃ m', t.Loads glob path m m' added := by
  cases h with
  | missing hplace => exact ⟨_, .missing hplace⟩
  | file hplace hfile hholds => exact ⟨_, .file hplace hfile hholds⟩
  | refused hplace hfile hrefuses => exact ⟨_, .refused hplace hfile hrefuses⟩
  | malformed hdir hlists hglob => exact ⟨_, .malformed hdir hlists hglob⟩
  | unlisted hdir hlists hglob hfault => exact ⟨_, .unlisted hdir hlists hglob hfault⟩
  | directory hdir hlists hglob hlisted hnames htexts =>
    exact ⟨_, .directory hdir hlists hglob hlisted hnames htexts⟩
  | stopped hdir hlists hglob hlisted hnames htexts hrefuses =>
    exact ⟨_, .stopped hdir hlists hglob hlisted hnames htexts hrefuses⟩

/-! ### Where paths lead -/

theorem isDirectory_iff : t.isDirectory place ↔ place = [] ∨
    ∃ e ∈ t.entries, place <+: e.1 ∧ (e.1.length ≠ place.length ∨ e.2.isPlain = false) := by
  simp [isDirectory]

theorem isDirectory_dropLast (h : t.isDirectory place) : t.isDirectory place.dropLast := by
  obtain rfl | ⟨above, c, rfl⟩ := List.eq_nil_or_concat' place
  · rfl
  · obtain hnil | ⟨e, hentry, ⟨below, hbelow⟩, -⟩ := isDirectory_iff.1 h
    · simp at hnil
    · rw [List.dropLast_concat]
      exact isDirectory_iff.2 (.inr ⟨e, hentry, by simp [← hbelow]⟩)

/-- A walk ends at a directory or at a file that is there. -/
theorem walk_reaches (hplace : t.isDirectory place ∨ (t.file? place).isSome)
    (h : t.walk place cs = some place') : t.isDirectory place' ∨ (t.file? place').isSome := by
  induction cs generalizing place with
  | nil =>
    cases h
    exact hplace
  | cons c cs ih =>
    simp only [walk] at h
    split_ifs at h with hdir hstay hup hroot hnext
    · exact ih hplace h
    · exact ih (.inl (isDirectory_dropLast (by simpa using hdir))) h
    · exact ih (by simpa using hnext) h

theorem isSome_file?_of_resolve (h : t.resolve path = some place)
    (hplace : t.isDirectory place = false) : (t.file? place).isSome := by
  obtain ⟨-, -, hwalk⟩ := resolve_eq_some_iff.1 h
  have hroot : t.isDirectory [] := rfl
  obtain hdir | hfile := walk_reaches (.inl hroot) hwalk
  · rw [hplace] at hdir
    cases hdir
  · exact hfile

theorem hasFile_of_isSome (h : t.Sound) (hfile : (t.file? place).isSome) : t.HasFile place := by
  obtain ⟨content, hcontent⟩ := Option.isSome_iff_exists.1 hfile
  obtain ⟨node, hentry, hnode⟩ := (file?_eq_some_iff h).1 hcontent
  refine ⟨node, hentry, ?_⟩
  cases node with
  | file | sealed => rfl
  | fleeting | directory | unlisted => cases hnode

/-! ### The first file that refuses -/

theorem holds_or_refuses (path : String) (h : t.HasFile place) :
    (∃ text, t.Holds place text) ∨ ∃ e, t.Refuses path place e := by
  obtain ⟨node, hentry, hplain⟩ := h
  cases node with
  | file bytes =>
    cases htext : String.fromUTF8? bytes with
    | none => exact .inr ⟨_, .notText hentry htext⟩
    | some text => exact .inl ⟨text, bytes, hentry, htext⟩
  | sealed detail => exact .inr ⟨_, .sealed hentry⟩
  | fleeting => exact .inr ⟨_, .fleeting hentry⟩
  | directory | unlisted => cases hplain

theorem Refuses.hasFile {e : Error} (h : t.Refuses path place e) : t.HasFile place := by
  cases h with
  | fleeting hentry => exact ⟨_, hentry, rfl⟩
  | sealed hentry => exact ⟨_, hentry, rfl⟩
  | notText hentry _ => exact ⟨_, hentry, rfl⟩

theorem Proper.isDirectory_eq_false (ht : t.Proper) (h : t.HasFile place) :
    t.isDirectory place = false := by
  obtain ⟨node, hentry, hplain⟩ := h
  exact ht.plain _ hentry hplain

/-- All files hold texts, or a first one refuses. -/
theorem holdAll_or_refuses (path : String) (h : ∀ name ∈ names, t.HasFile (dir ++ [name])) :
    (∃ texts, t.HoldAll dir names texts) ∨ ∃ before name after texts e,
      names = before ++ name :: after ∧ t.HoldAll dir before texts ∧
        t.Refuses (join path name) (dir ++ [name]) e := by
  induction names with
  | nil => exact .inl ⟨[], .nil⟩
  | cons name names ih =>
    obtain ⟨hfile, hfiles⟩ := List.forall_mem_cons.1 h
    obtain ⟨text, htext⟩ | ⟨e, he⟩ := holds_or_refuses (join path name) hfile
    · obtain ⟨texts, htexts⟩ | ⟨before, name', after, texts, e, rfl, htexts, he⟩ := ih hfiles
      · exact .inl ⟨text :: texts, .cons htext htexts⟩
      · exact .inr ⟨name :: before, name', after, text :: texts, e, rfl, .cons htext htexts, he⟩
    · exact .inr ⟨[], name, names, [], e, rfl, .nil, he⟩

end FileTree

namespace Loaded

variable {first : Loaded} {rest : Library → Loaded} {l l' : Library} {e : Error}

/-- What loading leaves behind besides the log. -/
def answer (r : Loaded) : Library × Except Error Nat := (r.library, r.added)

theorem answer_andThen_of_ok {n : Nat} {added : Except Error Nat}
    (hfirst : first.answer = (l, .ok n)) (hrest : (rest l).answer = (l', added)) :
    (first.andThen rest).answer = (l', added.map (n + ·)) := by
  obtain ⟨rfl, hn⟩ := Prod.mk.inj hfirst
  obtain ⟨rfl, rfl⟩ := Prod.mk.inj hrest
  rw [andThen, hn]
  rfl

theorem answer_andThen_of_error (h : first.answer = (l, .error e)) :
    (first.andThen rest).answer = (l, .error e) := by
  obtain ⟨rfl, he⟩ := Prod.mk.inj h
  rw [andThen, he]
  rfl

theorem added_andThen_eq_error_iff : (first.andThen rest).added = .error e ↔
    first.added = .error e ∨
      (∃ n, first.added = .ok n) ∧ (rest first.library).added = .error e := by
  unfold andThen
  cases first.added with
  | error e' => simp
  | ok n => cases hrest : (rest first.library).added <;> simp [hrest, Except.map]

theorem not_succeeds_iff : ¬ first.Succeeds ↔ ∃ e, first.added = .error e := by
  unfold Succeeds
  cases first.added with
  | error e => simp
  | ok n => simp

end Loaded

namespace Library

open FileTree

variable {tree : FileTree} {l l' : Library} {path glob : String}
  {place dir paths names texts : List String} {text : String} {g : Glob} {e : Error}
  {source : PatternSource} {sources : List PatternSource}

/-! ### Files -/

theorem addFile_of_text (h : tree.readText path = .ok text) :
    (addFile tree l path).answer =
      (l.addAll (PatternFile.definitions text), .ok (PatternFile.definitions text).length) := by
  cases hplace : tree.resolve path with
  | none =>
    rw [readText, hplace] at h
    cases h
  | some place =>
    simp only [addFile, hplace, h]
    rfl

/-- A file that refuses to be read leaves the library as it is. -/
theorem addFile_of_refuses (ht : tree.Sound)
    (hplace : tree.resolve path = if (tree.file? place).isSome then some place else none)
    (h : tree.Refuses path place e) : (addFile tree l path).answer = (l, .error e) := by
  cases h with
  | fleeting hentry =>
    rw [file?_of_mem ht hentry] at hplace
    simp only [addFile, hplace]
    rfl
  | @sealed detail hentry =>
    have hfile := file?_of_mem ht hentry
    rw [hfile] at hplace
    have hread : tree.readText path = .error detail := by
      simp only [readText, hplace, FileNode.content?, Option.isSome_some, if_true, hfile]
    simp only [addFile, hplace, hread]
    rfl
  | notText hentry htext =>
    have hfile := file?_of_mem ht hentry
    rw [hfile] at hplace
    have hread : tree.readText path = .error "the file is not valid UTF-8" := by
      simp only [readText, hplace, FileNode.content?, Option.isSome_some, if_true, hfile, htext]
    simp only [addFile, hplace, hread]
    rfl

/-- Files that hold texts add the whole texts, one after the other. -/
theorem addFiles_of_texts
    (h : paths.Forall₂ (fun path text => tree.readText path = .ok text) texts) :
    (addFiles tree l paths).answer = (l.addAll (texts.flatMap PatternFile.definitions),
      .ok (texts.map fun text => (PatternFile.definitions text).length).sum) := by
  induction h generalizing l with
  | nil => rfl
  | cons htext _ ih =>
    rw [addFiles_cons, Loaded.answer_andThen_of_ok (addFile_of_text htext) ih, addAll_addAll]
    rfl

/-- A file that fails stops what comes after it and leaves what the files before it have added. -/
theorem addFiles_of_stop
    (h : paths.Forall₂ (fun path text => tree.readText path = .ok text) texts)
    (hstop : ∀ l, (addFile tree l path).answer = (l, .error e)) (after : List String) :
    (addFiles tree l (paths ++ path :: after)).answer =
      (l.addAll (texts.flatMap PatternFile.definitions), .error e) := by
  induction h generalizing l with
  | nil =>
    rw [List.nil_append, addFiles_cons, Loaded.answer_andThen_of_error (hstop l)]
    rfl
  | cons htext _ ih =>
    rw [List.cons_append, addFiles_cons,
      Loaded.answer_andThen_of_ok (addFile_of_text htext) ih, addAll_addAll]
    rfl

/-! ### Paths -/

theorem addPath_of_directory (hdir : tree.resolve path = some dir) (hlists : tree.isDirectory dir)
    (hglob : Glob.ofText glob = .ok g) (ht : tree.Sound)
    (hlisted : ∀ detail, (dir, .unlisted detail) ∉ tree.entries)
    (hnames : tree.Selects dir g names) :
    (addPath tree l path glob).answer = (addFiles tree l (names.map (join path))).answer := by
  have hselect : selectFiles tree dir g = names :=
    Selects.unique ⟨pairwise_selectFiles ht dir g, fun _ => mem_selectFiles_iff⟩ hnames
  simp only [addPath, hdir, hlists, hglob, (listingFault?_eq_none_iff ht).2 hlisted, hselect]
  rfl

/-- The paths of files that hold texts can be read. -/
theorem readText_of_holdAll (ht : tree.Sound) (hdir : tree.resolve path = some dir)
    (h : tree.HoldAll dir names texts) :
    (names.map (join path)).Forall₂ (fun path text => tree.readText path = .ok text) texts := by
  rw [List.forall₂_map_left_iff]
  refine h.imp fun name text hholds => ?_
  have hfile : tree.HasFile (dir ++ [name]) := ⟨_, hholds.choose_spec.1, rfl⟩
  exact (readText_join_eq_ok_iff ht hdir hfile).2 hholds

/-- A listed file that refuses to be read, under the path that its directory gives it. -/
theorem addFile_join_of_refuses (ht : tree.Proper) (hdir : tree.resolve path = some dir)
    {name : String} (h : tree.Refuses (join path name) (dir ++ [name]) e) :
    (addFile tree l (join path name)).answer = (l, .error e) := by
  have hfile := h.hasFile
  obtain ⟨-, -, -, hname⟩ := ht.names _ hfile.choose_spec.1 name (by simp)
  refine addFile_of_refuses ht.toSound ?_ h
  rw [resolve_join hdir hname, walk_listed ht.toSound hfile, ht.isDirectory_eq_false hfile,
    Bool.false_or]

theorem answer_of_loads (ht : tree.Proper) {added : Except Error Nat}
    (h : tree.Loads glob path l l' added) : (addPath tree l path glob).answer = (l', added) := by
  cases h with
  | missing hplace =>
    rw [addPath, hplace]
    rfl
  | file hplace hfile hholds =>
    have hread := (readText_eq_ok_iff ht.toSound).2 ⟨_, hplace, hholds⟩
    rw [← addFile_of_text hread, addPath, hplace]
    simp only [hfile]
    rfl
  | refused hplace hfile hrefuses =>
    have hthere := isSome_file?_of_resolve hplace hfile
    rw [← addFile_of_refuses ht.toSound (by rw [hplace, if_pos hthere]) hrefuses, addPath, hplace]
    simp only [hfile]
    rfl
  | malformed hdir hlists hglob =>
    simp only [addPath, hdir, hlists, hglob]
    rfl
  | unlisted hdir hlists hglob hfault =>
    have hfault := (listingFault?_eq_some_iff ht.toSound).2 hfault
    simp only [addPath, hdir, hlists, hglob, hfault]
    rfl
  | directory hdir hlists hglob hlisted hnames htexts =>
    rw [addPath_of_directory hdir hlists hglob ht.toSound hlisted hnames]
    exact addFiles_of_texts (readText_of_holdAll ht.toSound hdir htexts)
  | stopped hdir hlists hglob hlisted hnames htexts hrefuses =>
    rw [addPath_of_directory hdir hlists hglob ht.toSound hlisted hnames, List.map_append,
      List.map_cons]
    exact addFiles_of_stop (readText_of_holdAll ht.toSound hdir htexts)
      (fun l => addFile_join_of_refuses ht hdir hrefuses) _

theorem exists_loads (ht : tree.Proper) (path glob : String) (l : Library) :
    ∃ l' added, tree.Loads glob path l l' added := by
  cases hplace : tree.resolve path with
  | none => exact ⟨_, _, .missing hplace⟩
  | some place =>
    cases hdir : tree.isDirectory place with
    | false =>
      have hfile := hasFile_of_isSome ht.toSound (isSome_file?_of_resolve hplace hdir)
      obtain ⟨text, htext⟩ | ⟨e, he⟩ := holds_or_refuses path hfile
      · exact ⟨_, _, .file hplace hdir htext⟩
      · exact ⟨_, _, .refused hplace hdir he⟩
    | true =>
      cases hglob : Glob.ofText glob with
      | error fault => exact ⟨_, _, .malformed hplace hdir hglob⟩
      | ok g =>
        by_cases hlisted : ∀ detail, (place, .unlisted detail) ∉ tree.entries
        · have hnames : tree.Selects place g (selectFiles tree place g) :=
            ⟨pairwise_selectFiles ht.toSound place g, fun _ => mem_selectFiles_iff⟩
          obtain ⟨texts, htexts⟩ | ⟨before, name, after, texts, e, hsplit, htexts, he⟩ :=
            holdAll_or_refuses path fun name hname => ((hnames.mem_iff name).1 hname).2
          · exact ⟨_, _, .directory hplace hdir hglob hlisted hnames htexts⟩
          · exact ⟨_, _, .stopped hplace hdir hglob hlisted (hsplit ▸ hnames) htexts he⟩
        · simp only [not_forall, not_not] at hlisted
          obtain ⟨detail, hfault⟩ := hlisted
          exact ⟨_, _, .unlisted hplace hdir hglob hfault⟩

/-! ### Sources -/

/-- What a source answers does not depend on the library that it is added to. -/
theorem added_addSource (ht : tree.Proper) (l l' : Library) :
    (addSource tree l source).added = (addSource tree l' source).added := by
  cases source with
  | builtin => rfl
  | inline defs => rfl
  | path path glob =>
    obtain ⟨left, added, hloads⟩ := exists_loads ht path glob l
    obtain ⟨left', hloads'⟩ := hloads.into l'
    exact (congrArg Prod.snd (answer_of_loads ht hloads)).trans
      (congrArg Prod.snd (answer_of_loads ht hloads')).symm

/-- Sources fail as the first of them that fails. -/
theorem added_addSources_iff (ht : tree.Proper) :
    (addSources tree l' sources).added = .error e ↔ ∃ before source after,
      sources = before ++ source :: after ∧ (∀ s ∈ before, (addSource tree l s).Succeeds) ∧
        (addSource tree l source).added = .error e := by
  induction sources generalizing l' with
  | nil => simp [addSources]
  | cons source sources ih =>
    rw [addSources_cons, Loaded.added_andThen_eq_error_iff, added_addSource ht l' l, ih]
    constructor
    · rintro (hfirst | ⟨hfirst, before, s, after, rfl, hbefore, hs⟩)
      · exact ⟨[], source, sources, rfl, by simp, hfirst⟩
      · exact ⟨source :: before, s, after, rfl, List.forall_mem_cons.2 ⟨hfirst, hbefore⟩, hs⟩
    · rintro ⟨before, s, after, hsplit, hbefore, hs⟩
      obtain ⟨rfl, heq⟩ | ⟨before, rfl, heq⟩ := List.cons_eq_append_iff.1 hsplit
      · cases heq
        exact .inl hs
      · obtain ⟨hfirst, hbefore⟩ := List.forall_mem_cons.1 hbefore
        exact .inr ⟨hfirst, before, s, after, heq, hbefore, hs⟩

theorem load_eq_error_iff :
    (load tree sources).1 = .error e ↔ (addSources tree empty sources).added = .error e := by
  cases hadded : (addSources tree empty sources).added with
  | error e' => simp [load, hadded]
  | ok n => simp [load, hadded]

theorem exists_error_iff (ht : tree.Proper) (l : Library) :
    (∃ e, (load tree sources).1 = .error e) ↔
      ∃ source ∈ sources, ∃ e, (addSource tree l source).added = .error e := by
  constructor
  · rintro ⟨e, he⟩
    obtain ⟨before, source, after, rfl, -, hsource⟩ :=
      (added_addSources_iff (l := l) ht).1 (load_eq_error_iff.1 he)
    exact ⟨source, by simp, e, hsource⟩
  · rintro ⟨source, hmem, e, he⟩
    simp only [load_eq_error_iff, ← Loaded.not_succeeds_iff]
    intro hsucceeds
    obtain ⟨before, after, rfl⟩ := List.append_of_mem hmem
    obtain ⟨-, hrest, -⟩ := addSources_append hsucceeds
    rw [addSources_cons] at hrest
    obtain ⟨⟨n, hn⟩, -⟩ := Loaded.succeeds_andThen_iff.1 hrest
    rw [added_addSource ht _ l, he] at hn
    cases hn

end Library

end Grok
