import Mathlib.Data.List.DropRight
import Mathlib.Data.List.Forall2
import Grok.Library
import Grok.Proofs.Text.Lines
/-!
The grammar of pattern files. Main statement: the definitions of a text are those of its lines that
are laid out as a definition, in order, and their number is what is counted; how its lines end makes
no difference.
-/
namespace Grok

namespace PatternFile

/-- A line that consists of white space, a name and a rest. The name is a whole run of characters
that are not white space, it is no comment, and a space or tab is directly behind it. -/
structure Named (line lead name rest : List Char) : Prop where
  line_eq : line = lead ++ name ++ rest
  lead_blank : ∀ c ∈ lead, Text.isBlank c
  ne_nil : name ≠ []
  not_blank : ∀ c ∈ name, ¬ Text.isBlank c
  no_comment : name.head? ≠ some '#'
  gap : ∃ c ∈ rest.head?, isGap c

/-- What is left without the spaces and tabs in front and the carriage returns at the end. -/
def bodyOf (rest : List Char) : List Char := (rest.dropWhile isGap).rdropWhile (· == '\r')

/-- The line has a name, and what is left of its rest is the pattern and not empty. -/
def Defines (line : List Char) (name body : String) : Prop :=
  ∃ lead rest, Named line lead name.toList rest ∧ bodyOf rest = body.toList ∧ body ≠ ""

/-- The definitions on some lines, in order. Lines that define nothing add nothing. -/
inductive Listing : List (List Char) → List (String × String) → Prop
  | nil : Listing [] []
  | defines {line : List Char} {lines : List (List Char)} {name body : String}
      {defs : List (String × String)} : Defines line name body → Listing lines defs →
      Listing (line :: lines) ((name, body) :: defs)
  | skips {line : List Char} {lines : List (List Char)} {defs : List (String × String)} :
      (∀ name body, ¬ Defines line name body) → Listing lines defs → Listing (line :: lines) defs

variable {α : Type} {admits : Char → Bool} {read : List Char → Option α} {a : α} {ps : List Part}
  {run rest cs line lead name : List Char} {runs : List (List Char)}

theorem not_isBlank_of_gap {c : Char} (h : isGap c) : Text.isBlank c := by
  obtain rfl | rfl : c = ' ' ∨ c = '\t' := by simpa [isGap] using h
  · decide
  · decide

/-! ### Dividing a line -/

/-- What a part takes of a text. -/
def Part.Takes : Part → List Char → Prop
  | one admits, run => ∃ c, admits c ∧ run = [c]
  | most admits, run | fewest admits, run => ∀ c ∈ run, admits c

theorem exists_of_longest (h : longest admits read cs = some (run, a)) :
    ∃ rest, cs = run ++ rest ∧ (∀ c ∈ run, admits c) ∧ read rest = some a := by
  induction cs generalizing run with
  | nil =>
    obtain ⟨a, hread, heq⟩ := Option.map_eq_some_iff.1 h
    cases heq
    exact ⟨[], rfl, nofun, hread⟩
  | cons c r ih =>
    rw [longest] at h
    cases hlonger : (if admits c then longest admits read r else none) with
    | none =>
      rw [hlonger] at h
      obtain ⟨a, hread, heq⟩ := Option.map_eq_some_iff.1 h
      cases heq
      exact ⟨c :: r, rfl, nofun, hread⟩
    | some longer =>
      rw [hlonger] at h
      cases h
      obtain ⟨hc, hlonger⟩ := Option.ite_none_right_eq_some.1 hlonger
      obtain ⟨rest, rfl, hrun, hread⟩ := ih hlonger
      exact ⟨rest, rfl, List.forall_mem_cons.2 ⟨hc, hrun⟩, hread⟩

theorem exists_of_shortest (h : shortest admits read cs = some (run, a)) :
    ∃ rest, cs = run ++ rest ∧ (∀ c ∈ run, admits c) ∧ read rest = some a := by
  induction cs generalizing run with
  | nil =>
    obtain ⟨a, hread, heq⟩ := Option.map_eq_some_iff.1 h
    cases heq
    exact ⟨[], rfl, nofun, hread⟩
  | cons c r ih =>
    rw [shortest] at h
    cases hread : read (c :: r) with
    | some b =>
      rw [hread] at h
      cases h
      exact ⟨c :: r, rfl, nofun, hread⟩
    | none =>
      rw [hread] at h
      obtain ⟨hc, hlonger⟩ := Option.ite_none_right_eq_some.1 h
      obtain ⟨⟨run, b⟩, hrest, heq⟩ := Option.map_eq_some_iff.1 hlonger
      cases heq
      obtain ⟨rest, rfl, hrun, hread⟩ := ih hrest
      exact ⟨rest, rfl, List.forall_mem_cons.2 ⟨hc, hrun⟩, hread⟩

/-- The parts make up the text, and each takes what it admits. -/
theorem divide_sound (h : divide ps cs = some runs) :
    cs = runs.flatten ∧ ps.Forall₂ Part.Takes runs := by
  induction ps generalizing cs runs with
  | nil =>
    obtain ⟨hnil, heq⟩ := Option.ite_none_right_eq_some.1 h
    cases heq
    exact ⟨List.isEmpty_iff.1 hnil, .nil⟩
  | cons part ps ih =>
    cases part with
    | one admits =>
      cases cs with
      | nil => cases h
      | cons c r =>
        obtain ⟨hc, hrest⟩ := Option.ite_none_right_eq_some.1 h
        obtain ⟨runs, hruns, rfl⟩ := Option.map_eq_some_iff.1 hrest
        obtain ⟨rfl, htakes⟩ := ih hruns
        exact ⟨rfl, .cons ⟨c, hc, rfl⟩ htakes⟩
    | most admits =>
      obtain ⟨⟨run, runs⟩, hrun, rfl⟩ := Option.map_eq_some_iff.1 h
      obtain ⟨rest, rfl, hadmits, hruns⟩ := exists_of_longest hrun
      obtain ⟨rfl, htakes⟩ := ih hruns
      exact ⟨rfl, .cons hadmits htakes⟩
    | fewest admits =>
      obtain ⟨⟨run, runs⟩, hrun, rfl⟩ := Option.map_eq_some_iff.1 h
      obtain ⟨rest, rfl, hadmits, hruns⟩ := exists_of_shortest hrun
      obtain ⟨rfl, htakes⟩ := ih hruns
      exact ⟨rfl, .cons hadmits htakes⟩

/-- A run that cannot go on is taken whole, if the rest can be read behind it. -/
theorem divide_most (hrun : ∀ c ∈ run, admits c) (hrest : ∀ c ∈ rest.head?, ¬ admits c)
    (h : divide ps rest = some runs) :
    divide (.most admits :: ps) (run ++ rest) = some (run :: runs) := by
  have hlongest : longest admits (divide ps) (run ++ rest) = some (run, runs) := by
    induction run with
    | nil =>
      cases rest with
      | nil => simp [longest, h]
      | cons c r =>
        have hc : admits c = false := by simpa using hrest c rfl
        simp [longest, hc, h]
    | cons c run ih =>
      obtain ⟨hc, hrun⟩ := List.forall_mem_cons.1 hrun
      simp [longest, hc, ih hrun]
  rw [divide, hlongest]
  rfl

/-- A run is as short as it can be if nothing can be read behind less of it. -/
theorem divide_fewest (hrun : ∀ c ∈ run, admits c)
    (hless : ∀ s, s <:+ run → s ≠ [] → divide ps (s ++ rest) = none)
    (h : divide ps rest = some runs) :
    divide (.fewest admits :: ps) (run ++ rest) = some (run :: runs) := by
  have hshortest : shortest admits (divide ps) (run ++ rest) = some (run, runs) := by
    induction run with
    | nil => cases rest <;> simp [shortest, h]
    | cons c run ih =>
      obtain ⟨hc, hrun⟩ := List.forall_mem_cons.1 hrun
      have hfirst : divide ps (c :: (run ++ rest)) = none :=
        hless (c :: run) List.suffix_rfl (List.cons_ne_nil c run)
      have hrest := ih hrun fun s hs => hless s (hs.trans (List.suffix_cons c run))
      simp [shortest, hfirst, hc, hrest]
  rw [divide, hshortest]
  rfl

theorem divide_one {c : Char} (hc : admits c) (h : divide ps rest = some runs) :
    divide (.one admits :: ps) (c :: rest) = some ([c] :: runs) := by
  rw [divide, if_pos hc, h]
  rfl

/-! ### The layout of a definition -/

theorem divide_end (h : ∀ c ∈ cs, admits c) : divide [.most admits] cs = some [cs] := by
  have hnil : divide [] [] = some [] := rfl
  have hcs := divide_most h (by simp) hnil
  rwa [List.append_nil] at hcs

theorem divide_end_eq_none (h : ∃ c ∈ cs, ¬ admits c) : divide [.most admits] cs = none := by
  rw [Option.eq_none_iff_forall_ne_some]
  intro runs hruns
  obtain ⟨rfl, htakes⟩ := divide_sound hruns
  cases htakes with
  | cons htakes hnil =>
    cases hnil
    obtain ⟨c, hc, hno⟩ := h
    exact hno (htakes c (by simpa using hc))

/-- Of a line behind a name and its blanks, the pattern is all but the carriage returns at the
end. -/
theorem divide_tail (h : '\n' ∉ cs) :
    divide [.fewest (· != '\n'), .most fun c => c == '\r' || c == '\n'] cs =
      some [cs.rdropWhile (· == '\r'), cs.rtakeWhile (· == '\r')] := by
  have hbody : ∀ c ∈ cs.rdropWhile (· == '\r'), (c != '\n') = true := by
    intro c hc
    have hcs : c ∈ cs := (List.rdropWhile_prefix _ cs).subset hc
    exact bne_iff_ne.2 fun hfeed => h (hfeed ▸ hcs)
  have hends : ∀ c ∈ cs.rtakeWhile (· == '\r'), (c == '\r' || c == '\n') = true := by
    intro c hc
    simp [List.mem_rtakeWhile_imp hc]
  have hless : ∀ s, s <:+ cs.rdropWhile (· == '\r') → s ≠ [] →
      divide [.most fun c => c == '\r' || c == '\n'] (s ++ cs.rtakeWhile (· == '\r')) = none := by
    intro s hs hne
    -- The last character of `s` is the last one of the pattern, which ends no line.
    have hwhole : cs.rdropWhile (· == '\r') ≠ [] := hs.ne_nil hne
    have hlast : s.getLast hne = (cs.rdropWhile (· == '\r')).getLast hwhole := hs.getLast hne
    have hreturn := List.rdropWhile_last_not _ cs hwhole
    have hfeed := hbody _ (List.getLast_mem hwhole)
    refine divide_end_eq_none ⟨s.getLast hne, List.mem_append_left _ (List.getLast_mem hne), ?_⟩
    rw [hlast]
    simp_all
  have hall := divide_fewest hbody hless (divide_end hends)
  rwa [List.rdropWhile_append_rtakeWhile] at hall

/-- A line with a name is divided into what is in front of the name, the name, the blanks, the
pattern and what is behind it. -/
theorem Named.divide_layout (h : Named line lead name rest) (hline : '\n' ∉ line) :
    ∃ first more gap gaps tail, first ++ more = name ∧
      divide layout line = some [lead, first, more, gap, gaps, bodyOf rest, tail] := by
  obtain ⟨rfl, hlead, hne, hname, hcomment, hgap⟩ := h
  obtain ⟨c, more, rfl⟩ := List.exists_cons_of_ne_nil hne
  obtain ⟨hc, hmore⟩ := List.forall_mem_cons.1 hname
  obtain ⟨g, r, rfl⟩ : ∃ g r, rest = g :: r := by
    cases rest with
    | nil => simp at hgap
    | cons g r => exact ⟨g, r, rfl⟩
  have hg : isGap g := by simpa using hgap
  have htail : '\n' ∉ r.dropWhile isGap := fun hmem =>
    hline (by simp [(List.dropWhile_sublist isGap).subset hmem])
  have hpattern : ∀ c ∈ (r.dropWhile isGap).head?, ¬ isGap c := by
    intro c hc
    have := List.head?_dropWhile_not isGap r
    simp_all
  have hblanks : ∀ c ∈ r.takeWhile isGap, isGap c := fun c hc => List.mem_takeWhile_imp hc
  have hgaps := divide_most hblanks hpattern (divide_tail htail)
  rw [List.takeWhile_append_dropWhile] at hgaps
  have hmore : ∀ c ∈ more, (!Text.isBlank c) = true := by simpa using hmore
  have hnames := divide_most hmore (by simp [not_isBlank_of_gap hg]) (divide_one hg hgaps)
  have hfirst : (!Text.isBlank c && c != '#') = true := by simp_all
  have hlayout : divide layout (lead ++ c :: more ++ g :: r) =
      some [lead, [c], more, [g], r.takeWhile isGap, bodyOf (g :: r),
        (r.dropWhile isGap).rtakeWhile (· == '\r')] := by
    rw [List.append_assoc, bodyOf, List.dropWhile_cons_of_pos hg]
    exact divide_most hlead (by simpa using hc) (divide_one hfirst hnames)
  exact ⟨[c], more, [g], _, _, rfl, hlayout⟩

theorem named_of_divide {first more gap gaps body tail : List Char}
    (h : divide layout line = some [lead, first, more, gap, gaps, body, tail]) :
    Named line lead (first ++ more) (gap ++ gaps ++ body ++ tail) := by
  obtain ⟨rfl, htakes⟩ := divide_sound h
  simp only [layout, List.forall₂_cons, Part.Takes] at htakes
  obtain ⟨hlead, ⟨c, hc, rfl⟩, hmore, ⟨g, hg, rfl⟩, -⟩ := htakes
  have hcname : ¬ Text.isBlank c ∧ c ≠ '#' := by simpa using hc
  exact {
    line_eq := by simp
    lead_blank := hlead
    ne_nil := List.cons_ne_nil c more
    not_blank := List.forall_mem_cons.2 ⟨hcname.1, by simpa using hmore⟩
    no_comment := by simpa using hcname.2
    gap := ⟨g, rfl, hg⟩ }

theorem Named.trimStart_eq (h : Named line lead name rest) : Text.trimStart line = name ++ rest := by
  obtain ⟨rfl, hlead, hne, hname, -, -⟩ := h
  obtain ⟨c, more, rfl⟩ := List.exists_cons_of_ne_nil hne
  rw [Text.trimStart, List.append_assoc, List.dropWhile_append_of_pos hlead]
  exact List.dropWhile_cons_of_neg (hname c List.mem_cons_self)

theorem definition?_eq_some_iff (h : '\n' ∉ line) {name body : String} :
    definition? line = some (name, body) ↔ Defines line name body := by
  constructor
  · intro hdef
    obtain ⟨-, hdef⟩ := Option.ite_none_left_eq_some.1 hdef
    split at hdef
    · next lead first more gap gaps body' tail hdivide =>
      obtain ⟨hbody, heq⟩ := Option.ite_none_left_eq_some.1 hdef
      cases heq
      have hnamed := named_of_divide hdivide
      obtain ⟨first', more', gap', gaps', tail', -, hlayout⟩ := hnamed.divide_layout h
      have hsame := Option.some.inj (hlayout.symm.trans hdivide)
      simp only [List.cons.injEq] at hsame
      obtain ⟨-, -, -, -, -, hbodyOf, -⟩ := hsame
      refine ⟨lead, gap ++ gaps ++ body' ++ tail, ?_, ?_, ?_⟩
      · rwa [String.toList_ofList]
      · rw [String.toList_ofList, hbodyOf]
      · simpa using hbody
    · cases hdef
  · rintro ⟨lead, rest, hnamed, hbody, hne⟩
    obtain ⟨first, more, gap, gaps, tail, hname, hlayout⟩ := hnamed.divide_layout h
    have htext : ¬ ((Text.trimStart line).isEmpty || (Text.trimStart line).head? == some '#') := by
      obtain ⟨c, r, hcr⟩ := List.exists_cons_of_ne_nil hnamed.ne_nil
      have hcomment := hnamed.no_comment
      rw [hnamed.trimStart_eq, hcr]
      rw [hcr] at hcomment
      simpa using hcomment
    rw [definition?, if_neg htext, hlayout]
    simp [hbody, hname, hne]

/-! ### Returns -/

theorem bodyOf_append_return (rest : List Char) : bodyOf (rest ++ ['\r']) = bodyOf rest := by
  have hdrop : (rest ++ ['\r']).dropWhile isGap = rest.dropWhile isGap ++ ['\r'] := by
    rw [List.dropWhile_append]
    split
    · next hnil => rw [List.isEmpty_iff.1 hnil]; rfl
    · rfl
  rw [bodyOf, hdrop, List.rdropWhile_concat_pos _ _ _ rfl, bodyOf]

theorem Named.append_return (h : Named line lead name rest) :
    Named (line ++ ['\r']) lead name (rest ++ ['\r']) := by
  obtain ⟨rfl, hlead, hne, hname, hcomment, g, hg, hgap⟩ := h
  refine ⟨List.append_assoc .., hlead, hne, hname, hcomment, g, ?_, hgap⟩
  rw [List.head?_append, Option.mem_def.1 hg]
  rfl

theorem Named.of_append_return (h : Named (line ++ ['\r']) lead name rest) :
    ∃ rest', rest = rest' ++ ['\r'] ∧ Named line lead name rest' := by
  obtain ⟨heq, hlead, hne, hname, hcomment, g, hg, hgap⟩ := h
  obtain rfl | ⟨rest', c, rfl⟩ := rest.eq_nil_or_concat'
  · cases hg
  · rw [← List.append_assoc] at heq
    obtain ⟨hline, hc⟩ := List.append_inj' heq rfl
    cases hc
    refine ⟨rest', rfl, hline, hlead, hne, hname, hcomment, g, ?_, hgap⟩
    -- The gap is not the carriage return, so it is still there.
    cases rest' with
    | nil =>
      cases hg
      exact absurd hgap (by decide)
    | cons d r => exact hg

/-- A carriage return at its end makes no difference to what a line defines. -/
theorem definition?_append_return (h : '\n' ∉ line) :
    definition? (line ++ ['\r']) = definition? line := by
  have hreturn : '\n' ∉ line ++ ['\r'] := by simpa using h
  refine Option.ext fun ⟨name, body⟩ => ?_
  rw [definition?_eq_some_iff hreturn, definition?_eq_some_iff h]
  constructor
  · rintro ⟨lead, _, hreturned, hbody, hne⟩
    obtain ⟨rest, rfl, hnamed⟩ := hreturned.of_append_return
    exact ⟨lead, rest, hnamed, by rwa [← bodyOf_append_return], hne⟩
  · rintro ⟨lead, rest, hnamed, hbody, hne⟩
    exact ⟨lead, rest ++ ['\r'], hnamed.append_return, by rwa [bodyOf_append_return], hne⟩

/-! ### All lines of a text -/

theorem listing_iff {lines : List (List Char)} {defs : List (String × String)}
    (h : ∀ line ∈ lines, '\n' ∉ line) : Listing lines defs ↔ defs = lines.filterMap definition? := by
  constructor
  · intro hlisting
    induction hlisting with
    | nil => rfl
    | defines hline _ ih =>
      obtain ⟨hno, hrest⟩ := List.forall_mem_cons.1 h
      rw [List.filterMap_cons_some ((definition?_eq_some_iff hno).2 hline), ih hrest]
    | skips hline _ ih =>
      obtain ⟨hno, hrest⟩ := List.forall_mem_cons.1 h
      have hnone : definition? _ = none := Option.eq_none_iff_forall_ne_some.2 fun d hd =>
        hline d.1 d.2 ((definition?_eq_some_iff hno).1 hd)
      rw [List.filterMap_cons_none hnone, ih hrest]
  · rintro rfl
    induction lines with
    | nil => exact .nil
    | cons line lines ih =>
      obtain ⟨hno, hrest⟩ := List.forall_mem_cons.1 h
      cases hline : definition? line with
      | none =>
        rw [List.filterMap_cons_none hline]
        refine .skips (fun name body hdefines => ?_) (ih hrest)
        rw [(definition?_eq_some_iff hno).2 hdefines] at hline
        cases hline
      | some d =>
        rw [List.filterMap_cons_some hline]
        exact .defines ((definition?_eq_some_iff hno).1 hline) (ih hrest)

theorem filterMap_definition?_returns {lines' lines : List (List Char)}
    (h : lines'.Forall₂ (fun line' line => line' = line ∨ line' = line ++ ['\r']) lines)
    (hno : ∀ line ∈ lines, '\n' ∉ line) :
    lines'.filterMap definition? = lines.filterMap definition? := by
  induction h with
  | nil => rfl
  | cons hline _ ih =>
    obtain ⟨hfirst, hrest⟩ := List.forall_mem_cons.1 hno
    obtain rfl | rfl := hline
    · rw [List.filterMap_cons, List.filterMap_cons, ih hrest]
    · rw [List.filterMap_cons, List.filterMap_cons, definition?_append_return hfirst, ih hrest]

end PatternFile

namespace Library

open PatternFile (Listing)

theorem addAll_eq_foldl (l : Library) (defs : List (String × String)) :
    l.addAll defs = defs.foldl (fun l d => l.add d.1 d.2) l := by
  induction defs generalizing l with
  | nil => rfl
  | cons d defs ih => exact ih (l.add d.1 d.2)

/-- Adding a text adds the definitions of its lines in order, those and no others, and counts them.
Writing its line ends with carriage returns makes no difference. -/
theorem addText_eq_listing (l : Library) (text : String) :
    Text.Splits text.toList (Text.lines text.toList) ∧
      (∃ defs, (∀ defs', Listing (Text.lines text.toList) defs' ↔ defs' = defs) ∧
        l.addText text = (defs.foldl (fun l d => l.add d.1 d.2) l, defs.length)) ∧
      l.addText (.ofList (Text.withReturns text.toList)) = l.addText text := by
  have hno : ∀ line ∈ Text.lines text.toList, '\n' ∉ line := fun line hline =>
    (Text.splits_lines text.toList).not_mem hline
  have hreturns : PatternFile.definitions (.ofList (Text.withReturns text.toList)) =
      PatternFile.definitions text := by
    rw [PatternFile.definitions, String.toList_ofList]
    exact PatternFile.filterMap_definition?_returns (Text.lines_withReturns text.toList) hno
  refine ⟨Text.splits_lines text.toList, ⟨PatternFile.definitions text, fun defs' =>
    PatternFile.listing_iff hno, ?_⟩, ?_⟩
  · rw [addText, addAll_eq_foldl]
  · rw [addText, addText, hreturns]

example : addText empty "# A 1\r\n B \t2 3 \r\nC\t \nD# #4\r\r" =
    (⟨[("B", "2 3 "), ("D#", "#4")]⟩, 2) := by cbv

end Library

end Grok
