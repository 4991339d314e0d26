import Grok.Matcher
import Grok.Proofs.Capture.Tokens
import Grok.Proofs.Expansion.Numbering
/-!
The scan for groups against the grammar of expressions. Main statement: in an expression the scan
finds the named groups that the grammar finds, in the same order and nothing else, but for those
whose names are spelled in characters that the scan does not take for part of a name.
-/
namespace Grok

namespace Regex

/-- A text in lexemes, read with the groups `g` in mind. -/
inductive Lexed (g : Groups) : List Char → List Lexeme → Prop
  | nil : Lexed g [] []
  | cons {c : Char} {r : List Char} {t : Token} {w : Nat} {ls : List Lexeme} :
      token g c r = .ok (t, w) → Lexed g (r.drop w) ls → Lexed g (c :: r) (⟨t, c :: r.take w⟩ :: ls)

variable {g : Groups} {cs : List Char} {ts : List Token} {ls : List Lexeme} {n : Node}

theorem exists_lexed (h : tokensWith g cs = .ok ts) :
    ∃ ls, Lexed g cs ls ∧ ls.map Lexeme.token = ts := by
  fun_induction tokensWith g cs generalizing ts with
  | case1 =>
    cases h
    exact ⟨[], .nil, rfl⟩
  | case2 | case3 => cases h
  | case4 c r t w htoken ts' _ ih =>
    cases h
    obtain ⟨ls, hls, rfl⟩ := ih ‹_›
    exact ⟨_, .cons htoken hls, rfl⟩

/-- The lexemes are the text, from one end to the other. -/
theorem Lexed.text_eq (h : Lexed g cs ls) : ls.flatMap Lexeme.text = cs := by
  induction h with
  | nil => rfl
  | cons _ _ ih => rw [List.flatMap_cons, ih, List.cons_append, List.take_append_drop]

theorem Lexed.spelled (h : Lexed g cs ls) : ∀ l ∈ ls, l.Spelled := by
  induction h with
  | nil => nofun
  | cons htoken _ ih => exact List.forall_mem_cons.2 ⟨(Capture.namesFrom_token htoken).1, ih⟩

theorem Lexed.namedGroups_eq (h : Lexed g cs ls) :
    Capture.namedGroups cs = ls.filterMap Lexeme.found? := by
  have hnames : Capture.namesFrom .clear cs = (ls.filterMap Lexeme.found?).map String.toList := by
    induction h with
    | nil => rfl
    | @cons c r t w ls htoken _ ih =>
      rw [(Capture.namesFrom_token htoken).2, ih]
      cases hfound : Lexeme.found? ⟨t, c :: r.take w⟩ <;> simp [hfound]
  rw [Capture.namedGroups_eq, hnames, List.map_map]
  simp [Function.comp_def]

/-- The names of a tree are those of the lexemes of its text. -/
theorem exists_lexed_of_ofText (h : Node.ofText cs = .ok n) :
    ∃ g ls, tokens cs = .ok (ls.map Lexeme.token, g) ∧ Lexed g cs ls ∧
      n.groupNames = ls.filterMap Lexeme.name? := by
  simp only [Node.ofText, bind_eq_ok_iff] at h
  obtain ⟨⟨ts, g⟩, htokens, h⟩ := h
  have hread := htokens
  simp only [tokens, bind_eq_ok_iff] at hread
  obtain ⟨_, -, _, hread, ⟨⟩⟩ := hread
  obtain ⟨ls, hls, rfl⟩ := exists_lexed hread
  dsimp only at h
  split at h
  · refine ⟨_, ls, htokens, hls, ?_⟩
    rw [Node.groupNames_eq, Node.names_ofTokens h, List.filterMap_filterMap, List.filterMap_map]
    rfl
  · cases h

theorem filterMap_found?_eq (ls : List Lexeme) :
    ls.filterMap Lexeme.found? = (ls.filter Lexeme.isPlain).filterMap Lexeme.name? :=
  List.filterMap_filter.symm

theorem filterMap_found?_of_plain (h : ∀ l ∈ ls, l.name?.isSome → l.isPlain) :
    ls.filterMap Lexeme.found? = ls.filterMap Lexeme.name? := by
  refine List.filterMap_congr fun l hl => ?_
  cases hname : l.name? with
  | none => exact Lexeme.found?_eq_none hname
  | some name => rw [Lexeme.found?, if_pos (h l hl (by rw [hname]; rfl)), hname]

/-- How the grammar and the scan see an expression. The lexemes are all of it, and the grammar finds
the names of their openings. The scan finds some of them in the same order and nothing else, the
plain ones among them. A matcher lists what the scan finds, except for reserved names that no
reference was given. -/
structure Survey (cs : List Char) (n : Node) (ls : List Lexeme) : Prop where
  lexed : ∃ g, tokens cs = .ok (ls.map Lexeme.token, g) ∧ Lexed g cs ls
  text_eq : ls.flatMap Lexeme.text = cs
  spelled : ∀ l ∈ ls, l.Spelled
  groupNames_eq : n.groupNames = ls.filterMap Lexeme.name?
  sublist : (Capture.namedGroups cs).Sublist n.groupNames
  plain : ((ls.filter Lexeme.isPlain).filterMap Lexeme.name?).Sublist (Capture.namedGroups cs)
  agree : (∀ l ∈ ls, l.name?.isSome → l.isPlain) → Capture.namedGroups cs = n.groupNames
  groups_eq : ∀ (l : Library) (namedOnly : Bool) (pattern : String) (m : Matcher),
    l.compile namedOnly pattern = .ok m → m.expression.toList = cs →
      m.regex = n ∧ ∃ t st, l.Unfolds namedOnly pattern t st ∧
        m.captures.map (·.group) = (Capture.namedGroups cs).filter fun g =>
          !g.startsWith Expansion.groupPrefix || st.generated.contains g

end Regex

theorem Library.compile_eq_ok {l : Library} {namedOnly : Bool} {pattern : String} {m : Matcher}
    (h : l.compile namedOnly pattern = .ok m) :
    ∃ x, l.expand namedOnly pattern = .ok x ∧ x.expression = m.expression ∧
      x.captures = m.captures ∧ Regex.Node.ofText m.expression.toList = .ok m.regex := by
  obtain ⟨x, hx, h⟩ := bind_eq_ok_iff.1 h
  unfold Matcher.ofExpression at h
  split at h
  · next n hn =>
    cases h
    exact ⟨x, hx, rfl, rfl, hn⟩
  · cases h

namespace Regex

theorem survey_of_ofText {cs : List Char} {n : Node} (h : Node.ofText cs = .ok n) :
    ∃ ls, Survey cs n ls := by
  obtain ⟨g, ls, htokens, hls, hnames⟩ := exists_lexed_of_ofText h
  have hscan := hls.namedGroups_eq
  refine ⟨ls, ⟨g, htokens, hls⟩, hls.text_eq, hls.spelled, hnames, ?_, ?_, ?_, ?_⟩
  · rw [hscan, hnames, filterMap_found?_eq]
    exact List.filter_sublist.filterMap _
  · rw [hscan, filterMap_found?_eq]
  · intro hplain
    rw [hscan, hnames, filterMap_found?_of_plain hplain]
  · rintro l namedOnly pattern m hm rfl
    obtain ⟨x, hx, hexpression, hcaptures, hregex⟩ := Library.compile_eq_ok hm
    obtain ⟨t, st, hu, -, -, rfl⟩ := Library.expand_eq_ok_iff.1 hx
    refine ⟨Except.ok.inj (hregex.symm.trans h), t, st, hu, ?_⟩
    rw [← hcaptures, Expansion.groups_captureTable (hu.2.numbered Expansion.State.numbered_empty),
      ← hexpression, String.toList_ofList]

theorem survey_of_ofText_class :
    ∃ m ls, Library.compile ⟨[("W", "w")]⟩ true "[(]%{W:v}(?<k>x)" = .ok m ∧
      m.regex.groupNames = ["__grok0", "k"] ∧
      Survey "[(](?<__grok0>w)(?<k>x)".toList m.regex ls ∧
      ∃ t st, Library.Unfolds ⟨[("W", "w")]⟩ true "[(]%{W:v}(?<k>x)" t st ∧
        m.captures.map (·.group) = ["__grok0", "k"].filter fun g =>
          !g.startsWith Expansion.groupPrefix || st.generated.contains g := by
  have hm : Library.compile ⟨[("W", "w")]⟩ true "[(]%{W:v}(?<k>x)" =
      .ok ⟨"[(]%{W:v}(?<k>x)", "[(](?<__grok0>w)(?<k>x)",
        .both (.char (.among ⟨[(40, 40)]⟩))
          (.both (.group 1 (some "__grok0") (.char (.exactly 119)))
            (.group 2 (some "k") (.char (.exactly 120)))),
        [⟨"__grok0", "v", .text⟩, ⟨"k", "k", .text⟩]⟩ := by cbv
  have hscan : Capture.namedGroups "[(](?<__grok0>w)(?<k>x)".toList = ["__grok0", "k"] := by cbv
  obtain ⟨x, -, -, -, htext⟩ := Library.compile_eq_ok hm
  obtain ⟨ls, hls⟩ := survey_of_ofText htext
  refine ⟨_, ls, hm, by cbv, hls, ?_⟩
  rw [← hscan]
  exact (hls.groups_eq _ _ _ _ hm rfl).2

/-- A group with a reserved name is found, and it is left out of the captures on purpose. -/
theorem exists_reserved_left_out :
    ∃ m, Library.compile ⟨[]⟩ true "(?<__grok7>x)" = .ok m ∧ m.regex.groupNames = ["__grok7"] ∧
      Capture.namedGroups m.expression.toList = ["__grok7"] ∧ m.captures = [] :=
  ⟨⟨"(?<__grok7>x)", "(?<__grok7>x)", .group 1 (some "__grok7") (.char (.exactly 120)), []⟩,
    by cbv, by cbv, by cbv, rfl⟩

-- A name may be spelled with an escape, which the scan does not read.
example : Node.ofText "(?<\\u0061>x)".toList = .ok (.group 1 (some "a") (.char (.exactly 120))) ∧
    Capture.namedGroups "(?<\\u0061>x)".toList = [] :=
  ⟨by cbv, by cbv⟩

end Regex

end Grok
