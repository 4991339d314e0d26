import Grok.Reference
/-!
The grammar of references, and the places of a text where `%{` stands. A reference is read from its
rendering whatever comes after it, and its rendering holds `%{` at its start only. Main statement:
scanning finds nothing malformed exactly if every `%{` of the text starts a reference.
-/
namespace Grok

namespace Reference

/-- What a definition is made of: characters other than braces and backslashes, and characters
behind a backslash. -/
inductive DefinitionText : List Char → Prop
  | nil : DefinitionText []
  | plain {c : Char} {d : List Char} : c ≠ '{' → c ≠ '}' → c ≠ '\\' → DefinitionText d →
      DefinitionText (c :: d)
  | escape {c : Char} {d : List Char} : c ≠ '\n' → DefinitionText d →
      DefinitionText ('\\' :: c :: d)

/-- The references that can be written. -/
structure Written (r : Reference) : Prop where
  name : r.name ≠ [] ∧ ∀ c ∈ r.name, Text.isWord c
  field : ∀ f ∈ r.field, f ≠ [] ∧ ∀ c ∈ f, isFieldChar c
  coercion : ∀ t ∈ r.coercion, t ≠ [] ∧ ∀ c ∈ t, Text.isWord c
  target : r.field = none → r.coercion = none
  definition : ∀ d ∈ r.definition, d ≠ [] ∧ DefinitionText d

variable {r : Reference} {cs rest a b t : List Char} {p : Option (List Char)} {mark : Char}
  {split : List Char → List Char × List Char}

/-! ### Reading what has been rendered -/

theorem run_append_of_head {q : Char → Bool} (ha : ∀ c ∈ a, q c) (hb : ∀ c ∈ b.head?, q c = false) :
    run q (a ++ b) = (a, b) := by
  have hb' : b.takeWhile q = [] ∧ b.dropWhile q = b := by
    cases b with
    | nil => exact ⟨rfl, rfl⟩
    | cons c b => simp [hb c rfl]
  rw [run, List.takeWhile_append_of_pos ha, List.dropWhile_append_of_pos ha, hb'.1, hb'.2,
    List.append_nil]

theorem DefinitionText.run (h : DefinitionText a) (t : List Char) :
    definitionRun (a ++ '}' :: t) = (a, '}' :: t) := by
  induction h with
  | nil => rw [definitionRun.eq_def]; simp
  | plain h1 h2 h3 _ ih => rw [definitionRun.eq_def]; simp [h1, h2, h3, ih]
  | escape h1 _ ih => rw [definitionRun.eq_def]; simp [h1, ih]

theorem part?_append (ha : a ≠ []) (hs : split (a ++ t) = (a, t)) :
    part? mark split (renderPart mark (some a) ++ t) = (some a, t) := by
  simp [renderPart, part?, hs, ha]

theorem part?_of_head (ht : ∀ c ∈ t.head?, c ≠ mark) : part? mark split t = (none, t) := by
  cases t with
  | nil => rfl
  | cons c t => simp [part?, ht c rfl]

theorem part?_renderPart (hp : ∀ a ∈ p, a ≠ [] ∧ split (a ++ t) = (a, t))
    (ht : ∀ c ∈ t.head?, c ≠ mark) : part? mark split (renderPart mark p ++ t) = (p, t) := by
  cases p with
  | none => exact part?_of_head ht
  | some a => exact part?_append (hp a rfl).1 (hp a rfl).2

theorem head?_renderPart {c : Char} (h : c ∈ (renderPart mark p ++ t).head?) :
    c = mark ∨ c ∈ t.head? := by
  cases p with
  | none => exact .inr h
  | some a => exact .inl (by simpa [renderPart] using h.symm)

theorem target?_renderPart {f : Option (List Char)} (hf : ∀ a ∈ f, a ≠ [] ∧ ∀ c ∈ a, isFieldChar c)
    (hp : ∀ a ∈ p, a ≠ [] ∧ ∀ c ∈ a, Text.isWord c) (hfp : f = none → p = none)
    (ht : ∀ c ∈ t.head?, c = '=' ∨ c = '}') :
    target? (renderPart ':' f ++ (renderPart ':' p ++ t)) = ((f, p), t) := by
  have hstop : ∀ c ∈ (renderPart ':' p ++ t).head?, isFieldChar c = false := by
    intro c hc
    obtain rfl | hc := head?_renderPart hc
    · decide
    · obtain rfl | rfl := ht c hc <;> decide
  have hcolon : ∀ c ∈ t.head?, c ≠ ':' := by
    intro c hc
    obtain rfl | rfl := ht c hc <;> decide
  have htype : part? ':' (run Text.isWord) (renderPart ':' p ++ t) = (p, t) := by
    refine part?_renderPart (fun a ha => ⟨(hp a ha).1, run_append_of_head (hp a ha).2 ?_⟩) hcolon
    intro c hc
    obtain rfl | rfl := ht c hc <;> decide
  cases f with
  | none =>
    obtain rfl := hfp rfl
    have hfield : part? ':' (run isFieldChar) t = (none, t) := part?_of_head hcolon
    simp [target?, renderPart, hfield]
  | some a =>
    have hfield : part? ':' (run isFieldChar) (renderPart ':' (some a) ++ (renderPart ':' p ++ t)) =
        (some a, renderPart ':' p ++ t) :=
      part?_append (hf a rfl).1 (run_append_of_head (hf a rfl).2 hstop)
    rw [target?, hfield]
    simp only [htype]

theorem Written.read?_render (h : r.Written) (t : List Char) :
    read? (r.render ++ t) = some (r, t) := by
  have hdef : part? '=' definitionRun (renderPart '=' r.definition ++ '}' :: t) =
      (r.definition, '}' :: t) := by
    refine part?_renderPart (fun d hd => ⟨(h.definition d hd).1, (h.definition d hd).2.run t⟩) ?_
    simp
  have hmark : ∀ c ∈ (renderPart '=' r.definition ++ '}' :: t).head?, c = '=' ∨ c = '}' :=
    fun c hc => (head?_renderPart hc).imp_right fun hc => by simpa using hc.symm
  have htarget := target?_renderPart h.field h.coercion h.target hmark
  have hname : run Text.isWord (r.name ++ (renderPart ':' r.field ++ (renderPart ':' r.coercion ++
      (renderPart '=' r.definition ++ '}' :: t)))) = (r.name, renderPart ':' r.field ++
      (renderPart ':' r.coercion ++ (renderPart '=' r.definition ++ '}' :: t))) := by
    refine run_append_of_head h.name.2 fun c hc => ?_
    obtain rfl | hc := head?_renderPart hc
    · decide
    obtain rfl | hc := head?_renderPart hc
    · decide
    · obtain rfl | rfl := hmark c hc <;> decide
  have hrender : r.render ++ t = '%' :: '{' :: (r.name ++ (renderPart ':' r.field ++
      (renderPart ':' r.coercion ++ (renderPart '=' r.definition ++ '}' :: t)))) := by
    simp [render]
  rw [hrender, read?]
  simp only [hname, htarget, hdef, List.isEmpty_iff, h.name.1, if_false]

/-! ### What has been read -/

theorem definitionText_run (cs : List Char) : DefinitionText (definitionRun cs).1 := by
  fun_induction definitionRun cs with
  | case5 c r h d rest hd h' ih => exact .escape h (by rwa [hd] at ih)
  | case6 c r h h' d rest hd ih =>
    simp only [Bool.or_eq_true, decide_eq_true_eq, not_or] at h
    exact .plain h.1 h.2 h' (by rwa [hd] at ih)
  | _ => exact .nil

theorem run_all (q : Char → Bool) (cs : List Char) : ∀ c ∈ (run q cs).1, q c :=
  List.all_eq_true.1 List.all_takeWhile

theorem part?_eq_some (h : part? mark split cs = (some a, rest)) :
    a ≠ [] ∧ ∃ cs, (split cs).1 = a := by
  unfold part? at h
  split at h
  · cases h
  · split at h
    · dsimp only at h
      split at h
      · cases h
      · next hne =>
        cases h
        exact ⟨by simpa using hne, _, rfl⟩
    · cases h

theorem target?_parts {f : Option (List Char)} (h : target? cs = ((f, p), rest)) :
    (∀ a ∈ f, a ≠ [] ∧ ∀ c ∈ a, isFieldChar c) ∧ (∀ a ∈ p, a ≠ [] ∧ ∀ c ∈ a, Text.isWord c) ∧
      (f = none → p = none) := by
  unfold target? at h
  split at h
  · cases h
    exact ⟨nofun, nofun, fun _ => rfl⟩
  · next field r hfield =>
    cases htype : part? ':' (run Text.isWord) r with
    | mk type r' =>
      simp only [htype, Prod.mk.injEq] at h
      obtain ⟨⟨rfl, rfl⟩, rfl⟩ := h
      refine ⟨?_, ?_, nofun⟩
      · rintro a ⟨⟩
        obtain ⟨hne, cs', rfl⟩ := part?_eq_some hfield
        exact ⟨hne, run_all _ _⟩
      · rintro a rfl
        obtain ⟨hne, cs', rfl⟩ := part?_eq_some htype
        exact ⟨hne, run_all _ _⟩

theorem written_of_read? (h : read? cs = some (r, rest)) : r.Written := by
  unfold read? at h
  split at h
  · next cs =>
    cases htarget : target? (run Text.isWord cs).2 with
    | mk ft r2 =>
      cases hdef : part? '=' definitionRun r2 with
      | mk d r3 =>
        simp only [htarget, hdef] at h
        split at h
        · cases h
        · next hname =>
          split at h
          · simp only [Option.some.injEq, Prod.mk.injEq] at h
            obtain ⟨rfl, rfl⟩ := h
            obtain ⟨hfield, htype, hboth⟩ := target?_parts htarget
            refine ⟨⟨by simpa using hname, run_all _ _⟩, hfield, htype, hboth, ?_⟩
            rintro d rfl
            obtain ⟨hne, cs', rfl⟩ := part?_eq_some hdef
            exact ⟨hne, definitionText_run _⟩
          · cases h
  · cases h

end Reference

/-! ### Openings -/

/-- The text holds a `%{`. -/
def HasOpening (cs : List Char) : Prop := ∃ t, '%' :: '{' :: t <:+ cs

/-- Every `%{` of the text starts a reference. -/
def OpensReferences (cs : List Char) : Prop :=
  ∀ t, '%' :: '{' :: t <:+ cs → (Reference.read? ('%' :: '{' :: t)).isSome

/-- No `%{` starts in this part of a text, whatever comes after it. -/
def Shut (a : List Char) : Prop := ∀ t cs, '%' :: '{' :: t <:+ a ++ cs → '%' :: '{' :: t <:+ cs

variable {c d : Char} {cs ds t a b : List Char} {r : Reference}

theorem opening_cons_iff :
    '%' :: '{' :: t <:+ c :: cs ↔ c = '%' ∧ cs = '{' :: t ∨ '%' :: '{' :: t <:+ cs := by
  rw [List.suffix_cons_iff]
  simp [eq_comm]

theorem hasOpening_cons_iff :
    HasOpening (c :: cs) ↔ c = '%' ∧ cs.head? = some '{' ∨ HasOpening cs := by
  simp only [HasOpening, opening_cons_iff, exists_or, exists_and_left, List.head?_eq_some_iff]

instance HasOpening.decidable : (cs : List Char) → Decidable (HasOpening cs)
  | [] => isFalse (by simp [HasOpening])
  | _ :: cs =>
    have := decidable cs
    decidable_of_iff' _ hasOpening_cons_iff

/-- Where another character than the brace comes, a `%{` stands before it or behind it. -/
theorem opening_append (hd : d ≠ '{') (h : '%' :: '{' :: t <:+ cs ++ d :: ds) :
    (∃ t', t = t' ++ d :: ds ∧ '%' :: '{' :: t' <:+ cs) ∨ '%' :: '{' :: t <:+ d :: ds := by
  induction cs with
  | nil => exact .inr h
  | cons c cs ih =>
    obtain ⟨rfl, hcs⟩ | h := opening_cons_iff.1 h
    · cases cs with
      | nil => exact absurd (List.cons.inj hcs).1 hd
      | cons c cs =>
        obtain ⟨rfl, rfl⟩ := List.cons.inj hcs
        exact .inl ⟨cs, rfl, List.suffix_refl _⟩
    · exact (ih h).imp_left fun ⟨t', ht, h⟩ => ⟨t', ht, h.trans (List.suffix_cons _ _)⟩

theorem Shut.nil : Shut [] := fun _ _ h => h

theorem hasOpening_append (hd : d ≠ '{') :
    HasOpening (cs ++ d :: ds) ↔ HasOpening cs ∨ HasOpening (d :: ds) := by
  constructor
  · rintro ⟨t, ht⟩
    exact (opening_append hd ht).imp (fun ⟨t', _, h⟩ => ⟨t', h⟩) (fun h => ⟨t, h⟩)
  · rintro (⟨t, a, rfl⟩ | ⟨t, ht⟩)
    · exact ⟨t ++ d :: ds, a, by simp⟩
    · exact ⟨t, ht.trans (List.suffix_append _ _)⟩

theorem Shut.hasOpening_append (ha : Shut a) : HasOpening (a ++ cs) ↔ HasOpening cs :=
  ⟨fun ⟨t, h⟩ => ⟨t, ha t cs h⟩, fun ⟨t, h⟩ => ⟨t, h.trans (List.suffix_append _ _)⟩⟩

theorem Shut.append (ha : Shut a) (hb : Shut b) : Shut (a ++ b) := by
  intro t cs h
  rw [List.append_assoc] at h
  exact hb t cs (ha t _ h)

theorem Shut.cons (hc : c ≠ '%') (ha : Shut a) : Shut (c :: a) := by
  intro t cs h
  obtain ⟨hc', -⟩ | h := opening_cons_iff.1 h
  · exact absurd hc' hc
  · exact ha t cs h

theorem Shut.cons_of_head (hne : a ≠ []) (hh : ∀ d ∈ a.head?, d ≠ '{') (ha : Shut a) :
    Shut (c :: a) := by
  intro t cs h
  rw [List.cons_append, opening_cons_iff] at h
  obtain ⟨-, h⟩ | h := h
  · cases a with
    | nil => exact absurd rfl hne
    | cons d a =>
      rw [List.cons_append, List.cons.injEq] at h
      exact absurd h.1 (hh d rfl)
  · exact ha t cs h

theorem shut_of_not_mem (h : '%' ∉ a) : Shut a := by
  induction a with
  | nil => exact .nil
  | cons c a ih =>
    rw [List.mem_cons, not_or] at h
    exact .cons (Ne.symm h.1) (ih h.2)

theorem shut_of_all {q : Char → Bool} (hq : q '%' = false) (h : ∀ c ∈ a, q c) : Shut a :=
  shut_of_not_mem fun hmem => Bool.false_ne_true (hq.symm.trans (h _ hmem))

namespace Reference

variable {d : List Char}

theorem DefinitionText.head (h : DefinitionText d) : ∀ c ∈ (d ++ ['}']).head?, c ≠ '{' := by
  cases h with
  | nil | escape => simp
  | plain h1 => simpa using h1

theorem DefinitionText.shut (h : DefinitionText d) : Shut (d ++ ['}']) := by
  induction h with
  | nil => exact .cons (by decide) .nil
  | plain _ _ _ hd ih => exact ih.cons_of_head (by simp) hd.head
  | escape _ hd ih => exact .cons (by decide) (ih.cons_of_head (by simp) hd.head)

theorem DefinitionText.not_hasOpening (h : DefinitionText d) : ¬ HasOpening d := by
  rintro ⟨t, a, rfl⟩
  have hopening : '%' :: '{' :: (t ++ ['}']) <:+ a ++ '%' :: '{' :: t ++ ['}'] ++ [] :=
    ⟨a, by simp⟩
  simpa using h.shut _ _ hopening

theorem shut_renderPart {mark : Char} {p : Option (List Char)} (hm : mark ≠ '%')
    (hp : ∀ a ∈ p, Shut a) : Shut (renderPart mark p) := by
  cases p with
  | none => exact .nil
  | some a => exact .cons hm (hp a rfl)

theorem Written.shut (h : r.Written) : ∃ a, r.render = '%' :: '{' :: a ∧ Shut a := by
  refine ⟨_, rfl, ?_⟩
  have hname : Shut r.name := shut_of_all (by decide) h.name.2
  have hfield : Shut (renderPart ':' r.field) :=
    shut_renderPart (by decide) fun a ha => shut_of_all (by decide) (h.field a ha).2
  have htype : Shut (renderPart ':' r.coercion) :=
    shut_renderPart (by decide) fun a ha => shut_of_all (by decide) (h.coercion a ha).2
  have hdef : Shut (renderPart '=' r.definition ++ ['}']) := by
    cases hd : r.definition with
    | none => exact .cons (by decide) .nil
    | some d => exact .cons (by decide) (h.definition d hd).2.shut
  have := ((hname.append hfield).append htype).append hdef
  rwa [← List.append_assoc] at this

/-- A reference holds one `%{`, at its start. -/
theorem Written.opening (h : r.Written) (ht : '%' :: '{' :: t <:+ r.render ++ cs) :
    '%' :: '{' :: t = r.render ++ cs ∨ '%' :: '{' :: t <:+ cs := by
  obtain ⟨a, ha, hs⟩ := h.shut
  rw [ha, List.cons_append, opening_cons_iff] at ht
  obtain ⟨-, ht⟩ | ht := ht
  · rw [ha, List.cons_append, ht]
    exact .inl rfl
  · exact .inr ((hs.cons (by decide)) t cs ht)

end Reference

/-! ### Malformed references -/

theorem firstMalformed_cons {p : Piece} {ps : List Piece}
    (h : ¬ (p = .plain '%' ∧ ps.head? = some (.plain '{'))) :
    firstMalformed (p :: ps) = firstMalformed ps := by
  rw [firstMalformed.eq_def]
  split
  · next heq => cases heq
  · next heq =>
    obtain ⟨rfl, rfl⟩ := List.cons.inj heq
    exact absurd ⟨rfl, rfl⟩ h
  · next heq =>
    obtain ⟨rfl, rfl⟩ := List.cons.inj heq
    rfl

theorem firstMalformed_cons_eq_none_iff {p : Piece} {ps : List Piece} :
    firstMalformed (p :: ps) = none ↔
      ¬ (p = .plain '%' ∧ ps.head? = some (.plain '{')) ∧ firstMalformed ps = none := by
  by_cases h : p = .plain '%' ∧ ps.head? = some (.plain '{')
  · obtain ⟨rfl, hps⟩ := h
    obtain ⟨qs, rfl⟩ := List.head?_eq_some_iff.1 hps
    simp [firstMalformed]
  · rw [firstMalformed_cons h, and_iff_right h]

theorem firstMalformed_cons_ne_none_iff {p : Piece} {ps : List Piece} :
    firstMalformed (p :: ps) ≠ none ↔
      p = .plain '%' ∧ ps.head? = some (.plain '{') ∨ firstMalformed ps ≠ none := by
  rw [ne_eq, firstMalformed_cons_eq_none_iff, Classical.not_and_iff_not_or_not, Classical.not_not]

theorem Piece.reference?_eq_some_iff {p : Piece} : p.reference? = some r ↔ p = .reference r := by
  cases p with
  | plain c => exact iff_of_false nofun nofun
  | reference r' => rw [reference?, Option.some.injEq, Piece.reference.injEq]

theorem Piece.ofText_of_read? {c : Char} {cs rest : List Char}
    (h : Reference.read? (c :: cs) = some (r, rest)) :
    ofText (c :: cs) = .reference r :: ofText rest := by
  rw [ofText]
  split
  · next h' =>
    cases h.symm.trans h'
    rfl
  · next h' => cases h.symm.trans h'

theorem Piece.ofText_of_read?_eq_none {c : Char} {cs : List Char}
    (h : Reference.read? (c :: cs) = none) : ofText (c :: cs) = .plain c :: ofText cs := by
  rw [ofText]
  split
  · next h' => rw [h] at h'; cases h'
  · rfl

theorem Reference.read?_of_ne {c : Char} (hc : c ≠ '%') (cs : List Char) :
    read? (c :: cs) = none := by
  rw [read?.eq_def]
  split
  · next h => exact absurd (List.cons.inj h).1 hc
  · rfl

theorem Piece.written_of_mem_ofText (h : .reference r ∈ ofText cs) : r.Written := by
  fun_induction ofText cs with
  | case1 => cases h
  | case2 c cs ref rest hread _ ih =>
    obtain h | h := List.mem_cons.1 h
    · cases h
      exact Reference.written_of_read? hread
    · exact ih h
  | case3 c cs _ ih => exact ih (by simpa using h)

theorem Piece.eq_cons_of_ofText {c : Char} {cs : List Char}
    (h : (ofText cs).head? = some (.plain c)) : ∃ r, cs = c :: r := by
  obtain ⟨ps, hps⟩ := List.head?_eq_some_iff.1 h
  refine ⟨toText ps, ?_⟩
  rw [← toText_ofText cs, hps]
  rfl

theorem firstMalformed_eq_none_iff (cs : List Char) :
    firstMalformed (Piece.ofText cs) = none ↔ OpensReferences cs := by
  fun_induction Piece.ofText cs with
  | case1 => simp [firstMalformed, OpensReferences]
  | case2 c r ref rest h _ ih =>
    have hw := Reference.written_of_read? h
    rw [firstMalformed_cons_eq_none_iff, ih, Reference.eq_render_append h]
    constructor
    · rintro ⟨-, ho⟩ t ht
      obtain ht | ht := hw.opening ht
      · rw [ht, hw.read?_render]
        rfl
      · exact ho t ht
    · exact fun ho => ⟨by simp, fun t ht => ho t (ht.trans (List.suffix_append _ _))⟩
  | case3 c r h ih =>
    rw [firstMalformed_cons_eq_none_iff, ih]
    constructor
    · rintro ⟨hfirst, ho⟩ t ht
      obtain ⟨rfl, rfl⟩ | ht := opening_cons_iff.1 ht
      · refine absurd ⟨rfl, ?_⟩ hfirst
        rw [Piece.ofText_of_read?_eq_none (Reference.read?_of_ne (by decide) t)]
        rfl
      · exact ho t ht
    · refine fun ho => ⟨?_, fun t ht => ho t (ht.trans (List.suffix_cons _ _))⟩
      rintro ⟨hc, hr⟩
      cases hc
      obtain ⟨t, rfl⟩ := Piece.eq_cons_of_ofText hr
      simpa [h] using ho t (List.suffix_refl _)

end Grok
