import Grok.Capture.Groups
/-!
The places of an expression: whether a place lies in a class, and whether a backslash in front of it
hides what stands there. Main statement: the scan for groups finds a name exactly at the parentheses
at a clear place that open one.
-/
namespace Grok.Capture

/-- What the characters in front of a place make of it. -/
structure Place where
  inClass : Bool
  /-- Whether a backslash hides the next character. -/
  hidden : Bool
  deriving DecidableEq, Repr

namespace Place

/-- Neither in a class nor hidden. -/
def clear : Place := ⟨false, false⟩

/-- The place behind a character. -/
def behind (p : Place) (c : Char) : Place :=
  if p.hidden then ⟨p.inClass, false⟩
  else if c = '\\' then ⟨p.inClass, true⟩
  else if c = '[' then ⟨true, false⟩
  else if c = ']' then ⟨false, false⟩
  else p

end Place

/-- The name of the group that a parenthesis in front of a text opens. -/
def opened? : List Char → Option (List Char)
  | '?' :: '<' :: r => groupName? r
  | _ => none

/-- The name of the group that opens with a character at some place, in front of a text. -/
def openedAt (p : Place) (c : Char) (r : List Char) : Option (List Char) :=
  if p = .clear ∧ c = '(' then opened? r else none

/-- The names of the groups that open in a text, place by place. -/
def namesFrom (p : Place) : List Char → List (List Char)
  | [] => []
  | c :: r => (openedAt p c r).toList ++ namesFrom (p.behind c) r

/-- A character that neither hides anything nor opens or closes anything. -/
def IsInert (c : Char) : Prop := c ≠ '\\' ∧ c ≠ '[' ∧ c ≠ ']' ∧ c ≠ '('

instance : DecidablePred IsInert := fun _ => inferInstanceAs (Decidable (_ ∧ _))

variable {p : Place} {b : Bool} {c d : Char} {r a name : List Char}

theorem openedAt_of_ne (hc : c ≠ '(') : openedAt p c r = none := if_neg fun h => hc h.2

theorem openedAt_of_not_clear (hp : p ≠ .clear) : openedAt p c r = none := if_neg fun h => hp h.1

@[simp] theorem openedAt_clear : openedAt .clear '(' r = opened? r := if_pos ⟨rfl, rfl⟩

@[simp] theorem namesFrom_nil : namesFrom p [] = [] := rfl

theorem namesFrom_cons_of_ne (hc : c ≠ '(') : namesFrom p (c :: r) = namesFrom (p.behind c) r := by
  rw [namesFrom, openedAt_of_ne hc]
  rfl

@[simp] theorem namesFrom_escape :
    namesFrom ⟨b, false⟩ ('\\' :: c :: r) = namesFrom ⟨b, false⟩ r := by
  have hplace : (⟨b, false⟩ : Place).behind '\\' = ⟨b, true⟩ := rfl
  rw [namesFrom_cons_of_ne (by decide), hplace, namesFrom,
    openedAt_of_not_clear (by simp [Place.clear])]
  rfl

@[simp] theorem namesFrom_bracket : namesFrom ⟨b, false⟩ ('[' :: r) = namesFrom ⟨true, false⟩ r :=
  namesFrom_cons_of_ne (by decide)

@[simp] theorem namesFrom_closing : namesFrom ⟨b, false⟩ (']' :: r) = namesFrom ⟨false, false⟩ r :=
  namesFrom_cons_of_ne (by decide)

theorem IsInert.behind (h : IsInert c) : (⟨b, false⟩ : Place).behind c = ⟨b, false⟩ := by
  simp [Place.behind, h.1, h.2.1, h.2.2.1]

theorem namesFrom_inert (h : IsInert c) :
    namesFrom ⟨b, false⟩ (c :: r) = namesFrom ⟨b, false⟩ r := by
  rw [namesFrom_cons_of_ne h.2.2.2, h.behind]

/-- In a class a parenthesis opens nothing. -/
theorem namesFrom_class (h : c ≠ '\\') (h' : c ≠ ']') :
    namesFrom ⟨true, false⟩ (c :: r) = namesFrom ⟨true, false⟩ r := by
  have hplace : (⟨true, false⟩ : Place).behind c = ⟨true, false⟩ := by
    simp [Place.behind, h, h']
  rw [namesFrom, openedAt_of_not_clear (by decide), hplace]
  rfl

theorem namesFrom_paren :
    namesFrom .clear ('(' :: r) = (opened? r).toList ++ namesFrom .clear r := by
  rw [namesFrom, openedAt_clear]
  rfl

theorem opened?_of_head (h : ∀ r', r ≠ '?' :: '<' :: r') : opened? r = none := by
  unfold opened?
  split
  · next r' => exact absurd rfl (h r')
  · rfl

/-! ### What the scan passes over -/

/-- The scan finds nothing in these characters and is at the same kind of place behind them. -/
def Passed (a : List Char) : Prop :=
  ∀ b r, namesFrom ⟨b, false⟩ (a ++ r) = namesFrom ⟨b, false⟩ r

namespace Passed

theorem nil : Passed [] := fun _ _ => rfl

theorem append {a' : List Char} (h : Passed a) (h' : Passed a') : Passed (a ++ a') := fun b r => by
  rw [List.append_assoc, h, h']

theorem cons (hc : IsInert c) (h : Passed a) : Passed (c :: a) := fun b r => by
  rw [List.cons_append, namesFrom_inert hc, h]

theorem of_forall (h : ∀ c ∈ a, IsInert c) : Passed a := by
  induction a with
  | nil => exact nil
  | cons c a ih => exact cons (h c (.head _)) (ih fun c hc => h c (.tail _ hc))

theorem escape (h : Passed a) : Passed ('\\' :: c :: a) := fun b r => by
  rw [List.cons_append, List.cons_append, namesFrom_escape, h]

theorem namesFrom_drop {k : Nat} (h : Passed (r.take k)) (b : Bool) :
    namesFrom ⟨b, false⟩ r = namesFrom ⟨b, false⟩ (r.drop k) := by
  rw [← h b (r.drop k), List.take_append_drop]

end Passed

/-- An alphabet without the four characters that mean something to the scan. -/
def IsInertClass (q : Char → Bool) : Prop := ['\\', '[', ']', '('].all (!q ·)

instance : DecidablePred IsInertClass := fun _ => inferInstanceAs (Decidable (_ = true))

theorem IsInertClass.isInert {q : Char → Bool} (hq : IsInertClass q) (h : q c) : IsInert c := by
  simp only [IsInertClass, List.all_cons, List.all_nil, Bool.and_eq_true, Bool.not_eq_true'] at hq
  refine ⟨?_, ?_, ?_, ?_⟩ <;> rintro rfl <;> simp_all

theorem IsInertClass.passed {q : Char → Bool} (hq : IsInertClass q) (h : ∀ c ∈ a, q c) : Passed a :=
  .of_forall fun c hc => hq.isInert (h c hc)

/-! ### Names -/

theorem groupName?_eq_some_iff :
    groupName? r = some name ↔ name ≠ [] ∧ (∀ c ∈ name, isGroupChar c) ∧ name ++ ['>'] <+: r := by
  simp only [groupName?, Option.ite_none_right_eq_some, Bool.and_eq_true, Bool.not_eq_true',
    List.isEmpty_eq_false_iff, beq_iff_eq, Option.some.injEq]
  constructor
  · rintro ⟨⟨hne, hhead⟩, rfl⟩
    obtain ⟨r', hr'⟩ := List.head?_eq_some_iff.1 hhead
    refine ⟨hne, List.all_eq_true.1 List.all_takeWhile, r', ?_⟩
    rw [List.append_assoc, List.singleton_append, ← hr', List.takeWhile_append_dropWhile]
  · rintro ⟨hne, hname, r', rfl⟩
    have hangle : ¬ isGroupChar '>' := by decide
    rw [List.append_assoc, List.takeWhile_append_of_pos hname, List.dropWhile_append_of_pos hname,
      List.singleton_append, List.takeWhile_cons_of_neg hangle, List.dropWhile_cons_of_neg hangle,
      List.append_nil]
    exact ⟨⟨hne, rfl⟩, rfl⟩

theorem opened?_eq_some_iff :
    opened? r = some name ↔
      name ≠ [] ∧ (∀ c ∈ name, isGroupChar c) ∧ '?' :: '<' :: (name ++ ['>']) <+: r := by
  unfold opened?
  split
  · simp only [groupName?_eq_some_iff, List.cons_prefix_cons, true_and]
  · next hr =>
    refine ⟨nofun, ?_⟩
    rintro ⟨-, -, r', rfl⟩
    exact absurd rfl (hr _)

theorem isInertClass_isGroupChar : IsInertClass isGroupChar := by decide

/-- A name holds no parenthesis, so what comes from the next one on does not matter. -/
theorem opened?_append {y : List Char} (hy : ∀ c ∈ y.head?, c = '(' ∨ c = ')') :
    opened? (a ++ y) = opened? a := by
  have hprefix {q : List Char} (hq : '(' ∉ q ∧ ')' ∉ q) : q <+: a ++ y ↔ q <+: a := by
    refine ⟨fun h => ?_, fun h => h.trans (List.prefix_append a y)⟩
    obtain h | ⟨b, rfl⟩ := (List.prefix_or_prefix_of_prefix h (List.prefix_append a y))
    · exact h
    · rw [List.prefix_append_right_inj] at h
      cases b with
      | nil => exact (List.append_nil a).symm ▸ List.prefix_refl a
      | cons d b =>
        obtain ⟨r', rfl⟩ := h
        obtain rfl | rfl := hy d rfl <;> simp at hq
  refine Option.ext fun name => ?_
  simp only [opened?_eq_some_iff]
  refine and_congr_right fun _ => and_congr_right fun hname => hprefix ?_
  have hopen : '(' ∉ name := fun h => absurd (hname _ h) (by decide)
  have hclose : ')' ∉ name := fun h => absurd (hname _ h) (by decide)
  simp [hopen, hclose]

/-- The scan skips what cannot open a group; read place by place, the text gives the same names. -/
theorem scanGroups_eq_namesFrom (b : Bool) (cs : List Char) :
    scanGroups b cs = namesFrom ⟨b, false⟩ cs := by
  fun_induction scanGroups b cs with
  | case1 b c r ih => rw [ih, namesFrom_escape]
  | case2 r ih =>
    rw [ih, namesFrom_class (by decide) (by decide), namesFrom_inert (by decide),
      namesFrom_inert (by decide)]
  | case3 b r hb name hname ih =>
    obtain rfl : b = false := by simpa using hb
    rw [ih, ← Place.clear, namesFrom_paren, opened?, hname]
    rfl
  | case4 b r hb hname ih =>
    obtain rfl : b = false := by simpa using hb
    rw [ih, ← Place.clear, namesFrom_paren, opened?, hname]
    rfl
  | case5 b r ih => rw [ih, namesFrom_bracket]
  | case6 b r ih => rw [ih, namesFrom_closing]
  | case7 b c r hescape hparen hopen hclose ih =>
    by_cases hc : c = '\\'
    · -- Only the last character can be a backslash that hides nothing.
      obtain rfl : r = [] := List.eq_nil_iff_forall_not_mem.2 fun d hd => by
        obtain ⟨d, r, rfl⟩ := List.exists_cons_of_ne_nil (List.ne_nil_of_mem hd)
        exact hescape d r hc rfl
      rw [ih, hc, namesFrom_cons_of_ne (by decide)]
      rfl
    · rw [ih]
      by_cases hc' : c = '('
      · subst hc'
        cases b with
        | true => rw [namesFrom_class (by decide) (by decide)]
        | false => rw [← Place.clear, namesFrom_paren, opened?_of_head fun r' => hparen r' rfl]; rfl
      · rw [namesFrom_inert ⟨hc, hopen, hclose, hc'⟩]
  | case8 => rfl

theorem namedGroups_eq (cs : List Char) :
    namedGroups cs = (namesFrom .clear cs).map String.ofList :=
  congrArg _ (scanGroups_eq_namesFrom false cs)

end Grok.Capture
