/-!
Globs over file names. A question mark stands for one character, a star for any run of characters,
brackets for one character of a set, and two stars for whole path components.
-/
namespace Grok

namespace Glob

inductive Fault where
  | tooManyStars
  /-- Two stars that are not a whole path component. -/
  | partialComponent
  /-- A set that is empty or not closed. -/
  | badSet
  deriving DecidableEq, Repr

def Fault.message : Fault → String
  | .tooManyStars => "at most two stars may stand together"
  | .partialComponent => "two stars must form a whole path component"
  | .badSet => "a set is empty or not closed"

/-- Part of a set: the characters from `low` to `high`. -/
structure Span where
  low : Char
  high : Char
  deriving DecidableEq, Repr

inductive Token where
  | char (c : Char)
  | anyChar
  | anyRun
  /-- Any number of whole path components. -/
  | anyComponents
  | oneOf (spans : List Span)
  | noneOf (spans : List Span)
  deriving DecidableEq, Repr

def Span.has (s : Span) (c : Char) : Bool := s.low ≤ c && c ≤ s.high

/-- The spans of a set. A hyphen between two characters makes a range, elsewhere it is itself. -/
def spans : List Char → List Span
  | a :: '-' :: b :: r => ⟨a, b⟩ :: spans r
  | a :: r => ⟨a, a⟩ :: spans r
  | [] => []

def untilBracket : List Char → Option (List Char × List Char)
  | [] => none
  | ']' :: r => some ([], r)
  | c :: r => (untilBracket r).map fun (set, rest) => (c :: set, rest)

/-- The set behind an opening bracket: its first character is always a member. -/
def set? : List Char → Option (Token × List Char)
  | '!' :: c :: r => (untilBracket r).map fun (set, rest) => (.noneOf (spans (c :: set)), rest)
  | '!' :: [] => none
  | c :: r => (untilBracket r).map fun (set, rest) => (.oneOf (spans (c :: set)), rest)
  | [] => none

theorem untilBracket_length {cs set rest : List Char} (h : untilBracket cs = some (set, rest)) :
    rest.length < cs.length := by
  induction cs generalizing set with
  | nil => simp [untilBracket] at h
  | cons c r ih =>
    unfold untilBracket at h
    split at h
    · contradiction
    · simp_all
    · rename_i hc
      simp only [List.cons.injEq] at hc
      obtain ⟨rfl, rfl⟩ := hc
      simp only [Option.map_eq_some_iff, Prod.exists, Prod.mk.injEq] at h
      obtain ⟨s, t, hst, -, rfl⟩ := h
      have := ih hst
      simp; omega

theorem set?_length {cs rest : List Char} {t : Token} (h : set? cs = some (t, rest)) :
    rest.length < cs.length := by
  unfold set? at h
  split at h <;> simp only [Option.map_eq_some_iff, Prod.exists, Prod.mk.injEq, reduceCtorEq] at h
  · obtain ⟨s, r, hr, -, rfl⟩ := h
    have := untilBracket_length hr
    simp; omega
  · obtain ⟨s, r, hr, -, rfl⟩ := h
    have := untilBracket_length hr
    simp; omega

/-- Reads the tokens of a glob. `start` says that a path component may begin here. -/
def scan (start : Bool) (cs : List Char) : Except Fault (List Token) :=
  match cs with
  | [] => .ok []
  | '?' :: r => (scan false r).map (.anyChar :: ·)
  | '*' :: '*' :: '*' :: _ => .error .tooManyStars
  | '*' :: '*' :: r =>
    if !start then .error .partialComponent
    else
      match r with
      | [] => .ok [.anyComponents]
      | '/' :: r' => (scan true r').map (.anyComponents :: ·)
      | _ :: _ => .error .partialComponent
  | '*' :: r => (scan false r).map (.anyRun :: ·)
  | '[' :: r =>
    match h : set? r with
    | some (t, rest) =>
      have := set?_length h
      (scan false rest).map (t :: ·)
    | none => .error .badSet
  | c :: r => (scan (c == '/') r).map (.char c :: ·)
termination_by cs.length
decreasing_by all_goals simp_all; try omega

inductive Fit where
  | fits
  | differs
  /-- The text ends before the tokens do. A later start in the text is no better. -/
  | tooShort
  deriving DecidableEq, Repr

/-- The second fit, if the first one says only that the texts differ. -/
def Fit.orElse (a : Fit) (b : Unit → Fit) : Fit :=
  match a with
  | .differs => b ()
  | a => a

/-- Tries every rest of a text, the text itself first. -/
def anyRest (f : List Char → Fit) : List Char → Fit
  | [] => f []
  | c :: r => (f (c :: r)).orElse fun _ => anyRest f r

/-- Tries every rest that follows a separator. -/
def anyComponent (f : List Char → Fit) : List Char → Fit
  | [] => f []
  | c :: r => (if c = '/' then f r else .differs).orElse fun _ => anyComponent f r

def fit : List Token → List Char → Fit
  | [], cs => if cs.isEmpty then .fits else .differs
  | .anyRun :: ts, cs => anyRest (fit ts) cs
  | .anyComponents :: ts, cs => (fit ts cs).orElse fun _ => anyComponent (fit ts) cs
  | .anyChar :: ts, cs => match cs with
    | [] => .tooShort
    | _ :: r => fit ts r
  | .char a :: ts, cs => match cs with
    | [] => .tooShort
    | c :: r => if a = c then fit ts r else .differs
  | .oneOf set :: ts, cs => match cs with
    | [] => .tooShort
    | c :: r => if set.any (·.has c) then fit ts r else .differs
  | .noneOf set :: ts, cs => match cs with
    | [] => .tooShort
    | c :: r => if set.any (·.has c) then .differs else fit ts r

end Glob

/-- A glob that is well formed, as its tokens. -/
structure Glob where
  tokens : List Glob.Token
  deriving DecidableEq, Repr

def Glob.ofText (text : String) : Except Glob.Fault Glob :=
  (Glob.scan true text.toList).map Glob.mk

/-- Whether a bare file name is of this form. -/
def Glob.accepts (g : Glob) (name : String) : Bool := Glob.fit g.tokens name.toList = .fits

end Grok
