import Mathlib
import Grok.Capture.Bytes
import Grok.Proofs.Capture.Places
import Grok.Proofs.Text.Slice
/-!
The scan for groups over bytes is the scan over characters. The two bytes that go with a backslash
can end amid a character, but the other bytes of that character mean nothing to the scan. Main
statement: the scan over bytes always has an answer, and it is that of the scan over characters.
-/
namespace Grok.Capture

open Text

variable {a r name : List Char} {b : Bool} {c : Char} {s : String} {i k : Nat}

/-! ### Names -/

theorem find?_charIndices (p : Char → Bool) (i : Nat) (cs : List Char) :
    (charIndices i cs).find? (!p ·.2) =
      (cs.dropWhile p).head?.map fun c => (i + utf8Length (cs.takeWhile p), c) := by
  induction cs generalizing i with
  | nil => rfl
  | cons c cs ih =>
    cases hc : p c with
    | true =>
      rw [charIndices, List.find?_cons_of_neg (by simp [hc]), ih, List.dropWhile_cons_of_pos hc,
        List.takeWhile_cons_of_pos hc, utf8Length, Nat.add_assoc]
    | false =>
      rw [charIndices, List.find?_cons_of_pos (by simp [hc]),
        List.dropWhile_cons_of_neg (by simp [hc]), List.takeWhile_cons_of_neg (by simp [hc])]
      rfl

theorem nameLength_eq (r : List Char) :
    nameLength (.ofList r) = utf8Length (r.takeWhile isGroupChar) := by
  rw [nameLength, String.toList_ofList, find?_charIndices]
  cases hrest : r.dropWhile isGroupChar with
  | nil =>
    have htake := List.takeWhile_append_dropWhile (p := isGroupChar) (l := r)
    rw [hrest, List.append_nil] at htake
    rw [htake]
    exact utf8ByteSize_ofList _
  | cons c cs => exact Nat.zero_add _

theorem nameBefore?_eq (r : List Char) :
    nameBefore? (.ofList r) =
      some ((groupName? r).map fun name => (.ofList name, utf8Length name)) := by
  have hr : (String.ofList r).toList = r.takeWhile isGroupChar ++ r.dropWhile isGroupChar := by
    rw [String.toList_ofList, List.takeWhile_append_dropWhile]
  rw [nameBefore?, nameLength_eq, sliceFrom?_eq hr, sliceTo?_eq hr, groupName?]
  cases hname : r.takeWhile isGroupChar with
  | nil => rfl
  | cons c name =>
    rw [if_pos (utf8Length_pos (List.cons_ne_nil _ _))]
    by_cases hhead : (r.dropWhile isGroupChar).head? = some '>' <;> simp [hhead]

/-- Slicing at a parenthesis never fails, and gives the name of the group that opens there. -/
theorem groupAt?_eq (hs : s.toList = a ++ '(' :: r) :
    groupAt? s (utf8Length a) =
      some ((opened? r).map fun name => (.ofList name, utf8Length name)) := by
  rw [groupAt?, sliceFrom?_eq hs]
  simp only [Option.bind_eq_bind, Option.bind_some, String.toList_ofList]
  by_cases hr : ∃ r', r = '?' :: '<' :: r'
  · obtain ⟨r, rfl⟩ := hr
    have hs' : s.toList = (a ++ ['(', '?', '<']) ++ r := by simp [hs]
    have hbehind : utf8Length a + 3 = utf8Length (a ++ ['(', '?', '<']) := by
      rw [utf8Length_append]
      rfl
    rw [if_pos (by rfl), hbehind, sliceFrom?_eq hs']
    exact nameBefore?_eq r
  · rw [opened?_of_head (not_exists.1 hr), if_neg]
    · rfl
    · rw [List.isPrefixOf_iff_prefix]
      rintro ⟨r', hr'⟩
      exact hr ⟨r', by simpa using hr'.symm⟩

/-- What stands between a parenthesis and the end of the name means nothing else to the scan. -/
theorem exists_behind_name (h : opened? r = some name) :
    ∃ r', r = '?' :: '<' :: name ++ r' ∧ namesFrom .clear r = namesFrom .clear r' := by
  obtain ⟨-, hchars, r', rfl⟩ := opened?_eq_some_iff.1 h
  have hpassed : Passed ('?' :: '<' :: name) :=
    .cons (by decide) (.cons (by decide) (isInertClass_isGroupChar.passed hchars))
  refine ⟨'>' :: r', by simp, ?_⟩
  rw [Place.clear, ← hpassed false ('>' :: r')]
  simp

/-! ### The scan, character by character -/

theorem scanBytes_of_le (h : s.utf8ByteSize ≤ i) : scanBytes s b i = some [] := by
  rw [scanBytes, dif_neg (Nat.not_lt.2 h)]

/-- A byte of a character that means nothing to the scan is passed over. -/
theorem scanBytes_byte (hs : s.toList = a ++ c :: r) (hc : IsInert c) (hk : k < c.utf8Size) :
    scanBytes s b (utf8Length a + k) = scanBytes s b (utf8Length a + k + 1) := by
  have hbyte (d : Char) (hd : d.val.toNat < 128) (hne : c ≠ d) :
      s.getUTF8Byte ⟨utf8Length a + k⟩ (lt_utf8ByteSize hs hk) ≠ d.toUInt8 := fun h =>
    hne (eq_of_mem_utf8EncodeChar hd (h ▸ getUTF8Byte_mem hs hk))
  rw [scanBytes, dif_pos (lt_utf8ByteSize hs hk)]
  simp [hbyte '\\' (by decide) hc.1, hbyte '[' (by decide) hc.2.1, hbyte ']' (by decide) hc.2.2.1,
    hbyte '(' (by decide) hc.2.2.2]

theorem scanBytes_bytes (hs : s.toList = a ++ c :: r) (hc : IsInert c) (hk : k ≤ c.utf8Size) :
    scanBytes s b (utf8Length a + k) = scanBytes s b (utf8Length (a ++ [c])) := by
  rw [utf8Length_append]
  induction hk using Nat.decreasingInduction with
  | self => rfl
  | of_succ k hk ih => rw [scanBytes_byte hs hc hk, Nat.add_assoc, ih]

theorem scanBytes_inert (hs : s.toList = a ++ c :: r) (hc : IsInert c) :
    scanBytes s b (utf8Length a) = scanBytes s b (utf8Length (a ++ [c])) :=
  scanBytes_bytes hs hc (Nat.zero_le _)

theorem scanBytes_backslash (hs : s.toList = a ++ '\\' :: r) :
    scanBytes s b (utf8Length a) = scanBytes s b (utf8Length a + 2) := by
  rw [scanBytes, dif_pos (utf8Length_lt hs), getUTF8Byte_eq hs (by decide)]
  rfl

/-- The two bytes end behind the character that the backslash hides, or amid it. -/
theorem scanBytes_escape (hs : s.toList = a ++ '\\' :: c :: r) :
    scanBytes s b (utf8Length a) = scanBytes s b (utf8Length (a ++ ['\\', c])) := by
  have hs' : s.toList = (a ++ ['\\']) ++ c :: r := by simp [hs]
  have hbackslash : utf8Length a + 2 = utf8Length (a ++ ['\\']) + 1 := by
    rw [utf8Length_append]
    rfl
  have happend : a ++ ['\\', c] = a ++ ['\\'] ++ [c] := by simp
  rw [scanBytes_backslash hs, hbackslash, happend]
  by_cases hc : IsInert c
  · exact scanBytes_bytes hs' hc c.utf8Size_pos
  · have hsize : c.utf8Size = 1 := by
      simp only [IsInert, not_and_or, not_not] at hc
      obtain rfl | rfl | rfl | rfl := hc <;> rfl
    rw [utf8Length_append (a ++ ['\\']), utf8Length, hsize]
    rfl

theorem scanBytes_backslash_last (hs : s.toList = a ++ ['\\']) :
    scanBytes s b (utf8Length a) = some [] := by
  rw [scanBytes_backslash hs]
  apply scanBytes_of_le
  rw [utf8ByteSize_eq, hs, utf8Length_append]
  exact Nat.add_le_add_left (by decide) _

theorem scanBytes_bracket (hs : s.toList = a ++ '[' :: r) :
    scanBytes s b (utf8Length a) = scanBytes s true (utf8Length (a ++ ['['])) := by
  rw [scanBytes, dif_pos (utf8Length_lt hs), getUTF8Byte_eq hs (by decide), utf8Length_append]
  cases b <;> rfl

theorem scanBytes_closing (hs : s.toList = a ++ ']' :: r) :
    scanBytes s b (utf8Length a) = scanBytes s false (utf8Length (a ++ [']'])) := by
  rw [scanBytes, dif_pos (utf8Length_lt hs), getUTF8Byte_eq hs (by decide), utf8Length_append]
  cases b <;> rfl

theorem scanBytes_class (hs : s.toList = a ++ '(' :: r) :
    scanBytes s true (utf8Length a) = scanBytes s true (utf8Length (a ++ ['('])) := by
  rw [scanBytes, dif_pos (utf8Length_lt hs), getUTF8Byte_eq hs (by decide), utf8Length_append]
  rfl

theorem scanBytes_paren (hs : s.toList = a ++ '(' :: r) (h : opened? r = none) :
    scanBytes s false (utf8Length a) = scanBytes s false (utf8Length (a ++ ['('])) := by
  rw [scanBytes, dif_pos (utf8Length_lt hs), getUTF8Byte_eq hs (by decide), groupAt?_eq hs, h,
    utf8Length_append]
  rfl

theorem scanBytes_opening (hs : s.toList = a ++ '(' :: r) (h : opened? r = some name) :
    scanBytes s false (utf8Length a) =
      (scanBytes s false (utf8Length (a ++ '(' :: '?' :: '<' :: name))).map
        (String.ofList name :: ·) := by
  have hbehind : utf8Length (a ++ '(' :: '?' :: '<' :: name) =
      utf8Length a + 3 + utf8Length name := by
    rw [utf8Length_append, Nat.add_assoc]
    simp only [utf8Length, ← Nat.add_assoc]
    rfl
  rw [scanBytes, dif_pos (utf8Length_lt hs), getUTF8Byte_eq hs (by decide), groupAt?_eq hs, h,
    hbehind]
  rfl

/-- Behind some characters the scan gives the names that open further on. -/
theorem scanBytes_eq_namesFrom (hs : s.toList = a ++ r) :
    scanBytes s b (utf8Length a) = some ((namesFrom ⟨b, false⟩ r).map String.ofList) := by
  induction hn : r.length using Nat.strongRecOn generalizing a b r with
  | ind n ih =>
    subst hn
    -- By what is left, since the scan can go on behind a name.
    have next {b : Bool} (a' r' : List Char) (hs : s.toList = a' ++ r')
        (hlt : r'.length < r.length) :
        scanBytes s b (utf8Length a') = some ((namesFrom ⟨b, false⟩ r').map String.ofList) :=
      ih _ hlt hs rfl
    cases r with
    | nil =>
      apply scanBytes_of_le
      rw [utf8ByteSize_eq, hs, List.append_nil]
    | cons c r =>
      by_cases hc : IsInert c
      · rw [scanBytes_inert hs hc, namesFrom_inert hc]
        exact next _ r (by simp [hs]) (by simp)
      · simp only [IsInert, not_and_or, not_not] at hc
        -- A backslash, the two brackets, and a parenthesis.
        obtain rfl | rfl | rfl | rfl := hc
        · cases r with
          | nil =>
            rw [scanBytes_backslash_last hs, namesFrom_cons_of_ne (by decide)]
            rfl
          | cons d r =>
            rw [scanBytes_escape hs, namesFrom_escape]
            exact next _ r (by simp [hs]) (by simp)
        · rw [scanBytes_bracket hs, namesFrom_bracket]
          exact next _ r (by simp [hs]) (by simp)
        · rw [scanBytes_closing hs, namesFrom_closing]
          exact next _ r (by simp [hs]) (by simp)
        · cases b with
          | true =>
            rw [scanBytes_class hs, namesFrom_class (by decide) (by decide)]
            exact next _ r (by simp [hs]) (by simp)
          | false =>
            rw [← Place.clear, namesFrom_paren]
            cases hname : opened? r with
            | none =>
              rw [scanBytes_paren hs hname]
              exact next _ r (by simp [hs]) (by simp)
            | some name =>
              obtain ⟨r', rfl, hr'⟩ := exists_behind_name hname
              have hrest : scanBytes s false (utf8Length (a ++ '(' :: '?' :: '<' :: name)) =
                  some ((namesFrom .clear r').map String.ofList) :=
                next _ r' (by simp [hs]) (by simp; omega)
              rw [scanBytes_opening hs hname, hrest, hr']
              rfl

/-- No slice of the scan over bytes fails, and it finds what the scan over characters finds. -/
theorem namedGroupsOfBytes_eq (expression : String) :
    namedGroupsOfBytes expression = some (namedGroups expression.toList) := by
  rw [namedGroups_eq]
  exact scanBytes_eq_namesFrom (a := []) rfl

end Grok.Capture
