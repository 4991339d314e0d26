import Mathlib
import Grok.Proofs.Reference.Scan
import Grok.Text.Slice
/-!
Bytes and slices of a text behind some of its characters. A byte below 128 is a character of its
own, and behind a character the text can be sliced.
-/
namespace Grok.Text

variable {a r : List Char} {c d : Char} {s : String} {k : Nat}

/-! ### Bytes of a text -/

theorem utf8ByteSize_ofList (cs : List Char) :
    (String.ofList cs).utf8ByteSize = utf8Length cs := by
  rw [String.utf8ByteSize_ofList]
  induction cs with
  | nil => rfl
  | cons c cs ih => simp [utf8Length, ih, Nat.add_comm]

theorem utf8ByteSize_eq (s : String) : s.utf8ByteSize = utf8Length s.toList := by
  conv_lhs => rw [← String.ofList_toList (s := s), utf8ByteSize_ofList]

theorem utf8Length_pos (h : a ≠ []) : 0 < utf8Length a := by
  obtain ⟨c, a, rfl⟩ := List.exists_cons_of_ne_nil h
  exact Nat.add_pos_left c.utf8Size_pos _

theorem lt_utf8ByteSize (hs : s.toList = a ++ c :: r) (hk : k < c.utf8Size) :
    utf8Length a + k < s.utf8ByteSize := by
  rw [utf8ByteSize_eq, hs, utf8Length_append, utf8Length]
  omega

theorem utf8Length_lt (hs : s.toList = a ++ c :: r) : utf8Length a < s.utf8ByteSize :=
  lt_utf8ByteSize hs c.utf8Size_pos

theorem length_flatMap_utf8EncodeChar (cs : List Char) :
    (cs.flatMap String.utf8EncodeChar).length = utf8Length cs := by
  induction cs with
  | nil => rfl
  | cons c cs ih =>
    rw [List.flatMap_cons, List.length_append, String.length_utf8EncodeChar, ih, utf8Length]

/-- The bytes of a character follow those of the characters in front of it. -/
theorem getUTF8Byte_mem (hs : s.toList = a ++ c :: r) (hk : k < c.utf8Size) :
    s.getUTF8Byte ⟨utf8Length a + k⟩ (lt_utf8ByteSize hs hk) ∈ String.utf8EncodeChar c := by
  have hbytes : s.toByteArray = (a.flatMap String.utf8EncodeChar ++
      (String.utf8EncodeChar c ++ r.flatMap String.utf8EncodeChar)).toByteArray := by
    rw [← String.ofList_toList (s := s), hs, String.toByteArray_ofList, List.utf8Encode,
      List.flatMap_append, List.flatMap_cons]
  have ha := length_flatMap_utf8EncodeChar a
  have hc := String.length_utf8EncodeChar c
  simp only [String.getUTF8Byte_eq_getElem, hbytes, List.getElem_toByteArray]
  rw [List.getElem_append_right (by omega), List.getElem_append_left (by omega)]
  exact List.getElem_mem _

theorem le_of_mem_utf8EncodeChar (hc : 127 < c.val.toNat) {b : UInt8}
    (h : b ∈ String.utf8EncodeChar c) : 128 ≤ b.toNat := by
  have hmax : c.val.toNat < 1114112 := by
    obtain h | h := c.valid
    · exact h.trans (by decide)
    · exact h.2
  simp only [String.utf8EncodeChar, if_neg (Nat.not_le.2 hc)] at h
  split_ifs at h <;> simp only [List.mem_cons, List.not_mem_nil, or_false] at h
  · obtain rfl | rfl := h <;> simp only [UInt8.toNat_ofNat'] <;> omega
  · obtain rfl | rfl | rfl := h <;> simp only [UInt8.toNat_ofNat'] <;> omega
  · obtain rfl | rfl | rfl | rfl := h <;> simp only [UInt8.toNat_ofNat'] <;> omega

theorem utf8EncodeChar_of_lt (hc : c.val.toNat < 128) :
    String.utf8EncodeChar c = [c.toUInt8] :=
  String.utf8EncodeChar_eq_singleton (Char.utf8Size_eq_one_iff.2 (Nat.le_of_lt_succ hc))

/-- A byte below 128 is all there is of its character. -/
theorem eq_of_mem_utf8EncodeChar (hd : d.val.toNat < 128)
    (h : d.toUInt8 ∈ String.utf8EncodeChar c) : c = d := by
  have hbyte {c : Char} (hc : c.val.toNat < 128) : c.toUInt8.toNat = c.val.toNat := by
    rw [Char.toUInt8, UInt32.toNat_toUInt8]
    exact Nat.mod_eq_of_lt (by omega)
  have hc : c.val.toNat < 128 := by
    by_contra hc
    have hle := le_of_mem_utf8EncodeChar (by omega) h
    rw [hbyte hd] at hle
    omega
  rw [utf8EncodeChar_of_lt hc, List.mem_singleton] at h
  apply Char.ext
  apply UInt32.toNat.inj
  rw [← hbyte hc, ← hbyte hd, h]

theorem getUTF8Byte_eq (hs : s.toList = a ++ c :: r) (hc : c.val.toNat < 128) :
    s.getUTF8Byte ⟨utf8Length a⟩ (utf8Length_lt hs) = c.toUInt8 := by
  have hmem := getUTF8Byte_mem hs c.utf8Size_pos
  rwa [utf8EncodeChar_of_lt hc, List.mem_singleton] at hmem

/-! ### Slices of a text -/

theorem exists_pos? (hs : s.toList = a ++ r) :
    ∃ p, s.pos? ⟨utf8Length a⟩ = some p ∧ p.Splits (.ofList a) (.ofList r) := by
  have happend : s = .ofList a ++ .ofList r := by
    rw [← String.ofList_append, ← hs, String.ofList_toList]
  have hend : (⟨utf8Length a⟩ : String.Pos.Raw) = (String.ofList a).rawEndPos := by
    apply String.Pos.Raw.ext
    rw [String.byteIdx_rawEndPos, utf8ByteSize_ofList]
  have hvalid : (⟨utf8Length a⟩ : String.Pos.Raw).IsValid s :=
    String.Pos.Raw.isValid_iff_exists_append.2 ⟨_, _, happend, hend⟩
  rw [String.pos?, String.Slice.pos?, dif_pos (by simpa using hvalid)]
  exact ⟨_, rfl, happend, hend⟩

theorem sliceFrom?_eq (hs : s.toList = a ++ r) :
    sliceFrom? s (utf8Length a) = some (.ofList r) := by
  obtain ⟨p, hp, h⟩ := exists_pos? hs
  rw [sliceFrom?, hp, Option.map_some, h.copy_sliceFrom_eq]

theorem sliceTo?_eq (hs : s.toList = a ++ r) : sliceTo? s (utf8Length a) = some (.ofList a) := by
  obtain ⟨p, hp, h⟩ := exists_pos? hs
  rw [sliceTo?, hp, Option.map_some, h.copy_sliceTo_eq]

end Grok.Text
