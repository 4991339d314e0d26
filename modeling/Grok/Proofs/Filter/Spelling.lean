import Mathlib
import Grok.Proofs.Filter.Fields
/-!
Spellings of field names. Names with one key path lead to one place, but the overwrite list and the
rule for groups without part go by the names as they are written. Main statement: fields can be
spelled anew exactly as far as these two rules do not notice it.
-/
namespace Grok

open Event (keyPath Apart)

/-- Captures that put the same value in the same place. -/
structure Capture.Respelled (c d : Capture) : Prop where
  path : keyPath c.field = keyPath d.field
  value : c.value = d.value

theorem Capture.Respelled.isEmpty {c d : Capture} (h : c.Respelled d) : c.isEmpty = d.isEmpty := by
  rw [Capture.isEmpty, h.value, Capture.isEmpty]

theorem Value.ne_array_pair (v w : Value) : v ≠ .array [w, v] := by
  intro h
  have hsize := congrArg sizeOf h
  simp only [Value.array.sizeOf_spec, List.cons.sizeOf_spec, List.nil.sizeOf_spec] at hsize
  omega

namespace Event

variable {e : Event} {n m : String} {v : Value} {names : List String}

/-- No field has two spellings. A name without keys names no field. -/
def OneSpelling (names : List String) : Prop :=
  ∀ n ∈ names, ∀ m ∈ names, keyPath n = keyPath m → keyPath n ≠ [] → n = m

instance (names : List String) : Decidable (OneSpelling names) :=
  inferInstanceAs (Decidable (∀ _ ∈ _, ∀ _ ∈ _, _))

/-- Where fields have one spelling, names can be looked for by their paths. -/
theorem OneSpelling.mem_iff (h : OneSpelling names) (hn : n ∈ names) (hp : keyPath n ≠ [])
    {some : List String} (hs : some ⊆ names) : n ∈ some ↔ keyPath n ∈ some.map keyPath := by
  refine ⟨List.mem_map_of_mem, fun hm => ?_⟩
  obtain ⟨m, hm, hpath⟩ := List.mem_map.1 hm
  rwa [h n hn m (hs hm) hpath.symm hp]

theorem get_respelled (h : keyPath n = keyPath m) : e.get n = e.get m := by
  rw [get, h, get]

theorem set_respelled (h : keyPath n = keyPath m) : e.set n v = e.set m v := by
  rw [set, h, set]

theorem merge_respelled (h : keyPath n = keyPath m) : e.merge n v = e.merge m v := by
  rw [merge, getField, get_respelled h, set_respelled h, merge, getField]

theorem not_apart_self (p : List String) : ¬ Apart p p := fun h => h.1 (List.prefix_refl p)

instance : Std.Symm Apart := ⟨fun _ _ => Apart.symm⟩

end Event

namespace Filter

open Event (OneSpelling)

variable {o o' : Options} {e : Event} {c d : Capture} {cs ds : List Capture} {names : List String}
  {name name' : String}

/-- The same is done with two captures: both are left out, put in place, or joined to what is
there. -/
def Alike (o : Options) (cs : List Capture) (o' : Options) (ds : List Capture) (c d : Capture) :
    Prop :=
  keyPath c.field ≠ [] → keeps o cs c = keeps o' ds d ∧
    (keeps o cs c → (c.field ∈ o.overwrite ↔ d.field ∈ o'.overwrite))

/-- The names of the fields with a group that took part in the match. -/
def partakers (cs : List Capture) : List String := (cs.filter (·.value.isSome)).map (·.field)

theorem overwrites_eq (h : name ∈ o.overwrite ↔ name' ∈ o'.overwrite) :
    o.overwrites name = o'.overwrites name' := by
  rw [Options.overwrites, Options.overwrites, Bool.eq_iff_iff, List.contains_iff_mem,
    List.contains_iff_mem, h]

theorem mem_partakers_iff : name ∈ partakers cs ↔ ∃ c ∈ cs, c.field = name ∧ c.value ≠ none := by
  simp only [partakers, List.mem_map, List.mem_filter, Option.isSome_iff_ne_none, and_assoc,
    and_comm (a := Capture.value _ ≠ none)]

theorem keeps_eq_true_iff : keeps o cs c ↔
    (c.value = none → c.field ∉ partakers cs) ∧ (c.isEmpty → o.keepEmpty) := by
  have hany : (cs.any fun d => d.field == c.field && d.value.isSome) ↔ c.field ∈ partakers cs := by
    simp [mem_partakers_iff, Option.isSome_iff_ne_none]
  rw [← hany, keeps]
  cases c.value <;> cases c.isEmpty <;> simp

/-! ### The same done with each -/

theorem write_respelled (h : c.Respelled d)
    (ho : c.field ∈ o.overwrite ↔ d.field ∈ o'.overwrite) (e : Event) :
    write o e c = write o' e d := by
  rw [write, write, overwrites_eq ho, h.value, Event.set_respelled h.path,
    Event.merge_respelled h.path]

theorem Alike.step (h : Alike o cs o' ds c d) (hc : c.Respelled d) (e : Event) :
    (if keeps o cs c then write o e c else e) = if keeps o' ds d then write o' e d else e := by
  by_cases hp : keyPath c.field = []
  · rw [write_of_keyPath_eq_nil hp, write_of_keyPath_eq_nil (hc.path ▸ hp), ite_self, ite_self]
  · obtain ⟨hk, ho⟩ := h hp
    rw [← hk]
    split
    · next hkept => exact write_respelled hc (ho hkept) e
    · rfl

theorem foldl_respelled {all all' : List Capture} (hc : cs.Forall₂ Capture.Respelled ds)
    (ha : cs.Forall₂ (Alike o all o' all') ds) (e : Event) :
    cs.foldl (fun e c => if keeps o all c then write o e c else e) e =
      ds.foldl (fun e d => if keeps o' all' d then write o' e d else e) e := by
  induction hc generalizing e with
  | nil => rfl
  | cons hcd _ ih =>
    cases ha with
    | cons ha has => rw [List.foldl_cons, List.foldl_cons, ha.step hcd, ih has]

theorem applyCaptures_of_alike (hc : cs.Forall₂ Capture.Respelled ds)
    (ha : cs.Forall₂ (Alike o cs o' ds) ds) (e : Event) :
    applyCaptures o e cs = applyCaptures o' e ds := by
  rw [applyCaptures, List.foldl_filter, foldl_respelled hc ha, applyCaptures, List.foldl_filter]

/-! ### One spelling -/

theorem map_keyPath_respelled (hc : cs.Forall₂ Capture.Respelled ds) :
    cs.map (keyPath ·.field) = ds.map (keyPath ·.field) := by
  induction hc with
  | nil => rfl
  | cons h _ ih => rw [List.map_cons, List.map_cons, h.path, ih]

theorem map_keyPath_partakers (hc : cs.Forall₂ Capture.Respelled ds) :
    (partakers cs).map keyPath = (partakers ds).map keyPath := by
  induction hc with
  | nil => rfl
  | cons h _ ih =>
    simp only [partakers, List.filter_cons, h.value] at ih ⊢
    split
    · simp only [List.map_cons, h.path, ih]
    · exact ih

theorem partakers_subset : partakers cs ⊆ o.overwrite ++ cs.map (·.field) := by
  intro n hn
  obtain ⟨c, hc, rfl⟩ := List.mem_map.1 hn
  exact List.mem_append_right _ (List.mem_map_of_mem (List.mem_of_mem_filter hc))

theorem alike_of_oneSpelling (hn : o.overwrite.map keyPath = o'.overwrite.map keyPath)
    (hk : o.keepEmpty = o'.keepEmpty) (hc : cs.Forall₂ Capture.Respelled ds)
    (h : OneSpelling (o.overwrite ++ cs.map (·.field)))
    (h' : OneSpelling (o'.overwrite ++ ds.map (·.field))) (hmem : (c, d) ∈ cs.zip ds) :
    Alike o cs o' ds c d := by
  intro hp
  have hcd := List.forall₂_zip hc hmem
  obtain ⟨hcmem, hdmem⟩ := List.of_mem_zip hmem
  have hm : c.field ∈ o.overwrite ++ cs.map (·.field) :=
    List.mem_append_right _ (List.mem_map_of_mem hcmem)
  have hm' : d.field ∈ o'.overwrite ++ ds.map (·.field) :=
    List.mem_append_right _ (List.mem_map_of_mem hdmem)
  have hp' : keyPath d.field ≠ [] := hcd.path ▸ hp
  constructor
  · rw [Bool.eq_iff_iff, keeps_eq_true_iff, keeps_eq_true_iff, h.mem_iff hm hp partakers_subset,
      h'.mem_iff hm' hp' partakers_subset, map_keyPath_partakers hc, hcd.path, hcd.value,
      hcd.isEmpty, hk]
  · intro _
    rw [h.mem_iff hm hp (List.subset_append_left ..),
      h'.mem_iff hm' hp' (List.subset_append_left ..), hn, hcd.path]

/-! ### Where a spelling is noticed -/

theorem keeps_of_pairwise (h : (cs.map (keyPath ·.field)).Pairwise Apart) (hc : c ∈ cs) :
    keeps o cs c ↔ (c.isEmpty → o.keepEmpty) := by
  rw [keeps_eq_true_iff, and_iff_right]
  intro hv hp
  obtain ⟨d, hd, hfield⟩ := List.mem_map.1 hp
  obtain ⟨hd, hsome⟩ := List.mem_filter.1 hd
  have hne : d ≠ c := by
    rintro rfl
    rw [hv] at hsome
    cases hsome
  have hapart := (List.pairwise_map.1 h).forall hd hc hne
  rw [hfield] at hapart
  exact Event.not_apart_self _ hapart

/-- What is captured apart from everything else changes its field once. -/
theorem get_applyCaptures_of_pairwise (h : (cs.map (keyPath ·.field)).Pairwise Apart)
    (hc : c ∈ cs) (hk : keeps o cs c) (hp : keyPath c.field ≠ []) (e : Event) :
    (applyCaptures o e cs).get c.field = c.change o c.field (e.get c.field) := by
  obtain ⟨before, after, hcs⟩ := List.append_of_mem hc
  rw [hcs, List.map_append, List.map_cons, List.pairwise_append, List.pairwise_cons] at h
  obtain ⟨-, ⟨hafter, -⟩, hbefore⟩ := h
  rw [applyCaptures]
  generalize keeps o cs = keep at hk ⊢
  rw [hcs, List.filter_append, List.filter_cons_of_pos hk, List.foldl_append, List.foldl_cons,
    get_foldl_write_of_apart, get_write_self hp, get_foldl_write_of_apart]
  · intro d hd
    have hd := List.mem_of_mem_filter hd
    exact (hbefore _ (List.mem_map_of_mem hd) _ List.mem_cons_self).symm
  · intro d hd
    exact hafter _ (List.mem_map_of_mem (List.mem_of_mem_filter hd))

/-- Whether a field is overwritten shows where it holds something. -/
theorem change_eq_iff (h : c.Respelled d) :
    c.change o c.field (some (.bool true)) = d.change o' d.field (some (.bool true)) ↔
      (c.field ∈ o.overwrite ↔ d.field ∈ o'.overwrite) := by
  have hchange (o : Options) (c : Capture) : c.change o c.field (some (.bool true)) =
      if o.overwrites c.field then some (c.value.getD .null)
      else some (.array [.bool true, c.value.getD .null]) := rfl
  rw [hchange, hchange, h.value]
  by_cases hc : c.field ∈ o.overwrite <;> by_cases hd : d.field ∈ o'.overwrite <;>
    simp [Options.overwrites, hc, hd, Value.ne_array_pair, (Value.ne_array_pair _ _).symm]

theorem mem_overwrite_iff_of_applyCaptures (hc : cs.Forall₂ Capture.Respelled ds)
    (hk : o.keepEmpty = o'.keepEmpty) (h : (cs.map (keyPath ·.field)).Pairwise Apart)
    (he : ∀ e, applyCaptures o e cs = applyCaptures o' e ds) (hmem : (c, d) ∈ cs.zip ds)
    (hkept : keeps o cs c) (hp : keyPath c.field ≠ []) :
    c.field ∈ o.overwrite ↔ d.field ∈ o'.overwrite := by
  have hcd := List.forall₂_zip hc hmem
  obtain ⟨hcmem, hdmem⟩ := List.of_mem_zip hmem
  have h' : (ds.map (keyPath ·.field)).Pairwise Apart := map_keyPath_respelled hc ▸ h
  have hkept' : keeps o' ds d := by
    rwa [keeps_of_pairwise h' hdmem, ← hcd.isEmpty, ← hk, ← keeps_of_pairwise h hcmem]
  have hp' : keyPath d.field ≠ [] := hcd.path ▸ hp
  -- A record that holds something at the field shows what is done with the capture.
  have hstored := Event.get_set_self (e := .empty) (v := .bool true) hp
  have hstored' := (Event.get_respelled hcd.path).symm.trans hstored
  generalize Event.empty.set c.field (.bool true) = e at hstored hstored'
  have hget : (applyCaptures o e cs).get c.field = (applyCaptures o' e ds).get d.field := by
    rw [he, Event.get_respelled hcd.path]
  rw [get_applyCaptures_of_pairwise h hcmem hkept hp,
    get_applyCaptures_of_pairwise h' hdmem hkept' hp', hstored, hstored'] at hget
  exact (change_eq_iff hcd).1 hget

theorem applyCaptures_of_pairwise (hc : cs.Forall₂ Capture.Respelled ds)
    (hk : o.keepEmpty = o'.keepEmpty) (h : (cs.map (keyPath ·.field)).Pairwise Apart)
    (ho : cs.Forall₂ (fun c d => keeps o cs c → keyPath c.field ≠ [] →
      (c.field ∈ o.overwrite ↔ d.field ∈ o'.overwrite)) ds) (e : Event) :
    applyCaptures o e cs = applyCaptures o' e ds := by
  have h' : (ds.map (keyPath ·.field)).Pairwise Apart := map_keyPath_respelled hc ▸ h
  refine applyCaptures_of_alike hc (List.forall₂_iff_zip.2 ⟨hc.length_eq, fun hmem hp => ?_⟩) e
  obtain ⟨hcmem, hdmem⟩ := List.of_mem_zip hmem
  refine ⟨?_, fun hkept => List.forall₂_zip ho hmem hkept hp⟩
  rw [Bool.eq_iff_iff, keeps_of_pairwise h hcmem, keeps_of_pairwise h' hdmem,
    (List.forall₂_zip hc hmem).isEmpty, hk]

theorem change_none_ne {stored : Option Value} (h : stored ≠ some .null) :
    Capture.change o name stored ⟨name, none⟩ ≠ stored := by
  dsimp only [Capture.change, Option.getD_none]
  split
  · exact h.symm
  · obtain _ | (_ | _ | _ | _ | _ | vs | _) := stored
    · nofun
    · exact absurd rfl h
    all_goals simp

theorem applyCaptures_append_none (hk : o.keepEmpty = true) (e : Event) (cs : List Capture)
    (name : String) : applyCaptures o e (cs ++ [⟨name, none⟩]) =
      if name ∈ partakers cs then applyCaptures o e cs
      else write o (applyCaptures o e cs) ⟨name, none⟩ := by
  have hpart : partakers (cs ++ [⟨name, none⟩]) = partakers cs := by simp [partakers]
  have hkeeps (c : Capture) : keeps o (cs ++ [⟨name, none⟩]) c = keeps o cs c := by
    rw [Bool.eq_iff_iff, keeps_eq_true_iff, keeps_eq_true_iff, hpart]
  have hlast : keeps o cs ⟨name, none⟩ ↔ name ∉ partakers cs := by simp [keeps_eq_true_iff, hk]
  rw [applyCaptures, List.filter_append, funext hkeeps, List.foldl_append, ← applyCaptures]
  by_cases hn : name ∈ partakers cs
  · rw [if_pos hn, List.filter_cons_of_neg (by simpa [hlast] using hn)]
    rfl
  · rw [if_neg hn, List.filter_cons_of_pos (hlast.2 hn)]
    rfl

/-- A group without part makes way for those of its name alone. -/
theorem applyCaptures_append_none_iff (hk : o.keepEmpty = true) (hp : keyPath name ≠ [])
    (hnull : (applyCaptures o e cs).get name ≠ some .null) :
    applyCaptures o e (cs ++ [⟨name, none⟩]) = applyCaptures o e cs ↔ name ∈ partakers cs := by
  rw [applyCaptures_append_none hk]
  refine ⟨fun h => ?_, fun h => if_pos h⟩
  by_contra hn
  rw [if_neg hn] at h
  have hget := congrArg (Event.get · name) h
  exact change_none_ne hnull ((get_write_self (c := ⟨name, none⟩) hp _).symm.trans hget)

/-- Fields spelled anew, in the overwrite list and in the captures of a match, change no record as
long as the same is done with each capture, as it is where every field has one spelling. Where the
captures are apart from each other, that is the only way to change none: each field that a kept
capture is for is overwritten by its new name if and only if it was by its old one. A group without
part makes way for a group of its own name, but for none of another spelling. -/
theorem applyCaptures_respelled (hn : o.overwrite.map keyPath = names.map keyPath)
    (hc : cs.Forall₂ Capture.Respelled ds) :
    let o' := { o with overwrite := names }
    (cs.Forall₂ (Alike o cs o' ds) ds → ∀ e, applyCaptures o e cs = applyCaptures o' e ds) ∧
    (OneSpelling (o.overwrite ++ cs.map (·.field)) → OneSpelling (names ++ ds.map (·.field)) →
      ∀ e, applyCaptures o e cs = applyCaptures o' e ds) ∧
    ((cs.map (keyPath ·.field)).Pairwise Apart →
      ((∀ e, applyCaptures o e cs = applyCaptures o' e ds) ↔
        cs.Forall₂ (fun c d => keeps o cs c → keyPath c.field ≠ [] →
          (c.field ∈ o.overwrite ↔ d.field ∈ names)) ds)) ∧
    (o.keepEmpty = true → ∀ e name, keyPath name ≠ [] →
      (applyCaptures o e cs).get name ≠ some .null →
      (applyCaptures o e (cs ++ [⟨name, none⟩]) = applyCaptures o e cs ↔
        ∃ c ∈ cs, c.field = name ∧ c.value ≠ none)) := by
  intro o'
  refine ⟨applyCaptures_of_alike hc, fun h h' => applyCaptures_of_alike hc ?_, fun h => ?_, ?_⟩
  · exact List.forall₂_iff_zip.2 ⟨hc.length_eq, alike_of_oneSpelling hn rfl hc h h'⟩
  · have hk : o.keepEmpty = o'.keepEmpty := rfl
    refine ⟨fun he => List.forall₂_iff_zip.2 ⟨hc.length_eq, ?_⟩,
      applyCaptures_of_pairwise hc hk h⟩
    exact mem_overwrite_iff_of_applyCaptures hc hk h he
  · intro hk e name hp hnull
    rw [applyCaptures_append_none_iff hk hp hnull, mem_partakers_iff]

theorem applyCaptures_respelled_brackets :
    let o : Options := { Options.initial with overwrite := ["message"] }
    let cs : List Capture := [⟨"message", some (.string "b")⟩, ⟨"[a][b]", some (.int 2)⟩]
    let ds : List Capture := [⟨"[message]", some (.string "b")⟩, ⟨"[a][][b]", some (.int 2)⟩]
    ∀ e, applyCaptures o e cs = applyCaptures { o with overwrite := ["[message]"] } e ds := by
  intro o cs ds
  have hc : cs.Forall₂ Capture.Respelled ds :=
    .cons ⟨by decide, rfl⟩ (.cons ⟨by decide, rfl⟩ .nil)
  exact (applyCaptures_respelled (by decide) hc).2.1 (by decide) (by decide)

/-- One spelling in the overwrite list and another in a capture are two fields to the list, and two
spellings in the captures are two fields to the rule for groups without part. -/
theorem exists_spelling_noticed :
    (∃ o e c d, Capture.Respelled c d ∧
      (applyCaptures o e [c]).get "message" = some (.string "b") ∧
      (applyCaptures o e [d]).get "message" = some (.array [.string "a", .string "b"])) ∧
    ∃ o e b c d, Capture.Respelled c d ∧
      (applyCaptures o e [b, c]).get "message" = some (.string "b") ∧
      (applyCaptures o e [b, d]).get "message" = some (.array [.string "b", .null]) := by
  constructor
  · exact ⟨{ Options.initial with overwrite := ["message"] }, .withMessage "a",
      ⟨"message", some (.string "b")⟩, ⟨"[message]", some (.string "b")⟩, ⟨by decide, rfl⟩,
      rfl, rfl⟩
  · exact ⟨{ Options.initial with keepEmpty := true }, .empty, ⟨"message", some (.string "b")⟩,
      ⟨"message", none⟩, ⟨"[message]", none⟩, ⟨by decide, rfl⟩, rfl, rfl⟩

end Filter

end Grok
