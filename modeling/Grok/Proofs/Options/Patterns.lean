import Mathlib.Data.List.Induction
import Mathlib.Data.List.Nodup
import Grok.Options.Decode
import Grok.Proofs.Expansion.Tree
/-!
The fields of options and their patterns. Main statements: no field comes twice, however the options
came about; settings bring in fields in the order in which they first mention them, and a field ends
up with the patterns of its last replacement and those that were appended since.
-/
namespace Grok

namespace Options

/-- Options that no setting has changed: the initial ones, and those that a document gives, whether
they are checked or not. -/
inductive Given : Options → Prop
  | initial : Given initial
  | entries {es : List (Document × Document)} {o : Options} :
      decodeEntries initial [] es = .ok o → Given o
  | items {ds : List Document} {o : Options} : decodeItems initial Key.all ds = .ok o → Given o
  | json {s : String} {o : Options} : ofJson s = .ok o → Given o
  | yaml {s : String} {o : Options} : ofYaml s = .ok o → Given o
  | yamlFile {tree : FileTree} {path : String} {o : Options} :
      ofYamlFile tree path = .ok o → Given o

def fieldNames (o : Options) : List String := o.patterns.map Prod.fst

def patternsOf (o : Options) (field : String) : List String :=
  (Table.get? field o.patterns).getD []

end Options

namespace Setting

/-- The field whose patterns a setting replaces or appends to. -/
def mentioned? : Setting → Option String
  | .patterns field _ | .pattern field _ => some field
  | _ => none

/-- The pattern that a setting appends to those of a field. -/
def appended? (field : String) : Setting → Option String
  | .pattern f p => if f = field then some p else none
  | _ => none

/-- What a setting makes of the patterns of a field. -/
def change (field : String) (ps : List String) (s : Setting) : List String :=
  match s with
  | .patterns f qs => if f = field then qs else ps
  | s => ps ++ (s.appended? field).toList

end Setting

/-- The patterns of a field after settings: those of its last replacement, or the earlier ones if it
is never replaced, and behind them what was appended since, in order. -/
inductive Collects (field : String) (earlier : List String) (settings : List Setting) :
    List String → Prop
  | replaced {before after : List Setting} {qs : List String} :
      settings = before ++ .patterns field qs :: after →
      (∀ qs', .patterns field qs' ∉ after) →
      Collects field earlier settings (qs ++ after.filterMap (Setting.appended? field))
  | kept : (∀ qs, .patterns field qs ∉ settings) →
      Collects field earlier settings (earlier ++ settings.filterMap (Setting.appended? field))

namespace Collects

variable {field : String} {earlier ps : List String} {settings : List Setting} {s : Setting}

theorem append (h : Collects field earlier settings ps) (hs : ∀ qs, s ≠ .patterns field qs) :
    Collects field earlier (settings ++ [s]) (ps ++ (s.appended? field).toList) := by
  have hstay {l : List Setting} (hl : ∀ qs, .patterns field qs ∉ l) (qs) :
      .patterns field qs ∉ l ++ [s] := by
    simp [hl qs, (hs qs).symm]
  have hfilter (l : List Setting) : l.filterMap (Setting.appended? field) ++
      (s.appended? field).toList = (l ++ [s]).filterMap (Setting.appended? field) := by
    rw [List.filterMap_append, List.filterMap_cons]
    cases s.appended? field <;> rfl
  cases h with
  | replaced hsplit hafter =>
    rw [List.append_assoc, hfilter]
    exact .replaced (by rw [hsplit, List.append_assoc, List.cons_append]) (hstay hafter)
  | kept hnone =>
    rw [List.append_assoc, hfilter]
    exact .kept (hstay hnone)

theorem change (h : Collects field earlier settings ps) :
    Collects field earlier (settings ++ [s]) (s.change field ps) := by
  cases s with
  | patterns f qs =>
    rw [Setting.change]
    split
    · next hf =>
      subst hf
      have hlast : Collects f earlier (settings ++ [.patterns f qs])
          (qs ++ [].filterMap (Setting.appended? f)) := .replaced rfl fun _ => List.not_mem_nil
      simpa using hlast
    · next hf =>
      have hstay := h.append (s := .patterns f qs) (by simp [hf])
      simpa [Setting.appended?] using hstay
  | _ => exact h.append nofun

end Collects

namespace Options

variable {o o₀ : Options} {field f : String} {ps : List (String × List String)}
  {make : List String → List String} {s : Setting} {settings : List Setting}

/-! ### Settings -/

theorem get?_changePatterns : Table.get? f (changePatterns field make ps) =
    if f = field then some (make ((Table.get? field ps).getD [])) else Table.get? f ps := by
  induction ps with
  | nil => simp [changePatterns, Table.get?_cons, eq_comm]
  | cons p ps ih =>
    obtain ⟨g, qs⟩ := p
    rw [changePatterns]
    by_cases hg : g = field
    · subst hg
      by_cases hf : f = g
      · simp [Table.get?_cons, hf]
      · simp [Table.get?_cons, hf, Ne.symm hf]
    · by_cases hf : f = field
      · simpa [Table.get?_cons, hg, hf] using ih
      · simp [Table.get?_cons, hg, hf, ih]

theorem map_fst_changePatterns : (changePatterns field make ps).map Prod.fst =
    if field ∈ ps.map Prod.fst then ps.map Prod.fst else ps.map Prod.fst ++ [field] := by
  induction ps with
  | nil => rfl
  | cons p ps ih =>
    obtain ⟨g, qs⟩ := p
    rw [changePatterns]
    split
    · next hg => simp [hg]
    · next hg =>
      rw [List.map_cons, ih]
      by_cases hmem : field ∈ ps.map Prod.fst
      · simp [hmem]
      · simp [hmem, Ne.symm hg]

theorem patternsOf_set : (o.set s).patternsOf field = s.change field (o.patternsOf field) := by
  cases s with
  | patterns f qs =>
    rw [set, patternsOf, get?_changePatterns, Setting.change]
    split
    · next hf => simp [hf]
    · next hf => simp [Ne.symm hf, patternsOf]
  | pattern f p =>
    rw [set, patternsOf, get?_changePatterns, Setting.change, Setting.appended?]
    · split
      · next hf => simp [hf, patternsOf]
      · next hf => simp [Ne.symm hf, patternsOf]
    · exact nofun
  | _ => exact (List.append_nil _).symm

theorem fieldNames_set : (o.set s).fieldNames = s.mentioned?.elim o.fieldNames fun f =>
    if f ∈ o.fieldNames then o.fieldNames else o.fieldNames ++ [f] := by
  cases s with
  | patterns f qs => exact map_fst_changePatterns
  | pattern f p => exact map_fst_changePatterns
  | _ => rfl

theorem nodup_set (h : o.fieldNames.Nodup) : (o.set s).fieldNames.Nodup := by
  rw [fieldNames_set]
  cases s.mentioned? with
  | none => exact h
  | some f =>
    dsimp only [Option.elim]
    split
    · exact h
    · next hf =>
      rw [← List.concat_eq_append]
      exact h.concat hf

theorem nodup_foldl_set (h : o₀.fieldNames.Nodup) (settings : List Setting) :
    (settings.foldl set o₀).fieldNames.Nodup := by
  induction settings generalizing o₀ with
  | nil => exact h
  | cons s settings ih => exact ih (nodup_set h)

theorem eraseDups_of_nodup {l : List String} (h : l.Nodup) : l.eraseDups = l := by
  induction l with
  | nil => rfl
  | cons a l ih =>
    obtain ⟨ha, hl⟩ := List.nodup_cons.1 h
    have hother : l.filter (fun b => !b == a) = l :=
      List.filter_eq_self.2 fun b hb => by simp [ne_of_mem_of_not_mem hb ha]
    rw [List.eraseDups_cons, hother, ih hl]

theorem eraseDups_concat (l : List String) (a : String) :
    (l ++ [a]).eraseDups = if a ∈ l.eraseDups then l.eraseDups else l.eraseDups ++ [a] := by
  rw [List.eraseDups_append, List.removeAll, List.filter_singleton]
  by_cases ha : a ∈ l
  · simp [ha]
  · simp [ha, List.eraseDups_cons]

/-- Fields come in the order in which they are first mentioned, behind those that were there. -/
theorem fieldNames_foldl_set (h : o₀.fieldNames.Nodup) : (settings.foldl set o₀).fieldNames =
    (o₀.fieldNames ++ settings.filterMap Setting.mentioned?).eraseDups := by
  induction settings using List.reverseRecOn with
  | nil => simpa using (eraseDups_of_nodup h).symm
  | append_singleton settings s ih =>
    rw [List.foldl_append, List.foldl_cons, List.foldl_nil, fieldNames_set, ih,
      List.filterMap_append, ← List.append_assoc, List.filterMap_cons, List.filterMap_nil]
    cases s.mentioned? with
    | none => simp
    | some f => exact (eraseDups_concat _ f).symm

/-- What is behind a field are the patterns that the settings collect for it. -/
theorem collects_foldl_set (o₀ : Options) (settings : List Setting) (field : String) :
    Collects field (o₀.patternsOf field) settings ((settings.foldl set o₀).patternsOf field) := by
  induction settings using List.reverseRecOn with
  | nil =>
    have hkept : Collects field (o₀.patternsOf field) [] (o₀.patternsOf field ++ []) :=
      .kept fun _ => List.not_mem_nil
    simpa using hkept
  | append_singleton settings s ih =>
    rw [List.foldl_append, List.foldl_cons, List.foldl_nil, patternsOf_set]
    exact ih.change

/-! ### Documents -/

theorem nodup_decodePatterns {es : List (Document × Document)}
    {earlier : List (String × List String)} (h : decodePatterns earlier es = .ok ps)
    (hearlier : (earlier.map Prod.fst).Nodup) : (ps.map Prod.fst).Nodup := by
  induction es generalizing earlier with
  | nil =>
    cases h
    exact hearlier
  | cons e es ih =>
    rw [decodePatterns] at h
    obtain ⟨field, -, h⟩ := bind_eq_ok_iff.1 h
    obtain ⟨qs, -, h⟩ := bind_eq_ok_iff.1 h
    split at h
    · cases h
    · next hnew =>
      have hfield : field ∉ earlier.map Prod.fst := by simpa using hnew
      refine ih h ?_
      rw [List.map_append, List.map_singleton, ← List.concat_eq_append]
      exact hearlier.concat hfield

theorem nodup_assign {d : Document} {key : Key} {o' : Options} (h : assign o d key = .ok o')
    (ho : o.fieldNames.Nodup) : o'.fieldNames.Nodup := by
  cases key with
  | patterns =>
    obtain ⟨es, -, h⟩ := bind_eq_ok_iff.1 h
    obtain ⟨ps, hps, h⟩ := bind_eq_ok_iff.1 h
    cases h
    exact nodup_decodePatterns hps List.nodup_nil
  | definitions =>
    obtain ⟨es, -, h⟩ := bind_eq_ok_iff.1 h
    obtain ⟨defs, -, h⟩ := bind_eq_ok_iff.1 h
    cases h
    exact ho
  | _ =>
    obtain ⟨value, -, h⟩ := bind_eq_ok_iff.1 h
    cases h
    exact ho

theorem nodup_decodeEntries {seen : List Key} {es : List (Document × Document)} {o' : Options}
    (h : decodeEntries o seen es = .ok o') (ho : o.fieldNames.Nodup) : o'.fieldNames.Nodup := by
  induction es generalizing o seen with
  | nil =>
    cases h
    exact ho
  | cons e es ih =>
    rw [decodeEntries] at h
    obtain ⟨name, -, h⟩ := bind_eq_ok_iff.1 h
    obtain ⟨key, -, h⟩ := bind_eq_ok_iff.1 h
    split at h
    · cases h
    · obtain ⟨o'', hassign, h⟩ := bind_eq_ok_iff.1 h
      exact ih h (nodup_assign hassign ho)

theorem nodup_decodeItems {keys : List Key} {ds : List Document} {o' : Options}
    (h : decodeItems o keys ds = .ok o') (ho : o.fieldNames.Nodup) : o'.fieldNames.Nodup := by
  induction ds generalizing o keys with
  | nil =>
    cases keys <;>
    · cases h
      exact ho
  | cons d ds ih =>
    cases keys with
    | nil => cases h
    | cons key keys =>
      obtain ⟨o'', hassign, h⟩ := bind_eq_ok_iff.1 h
      exact ih h (nodup_assign hassign ho)

theorem decode_of_ofReading {decode : Document → Decoded Options} {r : Reading}
    (h : ofReading decode r = .ok o) : decode r.root = .ok o := by
  obtain ⟨o', hdecoded, h⟩ := bind_eq_ok_iff.1 h
  obtain ⟨-, -, h⟩ := bind_eq_ok_iff.1 h
  cases h
  cases hroot : decode r.root with
  | error fault =>
    rw [hroot] at hdecoded
    cases hdecoded
  | ok o' =>
    rw [hroot] at hdecoded
    cases hcomplete : r.complete with
    | false =>
      rw [hcomplete] at hdecoded
      cases hdecoded
    | true =>
      rw [hcomplete] at hdecoded
      cases hdecoded
      rfl

theorem nodup_ofYaml {text : String} (h : ofYaml text = .ok o) : o.fieldNames.Nodup := by
  obtain ⟨es, -, hes⟩ := bind_eq_ok_iff.1 (decode_of_ofReading h)
  exact nodup_decodeEntries hes List.nodup_nil

theorem Given.nodup (h : o.Given) : o.fieldNames.Nodup := by
  cases h with
  | initial => exact List.nodup_nil
  | entries h => exact nodup_decodeEntries h List.nodup_nil
  | items h => exact nodup_decodeItems h List.nodup_nil
  | json h =>
    have hroot := decode_of_ofReading h
    split at hroot
    · exact nodup_decodeEntries hroot List.nodup_nil
    · exact nodup_decodeItems hroot List.nodup_nil
    · cases hroot
  | yaml h => exact nodup_ofYaml h
  | @yamlFile tree path _ h =>
    rw [ofYamlFile] at h
    cases htext : tree.readText path with
    | error detail =>
      rw [htext] at h
      cases h
    | ok text =>
      rw [htext] at h
      exact nodup_ofYaml h

/-! ### Fields and patterns -/

/-- What is listed with a field is what is behind it, if no field is listed twice. -/
theorem patternsOf_of_mem (h : o.fieldNames.Nodup) {qs : List String}
    (hmem : (field, qs) ∈ o.patterns) : o.patternsOf field = qs := by
  rw [patternsOf, Table.get?_of_mem h hmem]
  rfl

end Options

end Grok
