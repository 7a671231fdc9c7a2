import Mathlib.Tactic.Common
import Likeness.Settings.Basic

/-!
# Settings that are accepted

Settings are accepted exactly if their policy has no fault and none of their other options is zero
(`check_eq_ok_iff`). Then each stage accepts the options that are derived for it.
-/

namespace Likeness

/-! ### Checks one after the other -/

section Checks

variable {ε ε' β γ : Type}

theorem mapError_bind_eq_ok {x : Except ε Unit} {f : ε → ε'} {next : Unit → Except ε' γ} {c : γ} :
    (x.mapError f >>= next) = .ok c ↔ x = .ok () ∧ next () = .ok c := by
  cases x <;> simp [Except.mapError, bind, Except.bind]

/-- A check that fails on `p` and else goes on passes if `p` does not hold and what follows passes. -/
theorem ite_throw_bind_eq_ok {p : Prop} [Decidable p] {e : ε} {next : Except ε γ} {c : γ} :
    (if p then throw e >>= fun _ : β => next else next) = .ok c ↔ ¬ p ∧ next = .ok c := by
  by_cases hp : p <;> simp [hp, throw, throwThe, MonadExceptOf.throw, bind, Except.bind]

theorem ite_throw_eq_ok {p : Prop} [Decidable p] {e : ε} {b : β} :
    (if p then throw e else pure b : Except ε β) = .ok b ↔ ¬ p := by
  by_cases hp : p <;> simp [hp, throw, throwThe, MonadExceptOf.throw, pure, Except.pure]

end Checks

/-! ### Options of the stages -/

namespace Settings

variable {α : Type} (s : Settings α)

theorem fingerprintOptions_check_eq_ok (hk : s.k ≠ 0) (hw : s.w ≠ 0) : s.fingerprintOptions.check = .ok () := by
  have hk : ¬ s.k < 1 := by omega
  have hw : ¬ s.w < 1 := by omega
  simp [fingerprintOptions, Fingerprint.Options.check, hk, hw]

theorem parseOptions_check_eq_ok_iff : s.parseOptions.check = .ok () ↔ s.maxDepth ≠ 0 := by
  simp [parseOptions, Parse.Options.check]

theorem overlapOptions_check_eq_ok (h : s.groupSize ≠ 0) : s.overlapOptions.check = .ok () := by
  have hmetric : (s.overlapOptions.metric == .ngramJaccard 0) = false := by
    cases hm : s.metric with
    | lcs =>
      simp only [overlapOptions, hm]
      rfl
    | ngramJaccard =>
      simp only [overlapOptions, hm]
      exact (beq_eq_false_iff_ne.2 h : (s.groupSize == 0) = false)
  have hversion : (s.overlapOptions.version == 0) = false := rfl
  have hfallback : (s.overlapOptions.fallback == 0) = false := beq_eq_false_iff_ne.2 h
  simp [Overlap.Options.check, hversion, hmetric, hfallback]

end Settings

/-! ### All options -/

variable {α : Type} [Number α]

theorem Decision.Policy.check_eq_ok_iff (p : Policy α) : p.check = .ok () ↔ p.fault? = none := by
  unfold check
  cases p.fault? <;> simp

theorem Settings.check_eq_ok_iff (s : Settings α) : s.check = .ok () ↔
    s.policy.fault? = none ∧ s.k ≠ 0 ∧ s.w ≠ 0 ∧ s.groupSize ≠ 0 ∧ s.maxDepth ≠ 0 ∧ s.maxBytes ≠ 0 ∧
      s.workers ≠ some 0 := by
  unfold Settings.check
  simp only [mapError_bind_eq_ok, ite_throw_bind_eq_ok, ite_throw_eq_ok, beq_iff_eq,
    Decision.Policy.check_eq_ok_iff, parseOptions_check_eq_ok_iff]
  constructor
  · rintro ⟨hpolicy, hk, hw, -, hgroup, hdepth, -, hbytes, hworkers⟩
    exact ⟨hpolicy, hk, hw, hgroup, hdepth, hbytes, hworkers⟩
  · rintro ⟨hpolicy, hk, hw, hgroup, hdepth, hbytes, hworkers⟩
    exact ⟨hpolicy, hk, hw, s.fingerprintOptions_check_eq_ok hk hw, hgroup, hdepth,
      s.overlapOptions_check_eq_ok hgroup, hbytes, hworkers⟩

theorem Settings.default_check : (default : Settings Rat).check = .ok () := by
  refine (check_eq_ok_iff _).2 ⟨?_, ?_⟩ <;> decide +kernel

end Likeness
