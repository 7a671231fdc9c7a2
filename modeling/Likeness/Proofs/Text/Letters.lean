import Likeness.Proofs.Text.CharSet
import Likeness.Text.Letters

/-!
# Blanks are neither letters nor numbers

The tables of blanks, letters and numbers are compared range by range (`CharSet.Apart`). A blank is on
neither of the other two tables, and among ASCII it is neither a letter nor a digit
(`isAlphabetic_of_isBlank`, `isNumeric_of_isBlank`).
-/

namespace Likeness.Text

/-! ### Tables -/

theorem blank_apart_alphabetic : CharSet.Apart blank alphabetic := by decide +kernel

theorem blank_apart_numeric : CharSet.Apart blank numeric := by decide +kernel

/-! ### ASCII -/

theorem isAlpha_iff {c : Char} : c.isAlpha = true ↔
    (0x41 ≤ c.toNat ∧ c.toNat ≤ 0x5A) ∨ (0x61 ≤ c.toNat ∧ c.toNat ≤ 0x7A) := by
  have hupper : c.isUpper = true ↔ 0x41 ≤ c.toNat ∧ c.toNat ≤ 0x5A := decide_eq_true_iff
  have hlower : c.isLower = true ↔ 0x61 ≤ c.toNat ∧ c.toNat ≤ 0x7A :=
    Bool.and_eq_true_iff.trans (and_congr decide_eq_true_iff decide_eq_true_iff)
  exact Bool.or_eq_true_iff.trans (or_congr hupper hlower)

theorem isDigit_iff {c : Char} : c.isDigit = true ↔ 0x30 ≤ c.toNat ∧ c.toNat ≤ 0x39 :=
  Bool.and_eq_true_iff.trans (and_congr decide_eq_true_iff decide_eq_true_iff)

/-- The ASCII blanks come before the digits and the letters. -/
theorem toNat_of_isBlank {c : Char} (hlow : c.toNat < 0x80) (hc : isBlank c = true) : c.toNat ≤ 0x20 := by
  rw [isBlank, if_pos hlow] at hc
  rcases Bool.or_eq_true_iff.1 hc with hspace | hcontrol
  · obtain rfl := eq_of_beq hspace
    decide
  · obtain ⟨-, hle⟩ := Bool.and_eq_true_iff.1 hcontrol
    have := of_decide_eq_true hle
    omega

/-! ### Blanks -/

theorem isAlphabetic_of_isBlank {c : Char} (hc : isBlank c = true) : isAlphabetic c = false := by
  by_cases hlow : c.toNat < 0x80
  · have hsmall := toNat_of_isBlank hlow hc
    rw [isAlphabetic, if_pos hlow]
    by_contra h
    have := isAlpha_iff.1 (by simpa using h)
    omega
  · rw [isBlank, if_neg hlow] at hc
    rw [isAlphabetic, if_neg hlow]
    exact blank_apart_alphabetic.contains_eq_false hc

theorem isNumeric_of_isBlank {c : Char} (hc : isBlank c = true) : isNumeric c = false := by
  by_cases hlow : c.toNat < 0x80
  · have hsmall := toNat_of_isBlank hlow hc
    rw [isNumeric, if_pos hlow]
    by_contra h
    have := isDigit_iff.1 (by simpa using h)
    omega
  · rw [isBlank, if_neg hlow] at hc
    rw [isNumeric, if_neg hlow]
    exact blank_apart_numeric.contains_eq_false hc

end Likeness.Text
