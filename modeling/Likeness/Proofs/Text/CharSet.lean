import Mathlib.Tactic.Common
import Likeness.Text.CharSet

/-!
# Sets of characters by their members

Bringing ranges into order and joining those that touch changes no members (`contains_normal`), so the sets
made from others have the members that they should have (`contains_append`, `contains_ofString`). Two sets
whose ranges do not meet have none in common (`Apart.contains_eq_false`).
-/

namespace Likeness.Text.CharSet

theorem contains_iff {a : CharSet} {c : Char} :
    a.contains c = true ↔ ∃ r ∈ a.ranges, r.1 ≤ c.toNat ∧ c.toNat ≤ r.2 := by
  simp [contains]

/-! ### Sets that do not meet -/

/-- No range of the one set meets a range of the other. -/
def Apart (a b : CharSet) : Prop := ∀ r ∈ a.ranges, ∀ s ∈ b.ranges, r.2 < s.1 ∨ s.2 < r.1

-- the tables have hundreds of ranges, which are compared fast by functions to `Bool`
instance (a b : CharSet) : Decidable (Apart a b) :=
  decidable_of_iff ((a.ranges.all fun r => b.ranges.all fun s => r.2.blt s.1 || s.2.blt r.1) = true)
    (by simp [Apart, Nat.blt_eq])

theorem Apart.contains_eq_false {a b : CharSet} (h : Apart a b) {c : Char} (hc : a.contains c = true) :
    b.contains c = false := by
  obtain ⟨r, hr, hlow, hhigh⟩ := contains_iff.1 hc
  by_contra hb
  obtain ⟨s, hs, hlow', hhigh'⟩ := contains_iff.1 (by simpa using hb)
  have := h r hr s hs
  omega

/-! ### Ranges in order -/

theorem head?_join (rs : List (Nat × Nat)) : (join rs).head?.map Prod.fst = rs.head?.map Prod.fst := by
  cases rs with
  | nil => rfl
  | cons r rs =>
    rw [join]
    cases join rs with
    | nil => rfl
    | cons s ss => by_cases h : s.1 ≤ r.2 + 1 <;> simp [h]

/-- Joining ranges that are sorted by their lower ends changes no members. -/
theorem contains_join {rs : List (Nat × Nat)} (h : rs.Pairwise fun r s => r.1 ≤ s.1) (c : Char) :
    contains ⟨join rs⟩ c = contains ⟨rs⟩ c := by
  induction rs with
  | nil => rfl
  | cons r rs ih =>
    obtain ⟨hfirst, hrest⟩ := List.pairwise_cons.1 h
    have ih := ih hrest
    have hhead := head?_join rs
    rw [join]
    cases hjoin : join rs with
    | nil =>
      rw [hjoin] at ih
      simp only [contains, List.any_cons, List.any_nil] at ih ⊢
      rw [← ih]
    | cons s ss =>
      rw [hjoin] at ih hhead
      -- the first range that is left begins where the first one of `rs` does
      have hle : r.1 ≤ s.1 := by
        cases rs with
        | nil => cases hhead
        | cons r' rs =>
          have hs : s.1 = r'.1 := by simpa using hhead
          have := hfirst r' List.mem_cons_self
          omega
      by_cases htouch : s.1 ≤ r.2 + 1
      · have hmember : (r.1 ≤ c.toNat ∧ c.toNat ≤ max r.2 s.2) ↔
            (r.1 ≤ c.toNat ∧ c.toNat ≤ r.2) ∨ (s.1 ≤ c.toNat ∧ c.toNat ≤ s.2) := by omega
        simp only [contains, List.any_cons] at ih ⊢
        rw [if_pos htouch, List.any_cons, ← ih, ← Bool.or_assoc]
        congr 1
        simpa [← Bool.decide_and, ← Bool.decide_or] using hmember
      · simp only [contains, List.any_cons] at ih ⊢
        rw [if_neg htouch, List.any_cons, List.any_cons, ih]

theorem contains_normal {rs : List (Nat × Nat)} {c : Char} :
    (normal rs).contains c = true ↔ ∃ r ∈ rs, r.1 ≤ c.toNat ∧ c.toNat ≤ r.2 := by
  have hsorted : (rs.mergeSort fun a b => a.1 ≤ b.1).Pairwise fun a b => decide (a.1 ≤ b.1) = true := by
    refine List.pairwise_mergeSort ?transitive ?total rs
    case transitive =>
      intro a b c hab hbc
      simp only [decide_eq_true_eq] at hab hbc ⊢
      omega
    case total =>
      intro a b
      simp only [Bool.or_eq_true, decide_eq_true_eq]
      omega
  rw [normal, contains_join (hsorted.imp of_decide_eq_true), contains_iff]
  simp only [List.mem_mergeSort]

/-! ### Sets made from others -/

@[simp] theorem contains_append {a b : CharSet} {c : Char} :
    (a ++ b).contains c = true ↔ a.contains c = true ∨ b.contains c = true := by
  have hunion : a ++ b = normal (a.ranges ++ b.ranges) := rfl
  rw [hunion, contains_normal, contains_iff, contains_iff]
  simp only [List.mem_append, or_and_right, exists_or]

@[simp] theorem contains_range {lo hi c : Char} :
    (range lo hi).contains c = true ↔ lo.toNat ≤ c.toNat ∧ c.toNat ≤ hi.toNat := by
  simp [contains_iff, range]

@[simp] theorem contains_single {a c : Char} : (single a).contains c = true ↔ c = a := by
  rw [single, contains_range, ← Char.toNat_inj]
  omega

@[simp] theorem contains_ofString {s : String} {c : Char} : (ofString s).contains c = true ↔ c ∈ s.toList := by
  rw [ofString, contains_normal]
  constructor
  · rintro ⟨r, hr, hlow, hhigh⟩
    obtain ⟨a, ha, rfl⟩ := List.mem_map.1 hr
    obtain rfl : c = a := Char.toNat_inj.1 (by omega)
    exact ha
  · intro hc
    exact ⟨_, List.mem_map.2 ⟨c, hc, rfl⟩, Nat.le_refl _, Nat.le_refl _⟩

end Likeness.Text.CharSet
