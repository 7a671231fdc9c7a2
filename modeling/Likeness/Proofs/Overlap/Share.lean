import Mathlib.Data.Set.Card
import Likeness.Proofs.Overlap.Metric

/-!
# What an overlap is a share of

The groups of a sequence are a set, in which neither their order nor their number shows (`groupSet`). An overlap by
groups is the share of the common groups of two sequences in all their groups (`overlap_groups`).

`overlap_share` tells of every overlap what its counts are, and when it is nothing and when it is whole.
-/

namespace Likeness.Overlap

open Std (HashSet)

/-! ### Ratios that are nothing -/

theorem Ratio.value_of_whole_eq_zero {β : Type} [Number β] {r : Ratio} (hwhole : r.whole = 0) : (r.value : β) = 0 := by
  rw [value, hwhole]
  rfl

theorem Ratio.value_eq_zero_iff {r : Ratio} (hwhole : 0 < r.whole) : (r.value : ℚ) = 0 ↔ r.part = 0 := by
  have hne : (r.whole : ℚ) ≠ 0 := Nat.cast_ne_zero.2 (Nat.ne_of_gt hwhole)
  rw [value_rat, if_neg (Nat.ne_of_gt hwhole), div_eq_zero_iff, or_iff_left hne, Nat.cast_eq_zero]

theorem overlap_of_nil {α : Type} [BEq α] [Hashable α] {a b : List α} (h : a = [] ∨ b = []) (m : Metric) :
    overlap a b m = .zero := by
  rcases h with rfl | rfl <;> simp [overlap]

/-! ### Groups as a set -/

section Groups

variable {α : Type}

/-- The runs of `n` neighbours of a sequence, or the whole of a shorter one. A size of 0 counts as 1. -/
def groupSet (n : Nat) (xs : List α) : Set (List α) :=
  {g | if xs.length < max n 1 then g = xs else g.length = max n 1 ∧ g <:+: xs}

theorem getElem_tails {xs : List α} {i : Nat} (hi : i < (groups.tails xs).length) :
    (groups.tails xs)[i] = xs.drop i := by
  induction xs generalizing i with
  | nil =>
    obtain rfl : i = 0 := by simpa [groups.tails] using hi
    rfl
  | cons x xs ih =>
    cases i with
    | zero => rfl
    | succ i => exact ih (by simpa [groups.tails] using hi)

theorem groups_of_le {n : Nat} {xs : List α} (hn : n ≤ xs.length) :
    groups n xs = (List.range (xs.length + 1 - n)).map fun i => (xs.drop i).take n := by
  rw [groups, if_neg (Nat.not_lt.2 hn)]
  refine List.ext_getElem ?_ fun i hi _ => ?_
  · rw [List.length_zipWith, List.length_map, List.length_range, length_tails]
    omega
  · rw [List.getElem_zipWith, List.getElem_map, List.getElem_range, getElem_tails]

theorem mem_groups {n : Nat} {xs g : List α} : g ∈ groups (max n 1) xs ↔ g ∈ groupSet n xs := by
  by_cases hn : xs.length < max n 1
  · simp [groups, groupSet, hn]
  · have hn' : max n 1 ≤ xs.length := Nat.not_lt.1 hn
    simp only [groupSet, Set.mem_ofPred_eq, if_neg hn, groups_of_le hn', List.mem_map, List.mem_range]
    constructor
    · rintro ⟨i, hi, rfl⟩
      refine ⟨by simp; omega, ?_⟩
      exact (List.take_prefix _ _).isInfix.trans (List.drop_suffix i xs).isInfix
    · rintro ⟨hlength, before, after, rfl⟩
      refine ⟨before.length, by simp; omega, ?_⟩
      rw [List.append_assoc, List.drop_left, ← hlength, List.take_left]

theorem finite_groupSet (n : Nat) (xs : List α) : (groupSet n xs).Finite :=
  (groups (max n 1) xs).finite_toSet.subset fun _ hg => mem_groups.2 hg

end Groups

/-! ### Shares of sets -/

section Sets

variable {α : Type}

/-- Two sets have as many common members as members only if they are equal. -/
theorem ncard_inter_eq_ncard_union_iff {A B : Set α} (hA : A.Finite) (hB : B.Finite) :
    (A ∩ B).ncard = (A ∪ B).ncard ↔ A = B := by
  constructor
  · intro h
    have hsub : A ∩ B ⊆ A ∪ B := Set.inter_subset_left.trans Set.subset_union_left
    have heq := Set.eq_of_subset_of_ncard_le hsub h.ge (hA.union hB)
    exact inf_eq_sup.1 heq
  · rintro rfl
    rw [Set.inter_self, Set.union_self]

theorem ncard_of_nodup {xs : List α} (h : xs.Nodup) : {x | x ∈ xs}.ncard = xs.length := by
  classical
  rw [← List.toFinset_card_of_nodup h, ← Set.ncard_coe_finset, List.coe_toFinset]

variable [BEq α] [Hashable α] [LawfulBEq α]

/-- The ratio of two lists counts the common members and all members. -/
theorem jaccard_eq (a b : List α) :
    jaccard a b = ⟨({x | x ∈ a} ∩ {x | x ∈ b}).ncard, ({x | x ∈ a} ∪ {x | x ∈ b}).ncard⟩ := by
  have hsize : ∀ l : List α, {x | x ∈ l}.ncard = (HashSet.ofList l).size := by
    intro l
    rw [← HashSet.length_toList, ← ncard_of_nodup (nodup_toList _)]
    congr 1
    ext x
    simp
  have hshared : ({x | x ∈ a} ∩ {x | x ∈ b}).ncard =
      ((HashSet.ofList a).toList.filter ((HashSet.ofList b).contains ·)).length := by
    rw [← ncard_of_nodup ((nodup_toList _).filter _)]
    congr 1
    ext x
    simp
  -- all members are those of both lists together, less the common ones
  have hall := Set.ncard_union_add_ncard_inter {x | x ∈ a} {x | x ∈ b} a.finite_toSet b.finite_toSet
  rw [hsize, hsize] at hall
  simp only [jaccard, ← hshared]
  congr 1
  omega

/-- An overlap by groups is the share of the common groups in all groups. -/
theorem overlap_groups {a b : List α} (ha : a ≠ []) (hb : b ≠ []) (n : Nat) :
    overlap a b (.ngramJaccard n) =
      ⟨(groupSet n a ∩ groupSet n b).ncard, (groupSet n a ∪ groupSet n b).ncard⟩ := by
  have hgroups : ∀ xs : List α, {g | g ∈ groups (max n 1) xs} = groupSet n xs := by
    intro xs
    ext g
    exact mem_groups
  simp only [overlap, List.isEmpty_eq_false_iff.2 ha, List.isEmpty_eq_false_iff.2 hb, Bool.or_self, Bool.false_eq_true,
    if_false, jaccard_eq, hgroups]

/-- An overlap counts as a part of a whole that is not nothing, from both sides the same; it is nothing where one side
is empty. Otherwise an overlap by subsequences is whole for equal sequences, and nothing for those without a common
element; one by groups is the share of the common groups in all groups, whole where both have the same groups, and
nothing where they have none in common. -/
theorem overlap_share (a b : List α) :
    (∀ m, overlap b a m = overlap a b m ∧ (overlap a b m).part ≤ (overlap a b m).whole ∧ 0 < (overlap a b m).whole ∧
        ((overlap a b m).value : ℚ) = (overlap a b m).part / (overlap a b m).whole) ∧
      (a = [] ∨ b = [] → ∀ m, ((overlap a b m).value : ℚ) = 0) ∧
      (a ≠ [] → b ≠ [] →
        (((overlap a b .lcs).value : ℚ) = 1 ↔ a = b) ∧ (((overlap a b .lcs).value : ℚ) = 0 ↔ a.Disjoint b) ∧
          ∀ n, ((overlap a b (.ngramJaccard n)).value : ℚ) =
              (groupSet n a ∩ groupSet n b).ncard / (groupSet n a ∪ groupSet n b).ncard ∧
            (((overlap a b (.ngramJaccard n)).value : ℚ) = 1 ↔ groupSet n a = groupSet n b) ∧
            (((overlap a b (.ngramJaccard n)).value : ℚ) = 0 ↔ groupSet n a ∩ groupSet n b = ∅)) := by
  have hwhole : ∀ m, 0 < (overlap a b m).whole := fun m => (overlap_part_le_whole a b m).2
  have hvalue : ∀ m, ((overlap a b m).value : ℚ) = (overlap a b m).part / (overlap a b m).whole := by
    intro m
    rw [Ratio.value_rat, if_neg (Nat.ne_of_gt (hwhole m))]
  refine ⟨fun m => ⟨overlap_comm b a m, (overlap_part_le_whole a b m).1, hwhole m, hvalue m⟩, ?_, ?_⟩
  · intro hnil m
    rw [hvalue, overlap_of_nil hnil]
    exact zero_div _
  · intro ha hb
    refine ⟨value_overlap_lcs_eq_one_iff (Number.fractionsWhole_rat _) ha hb le_rfl, ?_, fun n => ⟨?_, ?_, ?_⟩⟩
    · rw [Ratio.value_eq_zero_iff (hwhole _), overlap_lcs ha hb, ← commonLength_eq_zero_iff]
      exact Nat.mul_eq_zero.trans (or_iff_right two_ne_zero)
    · rw [hvalue, overlap_groups ha hb]
    · rw [Ratio.value_eq_one_iff (hwhole _), overlap_groups ha hb]
      exact ncard_inter_eq_ncard_union_iff (finite_groupSet _ a) (finite_groupSet _ b)
    · rw [Ratio.value_eq_zero_iff (hwhole _), overlap_groups ha hb]
      exact Set.ncard_eq_zero ((finite_groupSet _ a).inter_of_left _)

theorem overlap_share_repeated_pair :
    let a := [1, 2, 1, 2]
    let b := [1, 2, 1, 2, 1, 2]
    LawfulBEq Nat ∧ a ≠ [] ∧ b ≠ [] ∧ ((overlap a b .lcs).value : ℚ) ≠ 1 ∧ ((overlap a b .lcs).value : ℚ) ≠ 0 ∧
      ((overlap a b (.ngramJaccard 2)).value : ℚ) = 1 ∧ ((overlap a b (.ngramJaccard 5)).value : ℚ) = 0 ∧
      ((overlap a [] (.ngramJaccard 0)).value : ℚ) = 0 := by
  intro a b
  obtain ⟨-, -, hboth⟩ := overlap_share a b
  obtain ⟨hone, hzero, hgroups⟩ := hboth (by decide) (by decide)
  have hpairs : groupSet 2 a = groupSet 2 b := by
    have hlists : groups (max 2 1) a = [[1, 2], [2, 1], [1, 2]] ∧
        groups (max 2 1) b = [[1, 2], [2, 1], [1, 2], [2, 1], [1, 2]] := by decide
    ext g
    rw [← mem_groups, ← mem_groups, hlists.1, hlists.2]
    simp only [List.mem_cons, List.not_mem_nil]
    tauto
  have hfives : groupSet 5 a ∩ groupSet 5 b = ∅ := by
    refine Set.eq_empty_iff_forall_notMem.2 fun g ⟨ha, hb⟩ => ?_
    have hlists : groups (max 5 1) a = [a] ∧ groups (max 5 1) b = [[1, 2, 1, 2, 1], [2, 1, 2, 1, 2]] := by decide
    rw [← mem_groups, hlists.1, List.mem_singleton] at ha
    rw [← mem_groups, hlists.2, ha] at hb
    exact absurd hb (by decide)
  refine ⟨inferInstance, by decide, by decide, ?_, ?_, (hgroups 2).2.1.2 hpairs, (hgroups 5).2.2.2 hfives,
    (overlap_share a []).2.1 (.inr rfl) _⟩
  · exact fun h => absurd (hone.1 h) (by decide)
  · exact fun h => hzero.1 h (show 1 ∈ a by decide) (by decide)

end Sets

end Likeness.Overlap
