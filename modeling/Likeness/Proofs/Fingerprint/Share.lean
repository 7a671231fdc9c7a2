import Mathlib.Data.Nat.Cast.Order.Field
import Likeness.Proofs.Decimal.Fraction
import Likeness.Proofs.Fingerprint.Set
import Likeness.Proofs.Overlap.Share

/-!
# What a set of selected marks holds and shares

Of the marks with one hash a set keeps the first place (`mem_dropRepeats_iff`), and halving finds the hashes that it
holds and no others (`search_eq_true_iff`). `ofSelected_share` tells of any two sets of selected marks what they hold,
and what they share as a part of all their hashes, as a rational number and as a floating-point one.
-/

namespace Likeness.Fingerprint

/-! ### First places -/

theorem Mark.position_le_of_before {a b : Mark} (h : a.before b = true) (heq : b.hash = a.hash) :
    a.position ≤ b.position := by
  rcases Mark.before_iff.1 h with hlt | ⟨-, hle⟩
  · exact absurd heq.symm (UInt64.ne_of_lt hlt)
  · exact hle

/-- Of sorted marks those are kept that are the first of their hash. -/
theorem mem_dropRepeats_iff {ms : List Mark} (hms : ms.Pairwise fun a b => a.before b = true) {m : Mark} :
    m ∈ dropRepeats ms ↔ m ∈ ms ∧ ∀ n ∈ ms, n.hash = m.hash → m.position ≤ n.position := by
  fun_induction dropRepeats ms with
  | case1 a b rest hab ih =>
    -- the second mark has the hash of the first and does not come before it
    have heq : b.hash = a.hash := by simpa using Eq.symm (beq_iff_eq.1 hab)
    obtain ⟨ha, hrest⟩ := List.pairwise_cons.1 hms
    have hle : a.position ≤ b.position := Mark.position_le_of_before (ha b (by simp)) heq
    refine (ih (hms.sublist ((List.sublist_cons_self b rest).cons_cons a))).trans ?_
    rw [List.forall_mem_cons, List.forall_mem_cons, List.forall_mem_cons, List.mem_cons, List.mem_cons, List.mem_cons]
    constructor
    · rintro ⟨hm, hma, hmrest⟩
      exact ⟨hm.imp_right .inr, hma, fun hb => (hma (heq.symm.trans hb)).trans hle, hmrest⟩
    · rintro ⟨hm, hma, hmb, hmrest⟩
      refine ⟨?_, hma, hmrest⟩
      rcases hm with rfl | rfl | hm
      · exact .inl rfl
      · obtain ⟨hash, position⟩ := a
        obtain rfl : m.position = position := Nat.le_antisymm (hma heq.symm) hle
        obtain rfl : m.hash = hash := heq
        exact .inl rfl
      · exact .inr hm
  | case2 a b rest hab ih =>
    obtain ⟨ha, hrest⟩ := List.pairwise_cons.1 hms
    have hlater : ∀ m ∈ b :: rest, m.hash ≠ a.hash := by
      intro m hm heq
      have hb : a.hash ≤ b.hash := Mark.hash_le_of_before (ha b (by simp))
      have hbm : b.hash ≤ m.hash := by
        rcases List.mem_cons.1 hm with rfl | hm
        · exact UInt64.le_refl _
        · exact Mark.hash_le_of_before ((List.pairwise_cons.1 hrest).1 m hm)
      have hba : b.hash = a.hash := UInt64.le_antisymm (heq ▸ hbm) hb
      simp [hba] at hab
    refine List.mem_cons.trans ((or_congr_right (ih hrest)).trans ?_)
    rw [List.mem_cons (b := a), List.forall_mem_cons (a := a)]
    constructor
    · rintro (rfl | ⟨hm, hmrest⟩)
      · exact ⟨.inl rfl, fun _ => Nat.le_refl _, fun n hn => Mark.position_le_of_before (ha n hn)⟩
      · exact ⟨.inr hm, fun heq => absurd heq.symm (hlater m hm), hmrest⟩
    · rintro ⟨rfl | hm, -, hmrest⟩
      · exact .inl rfl
      · exact .inr ⟨hm, hmrest⟩
  | case3 ms hshort =>
    rcases ms with _ | ⟨a, _ | ⟨b, rest⟩⟩
    · simp
    · simp +contextual
    · exact absurd rfl (hshort a b rest)

/-! ### Searching -/

/-- The marks stand in increasing order, and only those of the `size` places from `first` on can have the hash. -/
structure Narrowed (marks : Array Mark) (hash : UInt64) (first size : Nat) : Prop where
  increasing : ∀ i j (hi : i < marks.size) (hj : j < marks.size), i < j → marks[i].hash < marks[j].hash
  last : first + size ≤ marks.size
  nonempty : 0 < size
  inside : ∀ i (hi : i < marks.size), marks[i].hash = hash → first ≤ i ∧ i < first + size

theorem Narrowed.halve {marks : Array Mark} {hash : UInt64} {first size : Nat} (h : Narrowed marks hash first size)
    (hsize : 1 < size) {m : Mark} (hm : marks[first + size / 2]? = some m) :
    Narrowed marks hash (if hash < m.hash then first else first + size / 2) (size - size / 2) := by
  have hlast := h.last
  obtain ⟨hmiddle, rfl⟩ := Array.getElem?_eq_some_iff.1 hm
  refine ⟨h.increasing, by split <;> omega, by omega, fun i hi heq => ?_⟩
  obtain ⟨hlow, hhigh⟩ := h.inside i hi heq
  split
  · -- from the middle on all hashes are too great
    rename_i hlt
    have hbefore : i < first + size / 2 := by
      by_contra hle
      have hge : marks[first + size / 2].hash ≤ hash := by
        rcases Nat.lt_or_eq_of_le (Nat.not_lt.1 hle) with hlt | heq'
        · exact heq ▸ UInt64.le_of_lt (h.increasing _ _ hmiddle hi hlt)
        · subst heq'
          exact heq ▸ UInt64.le_refl _
      exact UInt64.not_lt.2 hge hlt
    omega
  · -- before the middle all hashes are too small
    rename_i hle
    have hafter : first + size / 2 ≤ i := by
      by_contra hlt
      have hless := h.increasing _ _ hi hmiddle (Nat.not_le.1 hlt)
      exact hle (heq ▸ hless)
    omega

/-- Halving finds a hash exactly if a mark has it. -/
theorem search_eq_true_iff {marks : Array Mark} {hash : UInt64} {fuel first size : Nat} (hfuel : size < fuel)
    (h : Narrowed marks hash first size) : search marks hash fuel first size = true ↔ ∃ m ∈ marks, m.hash = hash := by
  induction fuel generalizing first size with
  | zero => omega
  | succ fuel ih =>
    have hlast := h.last
    have hpos := h.nonempty
    rw [search]
    by_cases hsize : 1 < size
    · have hmiddle : first + size / 2 < marks.size := by omega
      have hsome := Array.getElem?_eq_getElem hmiddle
      have hhalf := h.halve hsize hsome
      simp only [if_pos hsize, hsome, decide_eq_true_eq]
      exact ih (by omega) hhalf
    · obtain rfl : size = 1 := by omega
      have hfirst : first < marks.size := by omega
      simp only [if_neg hsize, Array.getElem?_eq_getElem hfirst, beq_iff_eq]
      constructor
      · intro heq
        exact ⟨_, Array.getElem_mem hfirst, heq⟩
      · rintro ⟨m, hm, heq⟩
        obtain ⟨i, hi, rfl⟩ := Array.mem_iff_getElem.1 hm
        obtain rfl : i = first := by
          have := h.inside i hi heq
          omega
        exact heq

/-! ### Sets of selected marks -/

namespace PrintSet

theorem mem_marks_ofSelected {ms : List Mark} {origin : Origin} {m : Mark} :
    m ∈ (ofSelected ms origin).marks ↔ m ∈ ms ∧ ∀ n ∈ ms, n.hash = m.hash → m.position ≤ n.position := by
  have hmem : ∀ n, n ∈ ms.mergeSort Mark.before ↔ n ∈ ms := fun n => (List.mergeSort_perm ms Mark.before).mem_iff
  rw [ofSelected, mem_dropRepeats_iff (sorted_before ms)]
  simp only [hmem]

theorem hashSet_ofSelected (ms : List Mark) (origin : Origin) : hashSet (ofSelected ms origin).marks = hashSet ms := by
  ext v
  rw [← mem_hashes, mem_hashes_ofSelected, mem_hashSet]

theorem contains_iff {s : PrintSet} (hs : s.Increasing) (v : UInt64) : s.contains v = true ↔ v ∈ hashSet s.marks := by
  rw [contains, size, mem_hashSet]
  cases hmarks : s.marks with
  | nil => simp [search]
  | cons m ms =>
    have hincreasing := List.pairwise_iff_getElem.1 hs
    rw [hmarks] at hincreasing
    have hnarrowed : Narrowed (m :: ms).toArray v 0 (m :: ms).length :=
      ⟨fun i j hi hj hij => hincreasing i j hi hj hij, by simp, by simp, fun i hi _ => ⟨Nat.zero_le i, by simpa using hi⟩⟩
    rw [search_eq_true_iff (Nat.lt_succ_self _) hnarrowed]
    simp

variable {a b : PrintSet}

theorem jaccard_eq (ha : a.Increasing) (hb : b.Increasing) :
    a.jaccard b = ⟨(hashSet a.marks ∩ hashSet b.marks).card, (hashSet a.marks ∪ hashSet b.marks).card⟩ := by
  have hall := Finset.card_union_add_card_inter (hashSet a.marks) (hashSet b.marks)
  rw [card_hashSet ha, card_hashSet hb] at hall
  simp only [jaccard, sharedCount_eq ha hb, size]
  congr 1
  omega

theorem card_le_two_pow (s : Finset UInt64) : s.card ≤ 2 ^ 64 := by
  have hwords : Set.MapsTo UInt64.toNat s (Finset.range (2 ^ 64)) := fun v _ => by simpa using v.toNat_lt
  have hle := Finset.card_le_card_of_injOn UInt64.toNat hwords fun _ _ _ _ => UInt64.toNat_inj.1
  rwa [Finset.card_range] at hle

/-- Sets with a hash in common are alike to some degree. Their hashes are words, and so no more than `2 ^ 64`. -/
theorem jaccard_pos {β : Type} [Number β] [Number.PositiveFractions β] (ha : a.Increasing) (hb : b.Increasing)
    (hpos : 0 < a.sharedCount b) : (0 : β) < (a.jaccard b).value := by
  refine Overlap.Ratio.value_pos hpos (jaccard_part_le_whole ha hb) ?_
  rw [jaccard_eq ha hb]
  exact card_le_two_pow (hashSet a.marks ∪ hashSet b.marks)

/-- Two sets have as many common members as members only if they are equal. -/
theorem card_inter_eq_card_union_iff {A B : Finset UInt64} : (A ∩ B).card = (A ∪ B).card ↔ A = B := by
  constructor
  · intro h
    have hsub : A ∩ B ⊆ A ∪ B := Finset.inter_subset_left.trans Finset.subset_union_left
    exact inf_eq_sup.1 (Finset.eq_of_subset_of_card_le hsub h.ge)
  · rintro rfl
    rw [Finset.inter_self, Finset.union_self]

section Value

variable {β : Type} [Number β] {A B : Finset UInt64} {r : Overlap.Ratio} (hr : r = ⟨(A ∩ B).card, (A ∪ B).card⟩)
include hr

/-- What two sets share is whole where they have the same members, and these are not none. -/
theorem value_eq_one_iff_sets (hne : (0 : β) ≠ (1 : β))
    (hone : 0 < r.whole → ((r.value : β) = (1 : β) ↔ r.part = r.whole)) :
    (r.value : β) = (1 : β) ↔ A = B ∧ A ≠ ∅ := by
  subst hr
  by_cases hnone : (A ∪ B).card = 0
  · obtain ⟨hA, -⟩ := Finset.union_eq_empty.1 (Finset.card_eq_zero.1 hnone)
    rw [Overlap.Ratio.value_of_whole_eq_zero hnone]
    exact iff_of_false hne fun h => h.2 hA
  · rw [hone (Nat.pos_of_ne_zero hnone), card_inter_eq_card_union_iff]
    refine ⟨fun h => ⟨h, fun hA => hnone ?_⟩, fun h => h.1⟩
    rw [← h, hA]
    rfl

/-- They share nothing where no member is common. -/
theorem value_eq_zero_iff_sets (hzero : 0 < r.whole → ((r.value : β) = (0 : β) ↔ r.part = 0)) :
    (r.value : β) = (0 : β) ↔ A ∩ B = ∅ := by
  subst hr
  by_cases hnone : (A ∪ B).card = 0
  · obtain ⟨hA, -⟩ := Finset.union_eq_empty.1 (Finset.card_eq_zero.1 hnone)
    rw [Overlap.Ratio.value_of_whole_eq_zero hnone, hA, Finset.empty_inter]
    exact iff_of_true rfl rfl
  · rw [hzero (Nat.pos_of_ne_zero hnone), Finset.card_eq_zero]

end Value

/-- A set of selected marks holds each of their hashes once, in increasing order and with its first place, and finds
these hashes and no others. What two such sets share are the common hashes, as a part of all hashes of the two; that
part is the same from both sides, nothing where the sets have no common hash, and whole where they have the same hashes
and these are not none. So it is also when it is rounded, as long as the number of hashes is not. -/
theorem ofSelected_share (ms ns : List Mark) (origin origin' : Origin) :
    let a := ofSelected ms origin
    let b := ofSelected ns origin'
    let A := hashSet ms
    let B := hashSet ns
    (a.Increasing ∧ (∀ v, v ∈ a.hashes ↔ v ∈ A) ∧
        (∀ m, m ∈ a.marks ↔ m ∈ ms ∧ ∀ n ∈ ms, n.hash = m.hash → m.position ≤ n.position) ∧
        ∀ v, a.contains v = true ↔ v ∈ A) ∧
      (a.sharedCount b = (A ∩ B).card ∧ a.sharedCount b ≤ a.size + b.size ∧
        a.jaccard b = ⟨(A ∩ B).card, (A ∪ B).card⟩ ∧ b.jaccard a = a.jaccard b ∧
        ((a.jaccard b).whole = 0 ↔ a.size + b.size = 0)) ∧
      (((a.jaccard b).value : ℚ) = (if A = ∅ ∧ B = ∅ then 0 else ((A ∩ B).card : ℚ) / (A ∪ B).card) ∧
        (0 ≤ ((a.jaccard b).value : ℚ) ∧ ((a.jaccard b).value : ℚ) ≤ 1) ∧
        (((a.jaccard b).value : ℚ) = 1 ↔ A = B ∧ A ≠ ∅) ∧ (((a.jaccard b).value : ℚ) = 0 ↔ A ∩ B = ∅)) ∧
      ((A ∪ B).card < 2 ^ 53 →
        ((0 : Float) ≤ (a.jaccard b).value ∧ (a.jaccard b).value ≤ (1 : Float)) ∧
        (((a.jaccard b).value : Float) = 1 ↔ A = B ∧ A ≠ ∅) ∧ (((a.jaccard b).value : Float) = 0 ↔ A ∩ B = ∅)) := by
  intro a b A B
  have ha : a.Increasing := ofSelected_increasing ms origin
  have hb : b.Increasing := ofSelected_increasing ns origin'
  have hA : hashSet a.marks = A := hashSet_ofSelected ms origin
  have hB : hashSet b.marks = B := hashSet_ofSelected ns origin'
  have hjaccard : a.jaccard b = ⟨(A ∩ B).card, (A ∪ B).card⟩ := by rw [jaccard_eq ha hb, hA, hB]
  have hempty : (A ∪ B).card = 0 ↔ A = ∅ ∧ B = ∅ := by rw [Finset.card_eq_zero, Finset.union_eq_empty]
  have hsizes : a.size = A.card ∧ b.size = B.card := by
    rw [size, size, ← card_hashSet ha, ← card_hashSet hb, hA, hB]
    exact ⟨rfl, rfl⟩
  have hpart : (a.jaccard b).part ≤ (a.jaccard b).whole := jaccard_part_le_whole ha hb
  refine ⟨⟨ha, fun v => ?_, fun m => mem_marks_ofSelected, fun v => ?_⟩, ⟨?_, ?_, hjaccard, jaccard_comm hb ha, ?_⟩,
    ⟨?_, ?_, ?_, ?_⟩, fun hcard => ?_⟩
  · rw [mem_hashes, hA]
  · rw [contains_iff ha, hA]
  · rw [sharedCount_eq ha hb, hA, hB]
  · exact (sharedCount_le_left ha hb).trans (Nat.le_add_right _ _)
  · rw [hjaccard, hempty, hsizes.1, hsizes.2, Nat.add_eq_zero_iff, Finset.card_eq_zero, Finset.card_eq_zero]
  · rw [Overlap.Ratio.value_rat, hjaccard]
    exact if_congr hempty rfl rfl
  · exact (Number.isUnit_iff _).1 (Overlap.Ratio.isUnit_value (Number.fractionsUnit_rat _) hpart (Nat.le_refl _))
  · exact value_eq_one_iff_sets hjaccard zero_ne_one Overlap.Ratio.value_eq_one_iff
  · exact value_eq_zero_iff_sets hjaccard Overlap.Ratio.value_eq_zero_iff
  · have hlarge : (a.jaccard b).whole < 2 ^ 53 := by
      rw [hjaccard]
      exact hcard
    refine ⟨?_, ?_, ?_⟩
    · exact Number.bounds_of_isUnit (Overlap.Ratio.isUnit_value Binary64.fractionsUnit_float hpart (by omega))
    · refine value_eq_one_iff_sets hjaccard Binary64.zero_ne_one_float fun hpos => ?_
      rw [Overlap.Ratio.value_eq_div hpos]
      exact Binary64.fraction_eq_one_iff hpart hpos hlarge
    · refine value_eq_zero_iff_sets hjaccard fun hpos => ?_
      rw [Overlap.Ratio.value_eq_div hpos]
      exact Binary64.fraction_eq_zero_iff hpart hpos (by omega)

/-- Of two hashes, one of them selected twice, another set has one: the share is neither nothing nor whole. -/
theorem ofSelected_share_two_hashes :
    let ms : List Mark := [⟨5, 3⟩, ⟨2, 1⟩, ⟨5, 0⟩]
    let ns : List Mark := [⟨5, 7⟩]
    let x : Float := ((ofSelected ms default).jaccard (ofSelected ns default)).value
    (hashSet ms ∪ hashSet ns).card < 2 ^ 53 ∧ (ofSelected ms default).contains 5 = true ∧
      ((0 : Float) ≤ x ∧ x ≤ (1 : Float)) ∧ x ≠ 1 ∧ x ≠ 0 := by
  intro ms ns x
  have hcard : (hashSet ms ∪ hashSet ns).card < 2 ^ 53 := by decide
  obtain ⟨⟨-, -, -, hcontains⟩, -, -, hfloat⟩ := ofSelected_share ms ns default default
  obtain ⟨hunit, hone, hzero⟩ := hfloat hcard
  exact ⟨hcard, (hcontains 5).2 (by decide), hunit, mt hone.1 (by decide), mt hzero.1 (by decide)⟩

end PrintSet
end Likeness.Fingerprint
