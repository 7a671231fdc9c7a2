import Mathlib.Data.Finset.Card
import Mathlib.Data.List.Dedup
import Likeness.Fingerprint.Set

/-!
# Fingerprint sets as sets of hashes

* `PrintSet.Increasing` : the hashes of a set grow from mark to mark; a set of selected marks is so
  (`ofSelected_increasing`) and has the hashes that were selected (`mem_hashes_ofSelected`);
* `sharedCount_eq` : the merge of two increasing sets counts the hashes of their intersection.
-/

namespace Likeness.Fingerprint

/-! ### Order of the marks -/

theorem Mark.before_iff {a b : Mark} :
    a.before b = true ↔ a.hash < b.hash ∨ a.hash = b.hash ∧ a.position ≤ b.position := by
  simp [Mark.before]

theorem Mark.hash_le_of_before {a b : Mark} (hab : a.before b = true) : a.hash ≤ b.hash := by
  rcases Mark.before_iff.1 hab with hlt | ⟨heq, -⟩
  · exact UInt64.le_of_lt hlt
  · exact heq ▸ UInt64.le_refl _

theorem Mark.before_trans (a b c : Mark) (hab : a.before b = true) (hbc : b.before c = true) :
    a.before c = true := by
  rw [Mark.before_iff] at *
  rcases hab with hab | ⟨hab, hp⟩ <;> rcases hbc with hbc | ⟨hbc, hq⟩
  · exact .inl (UInt64.lt_trans hab hbc)
  · exact .inl (hbc ▸ hab)
  · exact .inl (hab ▸ hbc)
  · exact .inr ⟨hab.trans hbc, Nat.le_trans hp hq⟩

theorem Mark.before_total (a b : Mark) : (a.before b || b.before a) = true := by
  rw [Bool.or_eq_true, Mark.before_iff, Mark.before_iff]
  by_cases hab : a.hash < b.hash
  · exact .inl (.inl hab)
  · rcases UInt64.lt_or_eq_of_le (UInt64.not_lt.1 hab) with hba | hba
    · exact .inr (.inl hba)
    · rcases Nat.le_total a.position b.position with hp | hp
      · exact .inl (.inr ⟨hba.symm, hp⟩)
      · exact .inr (.inr ⟨hba, hp⟩)

theorem sorted_before (ms : List Mark) :
    (ms.mergeSort Mark.before).Pairwise fun a b => a.before b = true :=
  List.pairwise_mergeSort Mark.before_trans Mark.before_total ms

/-! ### Dropping repeats -/

theorem dropRepeats_sublist (ms : List Mark) : (dropRepeats ms).Sublist ms := by
  fun_induction dropRepeats ms with
  | case1 a b rest _ ih => exact ih.trans ((List.sublist_cons_self b rest).cons_cons a)
  | case2 a b rest _ ih => exact ih.cons_cons a
  | case3 ms _ => exact List.Sublist.refl ms

theorem mem_hashes_dropRepeats (ms : List Mark) (v : UInt64) :
    v ∈ (dropRepeats ms).map (·.hash) ↔ v ∈ ms.map (·.hash) := by
  fun_induction dropRepeats ms with
  | case1 a b rest hab ih =>
    have hab : a.hash = b.hash := by simpa using hab
    rw [ih]
    simp [hab]
  | case2 a b rest _ ih =>
    rw [List.map_cons, List.mem_cons, ih]
    exact List.mem_cons.symm
  | case3 ms _ => rfl

theorem dropRepeats_increasing (ms : List Mark) (hms : ms.Pairwise fun a b => a.before b = true) :
    (dropRepeats ms).Pairwise fun a b => a.hash < b.hash := by
  fun_induction dropRepeats ms with
  | case1 a b rest _ ih => exact ih (hms.sublist ((List.sublist_cons_self b rest).cons_cons a))
  | case2 a b rest hab ih =>
    obtain ⟨ha, hrest⟩ := List.pairwise_cons.1 hms
    refine List.pairwise_cons.2 ⟨fun m hm => ?_, ih hrest⟩
    -- the next hash is greater, and all that follow are no less than it
    have hne : a.hash ≠ b.hash := by simpa using hab
    have hlt : a.hash < b.hash :=
      (UInt64.lt_or_eq_of_le (Mark.hash_le_of_before (ha b (by simp)))).resolve_right hne
    rcases List.mem_cons.1 ((dropRepeats_sublist _).subset hm) with rfl | hm
    · exact hlt
    · exact UInt64.lt_of_lt_of_le hlt (Mark.hash_le_of_before ((List.pairwise_cons.1 hrest).1 m hm))
  | case3 ms hshort =>
    match ms with
    | [] => exact List.Pairwise.nil
    | [a] => exact List.pairwise_singleton _ a
    | a :: b :: rest => exact absurd rfl (hshort a b rest)

/-! ### Counting what is shared -/

/-- The hashes of some marks. -/
def hashSet (ms : List Mark) : Finset UInt64 := (ms.map (·.hash)).toFinset

@[simp] theorem mem_hashSet {ms : List Mark} {v : UInt64} : v ∈ hashSet ms ↔ ∃ m ∈ ms, m.hash = v := by
  simp [hashSet]

@[simp] theorem hashSet_cons (m : Mark) (ms : List Mark) : hashSet (m :: ms) = insert m.hash (hashSet ms) := by
  simp [hashSet]

theorem card_hashSet {ms : List Mark} (hms : ms.Pairwise fun a b => a.hash < b.hash) :
    (hashSet ms).card = ms.length := by
  have hnodup : (ms.map (·.hash)).Nodup :=
    List.pairwise_map.2 (hms.imp fun hab => UInt64.ne_of_lt hab)
  rw [hashSet, List.toFinset_card_of_nodup hnodup, List.length_map]

theorem notMem_hashSet_of_lt {v : UInt64} {ms : List Mark} (hv : ∀ m ∈ ms, v < m.hash) : v ∉ hashSet ms := by
  rw [mem_hashSet]
  rintro ⟨m, hm, rfl⟩
  exact UInt64.lt_irrefl _ (hv m hm)

theorem notMem_hashSet_cons_of_lt {v : UInt64} {m : Mark} {ms : List Mark} (hv : v < m.hash)
    (hms : (m :: ms).Pairwise fun a b => a.hash < b.hash) : v ∉ hashSet (m :: ms) := by
  refine notMem_hashSet_of_lt fun m' hm' => ?_
  rcases List.mem_cons.1 hm' with rfl | hm'
  · exact hv
  · exact UInt64.lt_trans hv ((List.pairwise_cons.1 hms).1 m' hm')

theorem countShared_eq (as bs : List Mark) (ha : as.Pairwise fun a b => a.hash < b.hash)
    (hb : bs.Pairwise fun a b => a.hash < b.hash) :
    countShared as bs = (hashSet as ∩ hashSet bs).card := by
  fun_induction countShared as bs with
  | case1 a as b bs hlt ih =>
    obtain ⟨-, ha⟩ := List.pairwise_cons.1 ha
    have hnot : a.hash ∉ hashSet (b :: bs) := notMem_hashSet_cons_of_lt hlt hb
    rw [ih ha hb, hashSet_cons a, Finset.insert_inter_of_notMem hnot]
  | case2 a as b bs _ hlt ih =>
    obtain ⟨-, hb⟩ := List.pairwise_cons.1 hb
    have hnot : b.hash ∉ hashSet (a :: as) := notMem_hashSet_cons_of_lt hlt ha
    rw [ih ha hb, hashSet_cons b, Finset.inter_insert_of_notMem hnot]
  | case3 a as b bs hab hba ih =>
    obtain ⟨ha', ha⟩ := List.pairwise_cons.1 ha
    obtain ⟨-, hb⟩ := List.pairwise_cons.1 hb
    have heq : b.hash = a.hash := UInt64.le_antisymm (UInt64.not_lt.1 hab) (UInt64.not_lt.1 hba)
    have hnot : a.hash ∉ hashSet as ∩ hashSet bs := fun h =>
      notMem_hashSet_of_lt ha' (Finset.mem_inter.1 h).1
    rw [ih ha hb, hashSet_cons, hashSet_cons, heq, ← Finset.insert_inter_distrib, Finset.card_insert_of_notMem hnot]
  | case4 as bs hempty =>
    rcases as with _ | ⟨a, as⟩
    · simp [hashSet]
    · rcases bs with _ | ⟨b, bs⟩
      · simp [hashSet]
      · exact absurd rfl (hempty a as b bs rfl)

/-! ### Sets -/

namespace PrintSet

/-- The hashes grow from mark to mark. -/
def Increasing (s : PrintSet) : Prop := s.marks.Pairwise fun a b => a.hash < b.hash

theorem ofSelected_increasing (ms : List Mark) (origin : Origin) : (ofSelected ms origin).Increasing :=
  dropRepeats_increasing _ (sorted_before ms)

theorem mem_hashes_ofSelected {ms : List Mark} {origin : Origin} {v : UInt64} :
    v ∈ (ofSelected ms origin).hashes ↔ ∃ m ∈ ms, m.hash = v := by
  have hperm := List.mergeSort_perm ms Mark.before
  rw [hashes, ofSelected, mem_hashes_dropRepeats, (hperm.map _).mem_iff, List.mem_map]

theorem mem_hashes {s : PrintSet} {v : UInt64} : v ∈ s.hashes ↔ v ∈ hashSet s.marks := by
  simp [hashes]

variable {a b : PrintSet}

theorem sharedCount_eq (ha : a.Increasing) (hb : b.Increasing) :
    a.sharedCount b = (hashSet a.marks ∩ hashSet b.marks).card := countShared_eq _ _ ha hb

/-- Hashes that two sets have are counted. -/
theorem size_le_sharedCount {s : PrintSet} (hs : s.Increasing) (ha : a.Increasing) (hb : b.Increasing)
    (hsa : s.hashes ⊆ a.hashes) (hsb : s.hashes ⊆ b.hashes) : s.size ≤ a.sharedCount b := by
  rw [sharedCount_eq ha hb, size, ← card_hashSet hs]
  refine Finset.card_le_card fun v hv => ?_
  rw [← mem_hashes] at hv
  exact Finset.mem_inter.2 ⟨mem_hashes.1 (hsa hv), mem_hashes.1 (hsb hv)⟩

theorem sharedCount_le_left (ha : a.Increasing) (hb : b.Increasing) : a.sharedCount b ≤ a.size := by
  rw [sharedCount_eq ha hb, size, ← card_hashSet ha]
  exact Finset.card_le_card Finset.inter_subset_left

theorem sharedCount_le_right (ha : a.Increasing) (hb : b.Increasing) : a.sharedCount b ≤ b.size := by
  rw [sharedCount_eq ha hb, size, ← card_hashSet hb]
  exact Finset.card_le_card Finset.inter_subset_right

theorem sharedCount_comm (ha : a.Increasing) (hb : b.Increasing) : a.sharedCount b = b.sharedCount a := by
  rw [sharedCount_eq ha hb, sharedCount_eq hb ha, Finset.inter_comm]

theorem sharedCount_self (ha : a.Increasing) : a.sharedCount a = a.size := by
  rw [sharedCount_eq ha ha, Finset.inter_self, card_hashSet ha, size]

theorem jaccard_self (ha : a.Increasing) : a.jaccard a = ⟨a.size, a.size⟩ := by
  rw [jaccard, sharedCount_self ha, Nat.add_sub_cancel]

theorem jaccard_part_le_whole (ha : a.Increasing) (hb : b.Increasing) : (a.jaccard b).part ≤ (a.jaccard b).whole := by
  have hle := sharedCount_le_left ha hb
  have hle' := sharedCount_le_right ha hb
  simp only [jaccard]
  omega

theorem jaccard_comm (ha : a.Increasing) (hb : b.Increasing) : a.jaccard b = b.jaccard a := by
  rw [jaccard, jaccard, sharedCount_comm ha hb, Nat.add_comm]

end PrintSet
end Likeness.Fingerprint
