import Mathlib.Tactic.Common
import Likeness.Text.Compat.Normal

/-!
# Normal forms of texts piece by piece

An ASCII character begins a normal form of its own (`normalize_append_cons`), and one that composes with nothing
stands in the normal form where it stood (`Isolated.normalize_cons`). A mark comes into a normal form from the
text itself, or from a character that decomposes to it (`mem_normalize`), of which the tables have few (`sources`).
-/

namespace Likeness.Text.Compat

/-! ### Characters that begin a group -/

theorem combiningClass_eq_zero {c : Char} (hc : c.toNat < 0x300) : combiningClass c = 0 := by
  simp [combiningClass, hc]

theorem decompose_eq_self {c : Char} (hc : c.toNat < 0x80) : decompose c = [c] := by
  rw [decompose, if_pos (by omega)]

/-- What composes as the second of two is a combining mark or part of a syllable. -/
theorem compose_eq_none {b : Char} (hb : b.toNat < 0x300) (a : Char) : compose a b = none := by
  have hsyllable : joinSyllable a.toNat b.toNat = none := by
    have hvowel : ¬ vowelBase ≤ b.toNat := by simp only [vowelBase]; omega
    have htail : ¬ tailBase < b.toNat := by simp only [tailBase]; omega
    simp [joinSyllable, hvowel, htail]
  simp [compose, hsyllable, hb]

/-! ### The order of marks -/

section Order

variable {c : Char} (hc : combiningClass c = 0)

include hc

theorem insertMark_append_cons (e : Char) (x y : List Char) :
    insertMark e (x ++ c :: y) = insertMark e x ++ c :: y := by
  induction x with
  | nil => simp [insertMark, hc]
  | cons d x ih =>
    rw [List.cons_append, insertMark, insertMark, ih]
    split <;> rfl

theorem order_cons (y : List Char) : order (c :: y) = c :: order y := by
  rw [order, List.foldr_cons, ← order]
  cases order y <;> simp [insertMark, hc]

theorem order_append_cons (x y : List Char) : order (x ++ c :: y) = order x ++ order (c :: y) := by
  rw [order_cons hc]
  induction x with
  | nil => exact order_cons hc y
  | cons e x ih =>
    rw [List.cons_append, order, List.foldr_cons, ← order, ih, insertMark_append_cons hc]
    rfl

end Order

theorem mem_insertMark {d c : Char} {x : List Char} : d ∈ insertMark c x ↔ d = c ∨ d ∈ x := by
  induction x with
  | nil => simp [insertMark]
  | cons e x ih =>
    rw [insertMark]
    split
    · simp
    · simp only [List.mem_cons, ih]
      exact or_left_comm

theorem mem_order {d : Char} {x : List Char} : d ∈ order x ↔ d ∈ x := by
  induction x with
  | nil => rfl
  | cons c x ih => rw [order, List.foldr_cons, ← order, mem_insertMark, ih, List.mem_cons]

/-! ### Composition -/

/-- What the last character of class 0 becomes if it takes in another one, with `marks` between the two. -/
def taken (b : Char) (marks : List Char) (c : Char) : Option Char :=
  if marks.head?.any (combiningClass c ≤ combiningClass ·) then none else compose b c

/-- The step of `composeAll` in terms of what is taken in. -/
theorem composeAll_some_cons (b : Char) (marks : List Char) (c : Char) (cs : List Char) :
    composeAll (some b) marks (c :: cs) =
      ((taken b marks c).map fun d => composeAll (some d) marks cs).getD
        (if combiningClass c = 0 then b :: marks.reverse ++ composeAll (some c) [] cs
          else composeAll (some b) (c :: marks) cs) := by
  cases marks with
  | nil => cases h : compose b c <;> simp [composeAll, taken, h]
  | cons m marks =>
    by_cases hblocked : combiningClass c ≤ combiningClass m
    · simp [composeAll, taken, hblocked]
    · cases h : compose b c <;> simp [composeAll, taken, hblocked, h]

theorem composeAll_none_cons (c : Char) (cs : List Char) :
    composeAll none [] (c :: cs) =
      if combiningClass c = 0 then composeAll (some c) [] cs else c :: composeAll none [] cs := by
  simp [composeAll]

theorem taken_eq_none {b c : Char} (h : compose b c = none) (marks : List Char) : taken b marks c = none := by
  simp [taken, h]

section Starter

variable {c : Char} (hc : combiningClass c = 0) (hnone : ∀ b, compose b c = none)

include hc hnone

theorem composeAll_some_append_cons (b : Char) (marks x y : List Char) :
    composeAll (some b) marks (x ++ c :: y) = composeAll (some b) marks x ++ composeAll (some c) [] y := by
  induction x generalizing b marks with
  | nil => simp [composeAll_some_cons, taken_eq_none (hnone b), hc, composeAll]
  | cons e x ih =>
    rw [List.cons_append, composeAll_some_cons, composeAll_some_cons]
    cases taken b marks e with
    | some d => simp [ih]
    | none => split <;> simp [ih]

/-- A character of class 0 that nothing takes in begins anew. -/
theorem composeAll_append_cons (x y : List Char) :
    composeAll none [] (x ++ c :: y) = composeAll none [] x ++ composeAll none [] (c :: y) := by
  induction x with
  | nil => rfl
  | cons e x ih =>
    rw [List.cons_append, composeAll_none_cons, composeAll_none_cons, ih, composeAll_some_append_cons hc hnone,
      composeAll_none_cons c, if_pos hc]
    split <;> rfl

end Starter

/-- A character that takes nothing in leaves what stands behind it as it is. -/
theorem composeAll_alone {c : Char} (hnone : ∀ b, compose c b = none) (marks y : List Char) :
    composeAll (some c) marks y = c :: marks.reverse ++ composeAll none [] y := by
  induction y generalizing marks with
  | nil => simp [composeAll]
  | cons e y ih =>
    rw [composeAll_some_cons, taken_eq_none (hnone e), composeAll_none_cons]
    by_cases he : combiningClass e = 0 <;> simp [he, ih]

theorem composeAll_ne_nil {cs : List Char} (hcs : cs ≠ []) : composeAll none [] cs ≠ [] := by
  have hsome : ∀ b marks ds, composeAll (some b) marks ds ≠ [] := by
    intro b marks ds
    induction ds generalizing b marks with
    | nil => simp [composeAll]
    | cons e ds ih =>
      rw [composeAll_some_cons]
      cases taken b marks e with
      | some d => exact ih d marks
      | none => split <;> simp [ih]
  obtain ⟨c, cs, rfl⟩ := List.exists_cons_of_ne_nil hcs
  rw [composeAll_none_cons]
  split
  · exact hsome c [] cs
  · simp

theorem compose_of_taken {b c d : Char} {marks : List Char} (h : taken b marks c = some d) : compose b c = some d := by
  rw [taken] at h
  split at h
  · cases h
  · exact h

theorem mem_composeAll_some {d b : Char} {marks cs : List Char} (h : d ∈ composeAll (some b) marks cs) :
    d = b ∨ d ∈ marks ∨ d ∈ cs ∨ ∃ a c, compose a c = some d := by
  induction cs generalizing b marks with
  | nil =>
    have hmem : d = b ∨ d ∈ marks := by simpa [composeAll] using h
    exact hmem.imp_right .inl
  | cons e cs ih =>
    rw [composeAll_some_cons] at h
    cases htaken : taken b marks e with
    | some b' =>
      have hcomposed := compose_of_taken htaken
      rw [htaken] at h
      have hmem := ih h
      grind
    | none =>
      rw [htaken, Option.map_none, Option.getD_none] at h
      split at h
      · rcases List.mem_append.1 h with h | h
        · grind
        · have hmem := ih h
          grind
      · have hmem := ih h
        grind

/-- A character of the result was there before, or two were composed to it. -/
theorem mem_composeAll {d : Char} {cs : List Char} (h : d ∈ composeAll none [] cs) :
    d ∈ cs ∨ ∃ a c, compose a c = some d := by
  induction cs with
  | nil => cases h
  | cons e cs ih =>
    rw [composeAll_none_cons] at h
    split at h
    · have hmem := mem_composeAll_some h
      grind
    · grind

/-! ### Normal forms -/

section Ascii

variable {cs : List Char} (h : ∀ c ∈ cs, c.toNat < 0x80)

include h

theorem decompose_ascii : cs.flatMap decompose = cs := by
  induction cs with
  | nil => rfl
  | cons c cs ih =>
    obtain ⟨hc, hcs⟩ := List.forall_mem_cons.1 h
    rw [List.flatMap_cons, decompose_eq_self hc, ih hcs, List.singleton_append]

theorem order_ascii : order cs = cs := by
  induction cs with
  | nil => rfl
  | cons c cs ih =>
    obtain ⟨hc, hcs⟩ := List.forall_mem_cons.1 h
    rw [order_cons (combiningClass_eq_zero (by omega)), ih hcs]

theorem composeAll_ascii : composeAll none [] cs = cs := by
  induction cs with
  | nil => rfl
  | cons c cs ih =>
    obtain ⟨hc, hcs⟩ := List.forall_mem_cons.1 h
    have hclass : combiningClass c = 0 := combiningClass_eq_zero (by omega)
    cases cs with
    | nil => simp [composeAll, hclass]
    | cons e cs =>
      have he : e.toNat < 0x300 := by
        have := hcs e List.mem_cons_self
        omega
      have happend := composeAll_append_cons (combiningClass_eq_zero he) (compose_eq_none he) [c] cs
      rw [List.singleton_append] at happend
      rw [happend, ih hcs]
      simp [composeAll, hclass]

theorem normalize_ascii : normalize cs = cs := by
  rw [normalize, if_pos (by simpa using h)]

end Ascii

/-- The normal form of a text is made in three steps; a text of ASCII characters goes through them unchanged. -/
theorem normalize_eq (cs : List Char) : normalize cs = composeAll none [] (order (cs.flatMap decompose)) := by
  rw [normalize]
  split
  · rename_i hall
    have h : ∀ c ∈ cs, c.toNat < 0x80 := by simpa using hall
    rw [decompose_ascii h, order_ascii h, composeAll_ascii h]
  · rfl

@[simp] theorem normalize_nil : normalize [] = [] := rfl

/-- An ASCII character begins a normal form of its own. -/
theorem normalize_append_cons {c : Char} (hc : c.toNat < 0x80) (a b : List Char) :
    normalize (a ++ c :: b) = normalize a ++ normalize (c :: b) := by
  have hclass : combiningClass c = 0 := combiningClass_eq_zero (by omega)
  rw [normalize_eq, normalize_eq, normalize_eq, List.flatMap_append, List.flatMap_cons, decompose_eq_self hc,
    List.singleton_append, order_append_cons hclass, order_cons hclass,
    composeAll_append_cons hclass (compose_eq_none (by omega))]

/-- An ASCII character that composes with nothing. -/
structure Isolated (c : Char) : Prop where
  ascii : c.toNat < 0x80
  alone : ∀ b, compose c b = none

/-- Such a character stands in the normal form where it stood. -/
theorem Isolated.normalize_cons {c : Char} (hc : Isolated c) (cs : List Char) :
    normalize (c :: cs) = c :: normalize cs := by
  have hascii := hc.ascii
  have hclass : combiningClass c = 0 := combiningClass_eq_zero (by omega)
  rw [normalize_eq, normalize_eq, List.flatMap_cons, decompose_eq_self hc.ascii, List.singleton_append,
    order_cons hclass, composeAll_none_cons, if_pos hclass, composeAll_alone hc.alone]
  rfl

theorem isolated_of_lookup {c : Char} (hascii : c.toNat < 0x80) (hnone : compositions.lookup c.toNat = none) :
    Isolated c := by
  refine ⟨hascii, fun b => ?_⟩
  have hsyllable : joinSyllable c.toNat b.toNat = none := by
    have hlead : ¬ leadBase ≤ c.toNat := by simp only [leadBase]; omega
    have hbase : ¬ syllableBase ≤ c.toNat := by simp only [syllableBase]; omega
    have hbase : isSyllable c.toNat = false := by simp [isSyllable, hbase]
    simp [joinSyllable, hlead, hbase]
  simp [compose, hsyllable, hnone]

/-! ### What characters come from -/

theorem mem_of_lookup {α : Type} {rows : List (Nat × α)} {n : Nat} {a : α} (h : rows.lookup n = some a) :
    (n, a) ∈ rows := by
  obtain ⟨before, after, rfl, -⟩ := List.lookup_eq_some_iff.1 h
  simp

theorem toNat_of_ofNat {n : Nat} {d : Char} (h : Char.ofNat n = d) (hd : 0 < d.toNat) : d.toNat = n := by
  subst h
  by_cases hvalid : n.isValidChar
  · rw [Char.ofNat, dif_pos hvalid]
    rfl
  · rw [Char.ofNat, dif_neg hvalid] at hd
    cases hd

theorem toNat_ofNat_of_lt {n : Nat} (h : n < 0xD800) : (Char.ofNat n).toNat = n := by
  have hvalid : n.isValidChar := .inl h
  rw [Char.ofNat, dif_pos hvalid]
  rfl

theorem joinSyllable_bounds {a b n : Nat} (h : joinSyllable a b = some n) : 0x80 ≤ n ∧ n < 0xD800 := by
  revert h
  fun_cases joinSyllable a b with
  | case1 hletters =>
    intro h
    simp only [Bool.and_eq_true, decide_eq_true_eq] at hletters
    simp only [Option.some.injEq] at h
    simp only [syllableBase, leadBase, vowelBase] at hletters h
    omega
  | case2 _ hsyllable =>
    intro h
    simp only [isSyllable, Bool.and_eq_true, decide_eq_true_eq, beq_iff_eq] at hsyllable
    simp only [Option.some.injEq] at h
    simp only [syllableBase, tailBase] at hsyllable h
    omega
  | case3 => simp

theorem splitSyllable_bound {n p : Nat} (hp : p ∈ splitSyllable n) : 0x80 ≤ p := by
  simp only [splitSyllable, leadBase, vowelBase, tailBase] at hp
  split at hp <;> simp at hp <;> omega

/-- No two characters compose to an ASCII one. -/
theorem toNat_of_compose {a b d : Char} (h : compose a b = some d) : 0x80 ≤ d.toNat := by
  have hvalues : compositions.all (fun row => row.2.all fun entry => 0x80 ≤ (Char.ofNat entry.2).toNat) = true := by
    decide +kernel
  unfold compose at h
  split at h
  · rename_i n hn
    obtain rfl : Char.ofNat n = d := by simpa using h
    obtain ⟨hlow, hhigh⟩ := joinSyllable_bounds hn
    rwa [toNat_ofNat_of_lt hhigh]
  · split at h
    · cases h
    · obtain ⟨n, hn, rfl⟩ := Option.map_eq_some_iff.1 h
      obtain ⟨row, hrow, hentry⟩ := Option.bind_eq_some_iff.1 hn
      have hrows := List.all_eq_true.1 hvalues _ (mem_of_lookup hrow)
      simpa using List.all_eq_true.1 hrows _ (mem_of_lookup hentry)

/-- The entries of the tables that have ASCII characters in their decompositions. -/
def asciiEntries : List Entry :=
  pages.flatMap fun page => page.2.filter fun e => e.parts.any (·.ble 0x7F)

/-- The characters for which the tables have a given one of ASCII in their decomposition. -/
def sources (m : Nat) : List Nat :=
  asciiEntries.flatMap fun e => e.parts.filterMap fun p =>
    if p ≤ m ∧ m ≤ p + (e.last - e.first) then some (e.first + (m - p)) else none

theorem sources_marks :
    sources '\n'.toNat = [] ∧ sources '\''.toNat = ['\uFF07'.toNat] ∧ sources '"'.toNat = ['\uFF02'.toNat] ∧
      sources '\\'.toNat = ['\uFE68'.toNat, '\uFF3C'.toNat] := by
  decide +kernel

theorem exists_page_of_find? {n : Nat} {p : Entry → Bool} {entry : Entry}
    (h : ((pages.lookup n).getD []).find? p = some entry) : ∃ page ∈ pages, entry ∈ page.2 := by
  have hmem := List.mem_of_find?_eq_some h
  cases hpage : pages.lookup n with
  | none =>
    rw [hpage] at hmem
    cases hmem
  | some page =>
    rw [hpage] at hmem
    exact ⟨(n, page), mem_of_lookup hpage, hmem⟩

/-- An ASCII character of a decomposition is the character itself, or the tables have it there. -/
theorem mem_decompose {d e : Char} (hpos : 0 < d.toNat) (hascii : d.toNat < 0x80) (h : d ∈ decompose e) :
    d = e ∨ e.toNat ∈ sources d.toNat := by
  revert h
  fun_cases decompose e with
  | case1 => exact fun h => .inl (List.mem_singleton.1 h)
  | case2 _ _ hsyllable =>
    intro h
    obtain ⟨p, hp, hd⟩ := List.mem_map.1 h
    have hbound := splitSyllable_bound hp
    rw [toNat_of_ofNat hd hpos] at hascii
    omega
  | case3 n _ _ entry hentry =>
    intro h
    obtain ⟨p, hp, hd⟩ := List.mem_map.1 h
    have hd := toNat_of_ofNat hd hpos
    obtain ⟨page, hpage, hmem⟩ := exists_page_of_find? hentry
    have hrange : entry.first ≤ n ∧ n ≤ entry.last := by simpa using List.find?_some hentry
    have hlow : entry ∈ asciiEntries := by
      have hany : entry.parts.any (·.ble 0x7F) = true := List.any_eq_true.2 ⟨p, hp, Nat.ble_eq_true_of_le (by omega)⟩
      exact List.mem_flatMap.2 ⟨page, hpage, List.mem_filter.2 ⟨hmem, hany⟩⟩
    refine .inr (List.mem_flatMap.2 ⟨entry, hlow, List.mem_filterMap.2 ⟨p, hp, ?_⟩⟩)
    rw [if_pos (by omega)]
    exact congrArg some (by omega)
  | case4 => exact fun h => .inl (List.mem_singleton.1 h)

theorem decompose_ne_nil (c : Char) : decompose c ≠ [] := by
  have hparts : pages.all (fun page => page.2.all fun e => !e.parts.isEmpty) = true := by decide +kernel
  fun_cases decompose c with
  | case1 => simp
  | case2 =>
    rw [splitSyllable]
    split <;> simp
  | case3 n _ _ entry hentry =>
    obtain ⟨page, hpage, hmem⟩ := exists_page_of_find? hentry
    have hentries := List.all_eq_true.1 hparts _ hpage
    simpa using List.all_eq_true.1 hentries _ hmem
  | case4 => simp

theorem normalize_ne_nil {cs : List Char} (hcs : cs ≠ []) : normalize cs ≠ [] := by
  obtain ⟨c, cs, rfl⟩ := List.exists_cons_of_ne_nil hcs
  obtain ⟨d, hd⟩ := List.exists_mem_of_ne_nil _ (decompose_ne_nil c)
  have hmem : d ∈ order ((c :: cs).flatMap decompose) := mem_order.2 (List.mem_flatMap.2 ⟨c, List.mem_cons_self, hd⟩)
  rw [normalize_eq]
  exact composeAll_ne_nil (List.ne_nil_of_mem hmem)

/-- An ASCII character of a normal form comes from the text, or from a character that decomposes to it. -/
theorem mem_normalize {d : Char} {cs : List Char} (hpos : 0 < d.toNat) (hascii : d.toNat < 0x80)
    (h : d ∈ normalize cs) : ∃ e ∈ cs, d = e ∨ e.toNat ∈ sources d.toNat := by
  rw [normalize_eq] at h
  rcases mem_composeAll h with h | ⟨a, b, hcomposed⟩
  · obtain ⟨e, he, hd⟩ := List.mem_flatMap.1 (mem_order.1 h)
    exact ⟨e, he, mem_decompose hpos hascii hd⟩
  · have := toNat_of_compose hcomposed
    omega

end Likeness.Text.Compat
