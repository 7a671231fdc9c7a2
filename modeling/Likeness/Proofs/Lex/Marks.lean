import Likeness.Proofs.Lex.Literal

/-!
# The marks in a string literal

What closes a string is told by its quotes, its backslashes and its line ends, and by where other characters
stand between them, but not by what these are (`closes_of_sameMarks`). A literal that is closed is read to its
end, whatever stands behind it, unless a quote there makes two quotes three (`splitString_append_of_closed`).
-/

namespace Likeness.Lex

/-! ### Texts with the same marks -/

/-- Two texts with the same marks, and with other characters between the same ones of them. -/
inductive SameMarks (isMark : Char → Bool) : List Char → List Char → Prop
  | nil : SameMarks isMark [] []
  | mark {c : Char} {a b : List Char} : isMark c = true → SameMarks isMark a b → SameMarks isMark (c :: a) (c :: b)
  | run {u v a b : List Char} : u ≠ [] → v ≠ [] → (∀ c ∈ u, isMark c = false) → (∀ c ∈ v, isMark c = false) →
      SameMarks isMark a b → SameMarks isMark (u ++ a) (v ++ b)

namespace SameMarks

variable {isMark : Char → Bool} {a b : List Char}

theorem symm (h : SameMarks isMark a b) : SameMarks isMark b a := by
  induction h with
  | nil => exact .nil
  | mark hc _ ih => exact .mark hc ih
  | run hu hv hu' hv' _ ih => exact .run hv hu hv' hu' ih

theorem eq_nil (h : SameMarks isMark a b) (ha : a = []) : b = [] := by
  cases h with
  | nil => rfl
  | mark => cases ha
  | run hu => exact absurd (List.append_eq_nil_iff.1 ha).1 hu

/-- A mark at the beginning of the one text begins the other. -/
theorem exists_of_mark {c : Char} {r : List Char} (h : SameMarks isMark a b) (hc : isMark c = true) (ha : a = c :: r) :
    ∃ s, b = c :: s ∧ SameMarks isMark r s := by
  cases h with
  | nil => cases ha
  | mark _ h =>
    obtain ⟨rfl, rfl⟩ := List.cons.inj ha
    exact ⟨_, rfl, h⟩
  | @run u v a b hu _ hu' =>
    obtain ⟨e, u, rfl⟩ := List.exists_cons_of_ne_nil hu
    obtain rfl := (List.cons.inj ha).1
    rw [hu' e List.mem_cons_self] at hc
    cases hc

end SameMarks

/-! ### Marks of a string -/

/-- The characters that tell where a string ends. -/
def isStringMark (q c : Char) : Bool := c == q || c == '\\' || c == '\n'

theorem isStringMark_eq_false {q c : Char} : isStringMark q c = false ↔ c ≠ q ∧ c ≠ '\\' ∧ c ≠ '\n' := by
  simp [isStringMark, and_assoc]

section Closes

variable {q c : Char} (hc : c ≠ '\\') (cs : List Char)

include hc

theorem closes_false_cons_iff :
    Closes q false (c :: cs) ↔ c = q ∧ cs = [] ∨ c ≠ q ∧ c ≠ '\n' ∧ Closes q false cs := by
  constructor
  · intro h
    cases h with
    | one => exact .inl ⟨rfl, rfl⟩
    | escaped => exact absurd rfl hc
    | inner _ hne _ h => exact .inr ⟨(hne rfl).1, (hne rfl).2, h⟩
  · rintro (⟨rfl, rfl⟩ | ⟨hquote, hline, h⟩)
    · exact .one
    · exact .inner hc (fun _ => ⟨hquote, hline⟩) (fun h => by cases h) h

theorem closes_true_cons_iff :
    Closes q true (c :: cs) ↔ c = q ∧ cs = [q, q] ∨ ¬ [q, q, q] <+: c :: cs ∧ Closes q true cs := by
  constructor
  · intro h
    cases h with
    | three => exact .inl ⟨rfl, rfl⟩
    | escaped => exact absurd rfl hc
    | inner _ _ hfront h => exact .inr ⟨hfront rfl, h⟩
  · rintro (⟨rfl, rfl⟩ | ⟨hfront, h⟩)
    · exact .three
    · exact .inner hc (fun h => by cases h) (fun _ => hfront) h

end Closes

/-- Characters that are no marks change nothing. -/
theorem closes_append_iff {q : Char} {t : Bool} {u : List Char} (hu : ∀ c ∈ u, isStringMark q c = false)
    (cs : List Char) : Closes q t (u ++ cs) ↔ Closes q t cs := by
  induction u with
  | nil => rfl
  | cons c u ih =>
    obtain ⟨hc, hu⟩ := List.forall_mem_cons.1 hu
    obtain ⟨hquote, hslash, hline⟩ := isStringMark_eq_false.1 hc
    have hfront : ¬ [q, q, q] <+: c :: (u ++ cs) := fun h => hquote (List.cons_prefix_cons.1 h).1.symm
    rw [← ih hu, List.cons_append]
    cases t with
    | false => simp [closes_false_cons_iff hslash, hquote, hline]
    | true => simp [closes_true_cons_iff hslash, hquote, hfront]

/-- A quote begins the closing quotes of the one text if it does so in the other. -/
theorem prefix_of_sameMarks {q : Char} {a b : List Char} (h : SameMarks (isStringMark q) a b) (hb : [q, q] <+: b) :
    [q, q] <+: a := by
  have hq : isStringMark q q = true := by simp [isStringMark]
  obtain ⟨r, rfl⟩ := hb
  obtain ⟨s, rfl, hrest⟩ := h.symm.exists_of_mark hq rfl
  obtain ⟨s, rfl, -⟩ := hrest.exists_of_mark hq rfl
  exact ⟨s, rfl⟩

/-- What closes a string closes every one with the same marks. The second part is about a first character that a
backslash keeps from counting. -/
theorem closes_of_sameMarks {q : Char} (hq : q ≠ '\\') {a b : List Char} (h : SameMarks (isStringMark q) a b)
    (t : Bool) : (Closes q t a → Closes q t b) ∧ (Closes q t ('\\' :: a) → Closes q t ('\\' :: b)) := by
  have hmark : isStringMark q q = true := by simp [isStringMark]
  induction h with
  | nil => exact ⟨id, id⟩
  | @mark c a b hc h ih =>
    refine ⟨fun hcloses => ?_, ?_⟩
    · by_cases hslash : c = '\\'
      · subst hslash
        exact ih.2 hcloses
      cases t with
      | false =>
        rw [closes_false_cons_iff hslash] at hcloses ⊢
        exact hcloses.imp (fun hend => ⟨hend.1, h.eq_nil hend.2⟩) fun hinner => ⟨hinner.1, hinner.2.1, ih.1 hinner.2.2⟩
      | true =>
        rw [closes_true_cons_iff hslash] at hcloses ⊢
        rcases hcloses with ⟨hquote, hend⟩ | ⟨hfront, hinner⟩
        · obtain ⟨s, rfl, hrest⟩ := h.exists_of_mark hmark hend
          obtain ⟨s, rfl, hend⟩ := hrest.exists_of_mark hmark rfl
          exact .inl ⟨hquote, by rw [hend.eq_nil rfl]⟩
        · refine .inr ⟨fun hthree => hfront ?_, ih.1 hinner⟩
          obtain ⟨rfl, hdouble⟩ := List.cons_prefix_cons.1 hthree
          exact List.cons_prefix_cons.2 ⟨rfl, prefix_of_sameMarks h hdouble⟩
    · rw [closes_escaped_iff hq, closes_escaped_iff hq]
      exact ih.1
  | @run u v a b hu hv hu' hv' _ ih =>
    refine ⟨?_, ?_⟩
    · rw [closes_append_iff hu', closes_append_iff hv']
      exact ih.1
    · obtain ⟨e, u, rfl⟩ := List.exists_cons_of_ne_nil hu
      obtain ⟨e', v, rfl⟩ := List.exists_cons_of_ne_nil hv
      rw [List.cons_append, List.cons_append, closes_escaped_iff hq, closes_escaped_iff hq,
        closes_append_iff (List.forall_mem_cons.1 hu').2, closes_append_iff (List.forall_mem_cons.1 hv').2]
      exact ih.1

/-! ### Closed literals -/

/-- A body that is closed is split off as a whole. -/
theorem splitBody_of_closes {q : Char} (hq : q ≠ '\\') {t : Bool} {b : List Char} (h : Closes q t b) :
    splitBody q t b = (b, true, []) := by
  induction h with
  | one => simp [splitBody_cons hq]
  | three => simp [splitBody_cons hq, startsDouble]
  | escaped _ ih => rw [splitBody, ih]
  | @inner t c cs hc hne hfront _ ih =>
    rw [splitBody_cons hc, ih]
    cases t with
    | false => simp [hne rfl]
    | true =>
      have hclose : (c == q && startsDouble q cs) = false := by
        by_contra hclose
        obtain ⟨hquote, hdouble⟩ := Bool.and_eq_true_iff.1 (Bool.not_eq_false _ ▸ hclose)
        obtain ⟨r, rfl⟩ := startsDouble_iff.1 hdouble
        exact hfront rfl ⟨r, by rw [eq_of_beq hquote]; rfl⟩
      simp [hclose]

theorem splitString_of_closes {q : Char} (hq : q ≠ '\\') {b : List Char}
    (h : Closes q false b ∨ ∃ body, b = q :: q :: body ∧ Closes q true body) : splitString q b = (b, true, []) := by
  rcases h with h | ⟨body, rfl, h⟩
  · have hdouble : ¬ startsDouble q b = true := by
      intro hdouble
      obtain ⟨r, rfl⟩ := startsDouble_iff.1 hdouble
      exact not_closes_double hq h
    rw [splitString, if_neg hdouble, splitBody_of_closes hq h]
  · simp [splitString, startsDouble, splitBody_of_closes hq h]

/-- What stands behind a closed literal does not change it, unless it makes two quotes three. -/
theorem splitString_append_of_closed {q : Char} (hq : q ≠ '\\') {b r : List Char}
    (h : splitString q b = (b, true, [])) (hthree : b = [q] → r.head? ≠ some q) :
    splitString q (b ++ r) = (b, true, r) := by
  by_cases hlong : 2 ≤ b.length
  · unfold splitString at h ⊢
    rw [startsDouble_append hlong]
    split at h
    · rename_i hdouble
      obtain ⟨body, rfl⟩ := startsDouble_iff.1 hdouble
      have hbody : splitBody q true body = (body, true, []) := by
        rcases hx : splitBody q true body with ⟨x, closed, rest⟩
        simpa [hx] using h
      have hclosed : (splitBody q true body).2.1 = true := by rw [hbody]
      have hcarry := splitBody_carry hq r (.inl hclosed)
      simp [startsDouble, hcarry, hbody]
    · rename_i hdouble
      rw [if_neg hdouble, splitBody_carry hq r (.inl (by rw [h])), h, List.nil_append]
  · rcases b with _ | ⟨c, _ | ⟨d, b⟩⟩
    · simp [splitString, startsDouble, splitBody] at h
    · obtain rfl : c = q := by
        by_contra hc
        by_cases hline : c = '\n' <;> simp_all [splitString, startsDouble, splitBody]
      have hdouble : ¬ startsDouble c ([c] ++ r) = true := by
        intro hdouble
        obtain ⟨s, hs⟩ := startsDouble_iff.1 hdouble
        obtain rfl : r = c :: s := (List.cons.inj hs).2
        exact hthree rfl rfl
      rw [splitString, if_neg hdouble, List.singleton_append, splitBody_cons hq]
      simp
    · simp at hlong

/-- Behind a literal of two quotes stands no third one. -/
theorem head?_splitString {q : Char} {cs : List Char} (h : (splitString q cs).1 = [q]) :
    (splitString q cs).2.2.head? ≠ some q := by
  intro hhead
  have happend := splitString_append q cs
  cases hrest : (splitString q cs).2.2 with
  | nil => rw [hrest] at hhead; cases hhead
  | cons d rest =>
    rw [hrest] at hhead happend
    obtain rfl : d = q := by simpa using hhead
    rw [h] at happend
    rw [← happend] at h
    simp [splitString, startsDouble] at h

theorem Closes.exists_last {q : Char} {t : Bool} {b : List Char} (h : Closes q t b) : ∃ a, b = a ++ [q] := by
  induction h with
  | one => exact ⟨[], rfl⟩
  | three => exact ⟨[q, q], rfl⟩
  | @escaped t c cs _ ih =>
    obtain ⟨a, rfl⟩ := ih
    exact ⟨'\\' :: c :: a, rfl⟩
  | @inner t c cs _ _ _ _ ih =>
    obtain ⟨a, rfl⟩ := ih
    exact ⟨c :: a, rfl⟩

end Likeness.Lex
