import Likeness.Proofs.Lex.Cut
import Likeness.Proofs.Lex.Tiling
import Likeness.Proofs.Lex.Written

/-!
# Texts that are read without flaws

Most characters begin a piece wherever they stand (`begins`). A text of such characters, of `!=`, of joined lines
and of comments is `Legible`. What a piece leaves of a legible text is legible again (`Legible.next`), so
all of it is read without flaws (`Legible.scan_clean`).
-/

namespace Likeness.Lex

open Text (isBlank)

/-! ### Characters that begin a piece -/

/-- Whether a character begins a piece wherever it stands: a blank, the beginning of a name, a digit or a symbol. -/
def begins (c : Char) : Bool := isBlank c || isNameStart c || c.isDigit || symbols.any fun s => s.1.toList == [c]

/-- The characters of which it matters what stands behind them. -/
def leading : List Char := ['!', '\\', '#', '\'', '"']

theorem begins_eq_false {c : Char} (hc : c ∈ leading) : begins c = false := by
  have hall : leading.all (fun c => !begins c) = true := by decide
  simpa using List.all_eq_true.1 hall c hc

theorem notMem_leading_of_isNamePart {c : Char} (hc : isNamePart c = true) : c ∉ leading := by
  have hall : leading.all (fun c => !isNamePart c) = true := by decide
  intro hmem
  have hnot := List.all_eq_true.1 hall c hmem
  simp [hc] at hnot

theorem notMem_leading_of_isNumberPart {c : Char} (hc : IsNumberPart c) : c ∉ leading := by
  rcases hc with hc | rfl | rfl | rfl
  · exact notMem_leading_of_isNamePart hc
  all_goals decide

theorem mem_leading_of_isQuote {q : Char} (hq : isQuote q = true) : q ∈ leading := by
  rcases isQuote_iff.1 hq with rfl | rfl <;> decide

/-! ### Legible texts -/

/-- A text in which each character begins a piece, or belongs to a sign of inequality, a joined line or a comment. -/
inductive Legible : List Char → Prop
  | nil : Legible []
  | char {c : Char} {cs : List Char} : begins c = true → Legible cs → Legible (c :: cs)
  | unequal {cs : List Char} : Legible cs → Legible ('!' :: '=' :: cs)
  | join {cs : List Char} : Legible cs → Legible ('\\' :: '\n' :: cs)
  | joinReturn {cs : List Char} : Legible cs → Legible ('\\' :: '\r' :: '\n' :: cs)
  | comment {body cs : List Char} :
      '\n' ∉ body → (cs = [] ∨ ∃ r, cs = '\n' :: r) → Legible cs → Legible ('#' :: (body ++ cs))

namespace Legible

theorem tail {c : Char} {cs : List Char} (h : Legible (c :: cs)) (hc : c ∉ leading) : Legible cs := by
  cases h with
  | char _ h => exact h
  | _ => exact absurd (by decide) hc

/-- A legible text may lose its beginning, unless there is a leading character in it. -/
theorem drop {a cs : List Char} (h : Legible (a ++ cs)) (ha : ∀ c ∈ a, c ∉ leading) : Legible cs := by
  induction a with
  | nil => exact h
  | cons c a ih =>
    obtain ⟨hc, ha⟩ := List.forall_mem_cons.1 ha
    exact ih (h.tail hc) ha

theorem not_quote {q : Char} {cs : List Char} (hq : isQuote q = true) : ¬ Legible (q :: cs) := by
  intro h
  cases h with
  | char hc _ =>
    rw [begins_eq_false (mem_leading_of_isQuote hq)] at hc
    cases hc
  | _ => cases hq

/-- No string begins a legible text. -/
theorem splitPrefix_eq_none {cs : List Char} (h : Legible cs) : splitPrefix cs = none := by
  cases hsplit : splitPrefix cs with
  | none => rfl
  | some literal =>
    obtain ⟨letters, q, rest⟩ := literal
    obtain ⟨rfl, hletters, hq⟩ := splitPrefix_eq_some hsplit
    exact absurd (h.drop fun l hl => notMem_leading_of_isNamePart (isNamePart_of_isPrefixLetter (hletters l hl))) (not_quote hq)

/-- A symbol that does not begin with a leading character has none. -/
theorem notMem_leading_of_splitSymbol {c : Char} {cs symbol rest : List Char} {kind : Kind} (hc : c ∉ leading)
    (h : splitSymbol (c :: cs) = some (kind, symbol, rest)) : ∀ x ∈ symbol, x ∉ leading := by
  have hall : symbols.all (fun s => s.1.toList.head?.any leading.contains || s.1.toList.all fun x => !leading.contains x) =
      true := by
    decide
  obtain ⟨happend, hne, -⟩ := splitSymbol_eq_some h
  obtain ⟨s, hs, -, rfl⟩ := exists_of_splitSymbol h
  have hs := List.all_eq_true.1 hall s hs
  cases hsymbol : s.1.toList with
  | nil => exact absurd hsymbol hne
  | cons x xs =>
    rw [hsymbol] at happend hs
    obtain ⟨rfl, -⟩ := List.cons.inj happend
    simpa [hc] using hs

theorem splitSymbol_isSome {c : Char} (hc : symbols.any (fun s => s.1.toList == [c]) = true) (cs : List Char) :
    (splitSymbol (c :: cs)).isSome = true := by
  obtain ⟨s, hs, hspelt⟩ := List.any_eq_true.1 hc
  rw [splitSymbol_eq, Option.isSome_map, List.find?_isSome]
  refine ⟨s, hs, ?_⟩
  rw [eq_of_beq hspelt]
  simp [List.isPrefixOf]

/-! ### The pieces of a legible text -/

/-- Where a character begins a piece, the piece is no misfit and no string, and has no leading characters. -/
theorem next_of_begins {c : Char} {cs : List Char} (hc : begins c = true) (h : Legible (c :: cs)) :
    (Piece.next c cs).1 ≠ .stray ∧ (Piece.next c cs).1 ≠ .string false ∧ ∀ x ∈ (Piece.next c cs).2.1, x ∉ leading := by
  have hleading : c ∉ leading := by
    intro hmem
    rw [begins_eq_false hmem] at hc
    cases hc
  by_cases hblank : isBlank c = true
  · rw [Piece.next_blank hblank]
    exact ⟨by simp, by simp, by simpa using hleading⟩
  by_cases hname : isNameStart c = true
  · rw [Piece.next_word hname h.splitPrefix_eq_none]
    refine ⟨by simp, by simp, List.forall_mem_cons.2 ⟨hleading, fun x hx => ?_⟩⟩
    rw [List.span_eq_takeWhile_dropWhile] at hx
    exact notMem_leading_of_isNamePart (List.mem_takeWhile_imp hx)
  by_cases hnumber : startsNumber (c :: cs) = true
  · rw [Piece.next_number hnumber]
    exact ⟨by simp, by simp, fun x hx => notMem_leading_of_isNumberPart (isNumberPart_of_mem_splitNumber hx)⟩
  · -- neither a blank nor a name nor a number begins here, so a symbol does
    have hdigit : c.isDigit = false := by
      by_cases hpoint : c = '.'
      · rw [hpoint]
        decide
      · simpa [startsNumber, hpoint] using hnumber
    have hsymbol : symbols.any (fun s => s.1.toList == [c]) = true := by simpa [begins, hblank, hname, hdigit] using hc
    obtain ⟨⟨kind, symbol, rest⟩, hsplit⟩ := Option.isSome_iff_exists.1 (splitSymbol_isSome hsymbol cs)
    rw [Piece.next_symbol (by simpa using hnumber) hsplit]
    exact ⟨by simp, by simp, notMem_leading_of_splitSymbol hleading hsplit⟩

/-- The piece at the beginning of a legible text is no misfit and no unclosed string, and leaves a legible text. -/
theorem next {c : Char} {cs : List Char} (h : Legible (c :: cs)) :
    (Piece.next c cs).1 ≠ .stray ∧ (Piece.next c cs).1 ≠ .string false ∧ Legible (Piece.next c cs).2.2 := by
  cases h with
  | char hc hcs =>
    have h : Legible (c :: cs) := .char hc hcs
    obtain ⟨hstray, hopen, hplain⟩ := h.next_of_begins hc
    obtain ⟨happend, -, -⟩ := Piece.next_spec c cs
    rw [← happend] at h
    exact ⟨hstray, hopen, h.drop hplain⟩
  | @unequal cs hcs =>
    have hnext : Piece.next '!' ('=' :: cs) = (.token .operator, ['!', '='], cs) := rfl
    rw [hnext]
    exact ⟨by simp, by simp, hcs⟩
  | @join cs hcs =>
    have hnext : Piece.next '\\' ('\n' :: cs) = (.layout, ['\\', '\n'], cs) := rfl
    rw [hnext]
    exact ⟨by simp, by simp, hcs⟩
  | @joinReturn cs hcs =>
    have hnext : Piece.next '\\' ('\r' :: '\n' :: cs) = (.layout, ['\\', '\r', '\n'], cs) := rfl
    rw [hnext]
    exact ⟨by simp, by simp, hcs⟩
  | comment hbody hend hcs =>
    rw [Piece.next_comment_append hbody hend]
    exact ⟨by simp, by simp, hcs⟩

/-- A legible text is cut into pieces that are no misfits and no unclosed strings. -/
theorem cut {cs : List Char} (h : Legible cs) : ∀ p ∈ Piece.cut cs, p.1 ≠ .stray ∧ p.1 ≠ .string false := by
  induction cs using Piece.cut_induction with
  | nil => simp
  | cons c cs ih =>
    obtain ⟨hstray, hopen, hrest⟩ := h.next
    rw [Piece.cut_cons]
    exact List.forall_mem_cons.2 ⟨⟨hstray, hopen⟩, ih hrest⟩

/-- A legible text is read without flaws, and so without misfit tokens. -/
theorem scan_clean {text : String} (h : Legible text.toList) :
    (scan text).2 = [] ∧ ∀ t ∈ (scan text).1, t.kind ≠ .error := by
  have hclean : (scan text).2 = [] := scan_clean_iff.2 h.cut
  exact ⟨hclean, fun t ht => kind_ne_error hclean ht⟩

end Legible
end Likeness.Lex
