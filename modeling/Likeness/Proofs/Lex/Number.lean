import Mathlib.Data.List.TakeDrop
import Mathlib.Data.List.TakeWhile
import Mathlib.Tactic.Common
import Likeness.Lex.Piece
import Likeness.Proofs.Text.Letters

/-!
# Numbers at the beginning of a text

Splitting off a number takes a beginning of the text and leaves the rest (`splitNumber_append`). What is
taken stays the same when a character that ends a number (`Ends`) is put behind the text, with whatever
follows (`splitNumber_carry`). The same holds of the parts of a number, from which the two are
put together. What is taken has few characters besides those of names (`isNumberPart_of_mem_splitNumber`), and a
digit among them (`any_isDigit_splitNumber`).
-/

namespace Likeness.Lex

open Text (isAlpha_iff)

/-! ### Letters and digits -/

theorem isNamePart_of_isDigit {c : Char} (hc : c.isDigit = true) : isNamePart c = true := by
  have hlow : c.toNat < 0x80 := by
    simp [Char.isDigit, UInt32.le_iff_toNat_le] at hc
    omega
  simp [isNamePart, Text.isNumeric, hlow, hc]

theorem isNamePart_of_isAlpha {c : Char} (hc : c.isAlpha = true) : isNamePart c = true := by
  have hlow : c.toNat < 0x80 := by
    have := isAlpha_iff.1 hc
    omega
  simp [isNamePart, Text.isAlphabetic, hlow, hc]

theorem isNamePart_of_isHexPart {c : Char} (hc : isHexPart c = true) : isNamePart c = true := by
  simp [isHexPart, Char.le_def, UInt32.le_iff_toNat_le] at hc
  rcases hc with ((hdigit | hlower) | hupper) | rfl
  · exact isNamePart_of_isDigit hdigit
  · exact isNamePart_of_isAlpha (isAlpha_iff.2 (.inr ⟨hlower.1, by omega⟩))
  · exact isNamePart_of_isAlpha (isAlpha_iff.2 (.inl ⟨hupper.1, by omega⟩))
  · decide

theorem isNamePart_of_isDigitPart {c : Char} (hc : isDigitPart c = true) : isNamePart c = true := by
  rcases Bool.or_eq_true_iff.1 hc with hdigit | hunderscore
  · exact isNamePart_of_isDigit hdigit
  · rw [eq_of_beq hunderscore]
    rfl

theorem isNamePart_of_isBaseLetter {c : Char} (hc : isBaseLetter c = true) : isNamePart c = true := by
  simp [isBaseLetter] at hc
  rcases hc with rfl | rfl | rfl | rfl | rfl | rfl <;> decide

theorem isNamePart_of_isBlank {c : Char} (hc : Text.isBlank c = true) : isNamePart c = false := by
  have hunderscore : c ≠ '_' := by
    rintro rfl
    exact absurd hc (by decide)
  simp [isNamePart, hunderscore, Text.isAlphabetic_of_isBlank hc, Text.isNumeric_of_isBlank hc]

theorem isNamePart_of_isPrefixLetter {c : Char} (hc : isPrefixLetter c = true) : isNamePart c = true := by
  simp [isPrefixLetter] at hc
  rcases hc with rfl | rfl | rfl | rfl | rfl | rfl | rfl | rfl <;> decide

theorem toNat_of_isPrefixLetter {c : Char} (hc : isPrefixLetter c = true) : c.toNat < 0x80 := by
  simp [isPrefixLetter] at hc
  rcases hc with rfl | rfl | rfl | rfl | rfl | rfl | rfl | rfl <;> decide

/-! ### Characters that end names, numbers and symbols -/

/-- A character that is no part of a name, a number or a symbol. -/
structure Ends (d : Char) : Prop where
  name : isNamePart d = false
  symbol : ∀ s ∈ symbols, d ∉ s.1.toList

/-- A character that is no part of a name, a number or a symbol, and no quote. -/
structure Breaks (d : Char) : Prop extends Ends d where
  quote : isQuote d = false

theorem breaks_newline : Breaks '\n' where
  name := by decide
  quote := by decide
  symbol := by decide

namespace Ends

variable {d : Char} (hd : Ends d)

include hd

/-- What holds of parts of names only does not hold of a character that ends them. -/
theorem eq_false {p : Char → Bool} (hp : ∀ {c}, p c = true → isNamePart c = true) : p d = false := by
  by_contra h
  have hname := hp (by simpa using h)
  rw [hd.name] at hname
  cases hname

theorem isDigit_eq : d.isDigit = false := hd.eq_false isNamePart_of_isDigit

theorem isHexPart_eq : isHexPart d = false := hd.eq_false isNamePart_of_isHexPart

theorem isDigitPart_eq : isDigitPart d = false := hd.eq_false isNamePart_of_isDigitPart

theorem isBaseLetter_eq : isBaseLetter d = false := hd.eq_false isNamePart_of_isBaseLetter

theorem isPrefixLetter_eq : isPrefixLetter d = false := hd.eq_false isNamePart_of_isPrefixLetter

theorem ne_of_isNamePart {c : Char} (hc : isNamePart c = true) : d ≠ c := by
  rintro rfl
  rw [hd.name] at hc
  cases hc

theorem ne_of_mem_symbol {c : Char} {s : String × Kind} (hs : s ∈ symbols) (hc : c ∈ s.1.toList) : d ≠ c := by
  rintro rfl
  exact hd.symbol s hs hc

theorem ne_point : d ≠ '.' := hd.ne_of_mem_symbol (s := (".", .punctuation)) (by simp [symbols]) (by decide)

theorem ne_plus : d ≠ '+' := hd.ne_of_mem_symbol (s := ("+", .operator)) (by simp [symbols]) (by decide)

theorem ne_minus : d ≠ '-' := hd.ne_of_mem_symbol (s := ("-", .operator)) (by simp [symbols]) (by decide)

end Ends

/-! ### Runs of characters of one class -/

variable {d : Char} {r : List Char}

theorem span_append (p : Char → Bool) (cs : List Char) : (cs.span p).1 ++ (cs.span p).2 = cs := by
  simp [List.span_eq_takeWhile_dropWhile]

theorem span_carry {p : Char → Bool} (hp : p d = false) (cs : List Char) :
    (cs ++ d :: r).span p = Prod.map id (· ++ d :: r) (cs.span p) := by
  simp only [List.span_eq_takeWhile_dropWhile, Prod.map, id]
  induction cs with
  | nil => simp [hp]
  | cons c cs ih =>
    by_cases hc : p c = true
    · simp_all
    · simp [hc]

/-- A run of characters of a class ends before a character that is not of it. -/
theorem span_append_of_head? {p : Char → Bool} {a r : List Char} (ha : ∀ c ∈ a, p c = true)
    (hr : ∀ x ∈ r.head?, p x = false) : (a ++ r).span p = (a, r) := by
  rw [List.span_eq_takeWhile_dropWhile, List.takeWhile_append_of_pos ha, List.dropWhile_append_of_pos ha]
  cases r with
  | nil => simp
  | cons x r => simp [hr x rfl]

theorem span_ne_nil {p : Char → Bool} {c : Char} (hc : p c = true) (cs : List Char) :
    ((c :: cs).span p).1 ≠ [] := by
  simp [List.span_eq_takeWhile_dropWhile, hc]

/-! ### Fractions -/

theorem splitFraction_append (cs : List Char) : (splitFraction cs).1 ++ (splitFraction cs).2 = cs := by
  unfold splitFraction
  split
  · simp
  · rfl

theorem splitFraction_carry (hd : Ends d) (cs : List Char) :
    splitFraction (cs ++ d :: r) = Prod.map id (· ++ d :: r) (splitFraction cs) := by
  have hpoint := hd.ne_point
  fun_cases splitFraction cs with
  | case1 cs digits rest e =>
    rw [List.cons_append, splitFraction, span_carry hd.isDigitPart_eq, e]
    rfl
  | case2 cs hcs =>
    cases cs with
    | nil => simp [splitFraction, hpoint]
    | cons c cs =>
      have hc : c ≠ '.' := fun h => hcs cs (by rw [h])
      simp [splitFraction, hc]

/-! ### Exponents -/

/-- The sign at the beginning of a text, if there is one. -/
def splitSign : List Char → List Char × List Char
  | '+' :: ds => (['+'], ds)
  | '-' :: ds => (['-'], ds)
  | ds => ([], ds)

theorem splitSign_append (cs : List Char) : (splitSign cs).1 ++ (splitSign cs).2 = cs := by
  unfold splitSign
  split <;> rfl

theorem splitSign_carry (hplus : d ≠ '+') (hminus : d ≠ '-') (cs : List Char) :
    splitSign (cs ++ d :: r) = Prod.map id (· ++ d :: r) (splitSign cs) := by
  cases cs with
  | nil => simp [splitSign, hplus, hminus]
  | cons c cs =>
    by_cases hp : c = '+'
    · simp [hp, splitSign]
    · by_cases hm : c = '-' <;> simp [hp, hm, splitSign]

theorem head?_splitSign_carry (hplus : d ≠ '+') (hminus : d ≠ '-') (hdigit : d.isDigit = false) (cs : List Char) :
    (splitSign (cs ++ d :: r)).2.head?.any Char.isDigit = (splitSign cs).2.head?.any Char.isDigit := by
  rw [splitSign_carry hplus hminus]
  cases h : (splitSign cs).2 <;> simp [h, hdigit]

theorem splitExponent_cons (e : Char) (cs : List Char) :
    splitExponent (e :: cs) =
      if (e == 'e' || e == 'E') && (splitSign cs).2.head?.any Char.isDigit then
        (e :: (splitSign cs).1 ++ ((splitSign cs).2.span isDigitPart).1, ((splitSign cs).2.span isDigitPart).2)
      else ([], e :: cs) := by
  by_cases he : (e == 'e' || e == 'E') = true
  · fun_cases splitSign cs with
    | case1 ds => cases ds <;> simp [splitExponent, he]
    | case2 ds => cases ds <;> simp [splitExponent, he]
    | case3 => cases cs <;> simp [splitExponent, he]
  · simp [splitExponent, he]

theorem splitExponent_append (cs : List Char) : (splitExponent cs).1 ++ (splitExponent cs).2 = cs := by
  cases cs with
  | nil => rfl
  | cons e cs =>
    rw [splitExponent_cons]
    split
    · rw [List.append_assoc, span_append, List.cons_append, splitSign_append]
    · rfl

theorem splitExponent_carry (hd : Ends d) (cs : List Char) :
    splitExponent (cs ++ d :: r) = Prod.map id (· ++ d :: r) (splitExponent cs) := by
  cases cs with
  | nil =>
    have he : d ≠ 'e' := hd.ne_of_isNamePart (by decide)
    have hE : d ≠ 'E' := hd.ne_of_isNamePart (by decide)
    simp [splitExponent, he, hE]
  | cons e cs =>
    rw [List.cons_append, splitExponent_cons, splitExponent_cons,
      head?_splitSign_carry hd.ne_plus hd.ne_minus hd.isDigit_eq, splitSign_carry hd.ne_plus hd.ne_minus]
    simp only [Prod.map, id, span_carry hd.isDigitPart_eq]
    split <;> simp

/-! ### Numbers -/

theorem splitDecimal_append (cs : List Char) : (splitDecimal cs).1 ++ (splitDecimal cs).2 = cs := by
  simp only [splitDecimal, List.append_assoc, splitExponent_append, splitFraction_append, span_append]

theorem splitDecimal_carry (hd : Ends d) (cs : List Char) :
    splitDecimal (cs ++ d :: r) = Prod.map id (· ++ d :: r) (splitDecimal cs) := by
  simp only [splitDecimal, span_carry hd.isDigitPart_eq, Prod.map, id, splitFraction_carry hd, splitExponent_carry hd]

/-- A number begins with a digit or a point. -/
theorem startsNumber_cases {cs : List Char} (h : startsNumber cs = true) :
    (∃ c ds, cs = c :: ds ∧ c.isDigit = true) ∨ ∃ ds, cs = '.' :: ds := by
  unfold startsNumber at h
  split at h
  · exact .inr ⟨_, rfl⟩
  · exact .inl ⟨_, _, rfl, h⟩
  · cases h

theorem startsNumber_of_isDigit {c : Char} (hc : c.isDigit = true) (r : List Char) : startsNumber (c :: r) = true := by
  have hpoint : c ≠ '.' := by
    rintro rfl
    cases hc
  simp [startsNumber, hpoint, hc]

theorem startsNumber_append {a : List Char} (h : startsNumber a = true) (b : List Char) : startsNumber (a ++ b) = true := by
  fun_cases startsNumber a with
  | case1 d ds => exact h
  | case2 c ds => exact startsNumber_of_isDigit (by simpa [startsNumber] using h) _
  | case3 => cases h

theorem splitDecimal_ne_nil {cs : List Char} (h : startsNumber cs = true) : (splitDecimal cs).1 ≠ [] := by
  rcases startsNumber_cases h with ⟨c, ds, rfl, hc⟩ | ⟨ds, rfl⟩
  · simp only [splitDecimal, List.append_assoc]
    exact List.append_ne_nil_of_left_ne_nil (span_ne_nil (by simp [isDigitPart, hc]) ds) _
  · simp [splitDecimal, splitFraction, isDigitPart]

theorem splitDigits_of_base {x : Char} (hx : isBaseLetter x = true) (cs : List Char) :
    splitDigits ('0' :: x :: cs) = ('0' :: x :: (cs.span isHexPart).1, (cs.span isHexPart).2) := by
  rw [splitDigits, if_pos hx]

theorem splitDigits_of_decimal {cs : List Char} (h : ∀ x ds, cs = '0' :: x :: ds → isBaseLetter x = false) :
    splitDigits cs = splitDecimal cs := by
  unfold splitDigits
  split
  · rename_i x ds
    simp [h x ds rfl]
  · rfl

/-- The digits are those of a number of another base, or of a decimal one. -/
theorem splitDigits_cases (cs : List Char) :
    (∃ x ds, cs = '0' :: x :: ds ∧ isBaseLetter x = true) ∨
      ∀ x ds, cs = '0' :: x :: ds → isBaseLetter x = false := by
  by_cases hbase : ∃ x ds, cs = '0' :: x :: ds ∧ isBaseLetter x = true
  · exact .inl hbase
  · refine .inr fun x ds e => ?_
    by_contra hx
    exact hbase ⟨x, ds, e, by simpa using hx⟩

theorem splitDigits_append (cs : List Char) : (splitDigits cs).1 ++ (splitDigits cs).2 = cs := by
  rcases splitDigits_cases cs with ⟨x, ds, rfl, hx⟩ | hdecimal
  · simp [splitDigits_of_base hx]
  · rw [splitDigits_of_decimal hdecimal, splitDecimal_append]

theorem splitDigits_carry (hd : Ends d) (cs : List Char) :
    splitDigits (cs ++ d :: r) = Prod.map id (· ++ d :: r) (splitDigits cs) := by
  rcases splitDigits_cases cs with ⟨x, ds, rfl, hx⟩ | hdecimal
  · rw [List.cons_append, List.cons_append, splitDigits_of_base hx, splitDigits_of_base hx,
      span_carry hd.isHexPart_eq]
    rfl
  · rw [splitDigits_of_decimal hdecimal, splitDigits_of_decimal, splitDecimal_carry hd]
    intro x ds e
    -- the second character is one of the text, or the one behind it
    match cs with
    | [] =>
      obtain ⟨rfl, -⟩ := List.cons.inj e
      exact absurd hd.name (by decide)
    | [c] =>
      obtain ⟨rfl, -⟩ := List.cons.inj (List.cons.inj e).2
      exact hd.isBaseLetter_eq
    | c :: y :: cs =>
      have hc : c = '0' := (List.cons.inj e).1
      have hy : y = x := (List.cons.inj (List.cons.inj e).2).1
      exact hdecimal x cs (by rw [hc, hy])

theorem splitDigits_ne_nil {cs : List Char} (h : startsNumber cs = true) : (splitDigits cs).1 ≠ [] := by
  rcases splitDigits_cases cs with ⟨x, ds, rfl, hx⟩ | hdecimal
  · simp [splitDigits_of_base hx]
  · rw [splitDigits_of_decimal hdecimal]
    exact splitDecimal_ne_nil h

theorem splitNumber_eq (cs : List Char) :
    splitNumber cs =
      match (splitDigits cs).2 with
      | j :: rest => if j == 'j' || j == 'J' then ((splitDigits cs).1 ++ [j], rest) else splitDigits cs
      | [] => splitDigits cs := by
  unfold splitNumber
  split
  · rename_i digits j rest e
    simp [e]
  · rename_i digits e
    simp [e]

theorem splitNumber_append (cs : List Char) : (splitNumber cs).1 ++ (splitNumber cs).2 = cs := by
  have happend := splitDigits_append cs
  rw [splitNumber_eq]
  split
  · rename_i j rest e
    rw [e] at happend
    split <;> simp_all
  · exact happend

theorem splitNumber_carry (hd : Ends d) (cs : List Char) :
    splitNumber (cs ++ d :: r) = Prod.map id (· ++ d :: r) (splitNumber cs) := by
  have hj : d ≠ 'j' := hd.ne_of_isNamePart (by decide)
  have hJ : d ≠ 'J' := hd.ne_of_isNamePart (by decide)
  rw [splitNumber_eq, splitNumber_eq, splitDigits_carry hd]
  cases h : (splitDigits cs).2 with
  | nil => simp [h, hj, hJ]
  | cons j rest => by_cases himaginary : (j == 'j' || j == 'J') = true <;> simp [h, himaginary]

theorem splitNumber_ne_nil {cs : List Char} (h : startsNumber cs = true) : (splitNumber cs).1 ≠ [] := by
  have hdigits := splitDigits_ne_nil h
  rw [splitNumber_eq]
  split
  · split
    · simp
    · exact hdigits
  · exact hdigits

theorem mem_splitNumber {cs : List Char} {c : Char} (hc : c ∈ (splitDigits cs).1) : c ∈ (splitNumber cs).1 := by
  rw [splitNumber_eq]
  split
  · split
    · exact List.mem_append_left _ hc
    · exact hc
  · exact hc

/-- Every number has a digit. -/
theorem any_isDigit_splitNumber {cs : List Char} (h : startsNumber cs = true) : (splitNumber cs).1.any Char.isDigit = true := by
  rcases startsNumber_cases h with ⟨c, ds, rfl, hc⟩ | ⟨ds, rfl⟩
  · obtain ⟨x, xs, hnumber⟩ := List.exists_cons_of_ne_nil (splitNumber_ne_nil h)
    have happend := splitNumber_append (c :: ds)
    rw [hnumber] at happend ⊢
    obtain rfl : x = c := (List.cons.inj happend).1
    simp [hc]
  · -- behind a point a number goes on with a digit
    obtain ⟨d, ds, rfl⟩ : ∃ d ds', ds = d :: ds' := List.exists_cons_of_ne_nil (by rintro rfl; cases h)
    have hd : d.isDigit = true := h
    refine List.any_eq_true.2 ⟨d, mem_splitNumber ?_, hd⟩
    rw [splitDigits_of_decimal (by rintro x ds ⟨⟩)]
    simp [splitDecimal, splitFraction, List.span_eq_takeWhile_dropWhile, isDigitPart, hd]

/-! ### What a number is spelt by -/

/-- A character that numbers are spelt by. -/
def IsNumberPart (c : Char) : Prop := isNamePart c = true ∨ c = '.' ∨ c = '+' ∨ c = '-'

section Spelling

variable {c : Char} {cs : List Char}

theorem isNumberPart_of_mem_span {p : Char → Bool} (hp : ∀ {c}, p c = true → isNamePart c = true)
    (hc : c ∈ (cs.span p).1) : IsNumberPart c := by
  rw [List.span_eq_takeWhile_dropWhile] at hc
  exact .inl (hp (List.mem_takeWhile_imp hc))

theorem isNumberPart_of_mem_splitFraction (hc : c ∈ (splitFraction cs).1) : IsNumberPart c := by
  fun_cases splitFraction cs with
  | case1 cs digits rest e =>
    rw [splitFraction] at hc
    rcases List.mem_cons.1 hc with rfl | hc
    · exact .inr (.inl rfl)
    · exact isNumberPart_of_mem_span isNamePart_of_isDigitPart hc
  | case2 cs hcs =>
    simp [splitFraction] at hc

theorem isNumberPart_of_mem_splitSign (hc : c ∈ (splitSign cs).1) : IsNumberPart c := by
  fun_cases splitSign cs with
  | case1 => exact .inr (.inr (.inl (List.mem_singleton.1 hc)))
  | case2 => exact .inr (.inr (.inr (List.mem_singleton.1 hc)))
  | case3 => simp [splitSign] at hc

theorem isNumberPart_of_mem_splitExponent (hc : c ∈ (splitExponent cs).1) : IsNumberPart c := by
  cases cs with
  | nil => cases hc
  | cons e cs =>
    rw [splitExponent_cons] at hc
    split at hc
    · rename_i he
      rcases List.mem_append.1 hc with hc | hc
      · rcases List.mem_cons.1 hc with rfl | hc
        · have he : c = 'e' ∨ c = 'E' := by simpa using (Bool.and_eq_true_iff.1 he).1
          rcases he with rfl | rfl <;> exact .inl (by decide)
        · exact isNumberPart_of_mem_splitSign hc
      · exact isNumberPart_of_mem_span isNamePart_of_isDigitPart hc
    · cases hc

theorem isNumberPart_of_mem_splitDecimal (hc : c ∈ (splitDecimal cs).1) : IsNumberPart c := by
  simp only [splitDecimal, List.mem_append] at hc
  rcases hc with (hc | hc) | hc
  · exact isNumberPart_of_mem_span isNamePart_of_isDigitPart hc
  · exact isNumberPart_of_mem_splitFraction hc
  · exact isNumberPart_of_mem_splitExponent hc

theorem isNumberPart_of_mem_splitDigits (hc : c ∈ (splitDigits cs).1) : IsNumberPart c := by
  rcases splitDigits_cases cs with ⟨x, ds, rfl, hx⟩ | hdecimal
  · rw [splitDigits_of_base hx] at hc
    rcases List.mem_cons.1 hc with rfl | hc
    · exact .inl (by decide)
    rcases List.mem_cons.1 hc with rfl | hc
    · exact .inl (isNamePart_of_isBaseLetter hx)
    · exact isNumberPart_of_mem_span isNamePart_of_isHexPart hc
  · rw [splitDigits_of_decimal hdecimal] at hc
    exact isNumberPart_of_mem_splitDecimal hc

theorem isNumberPart_of_mem_splitNumber (hc : c ∈ (splitNumber cs).1) : IsNumberPart c := by
  rw [splitNumber_eq] at hc
  split at hc
  · split at hc
    · rename_i hj
      rcases List.mem_append.1 hc with hc | hc
      · exact isNumberPart_of_mem_splitDigits hc
      · obtain rfl := List.mem_singleton.1 hc
        have hj : c = 'j' ∨ c = 'J' := by simpa using hj
        rcases hj with rfl | rfl <;> exact .inl (by decide)
    · exact isNumberPart_of_mem_splitDigits hc
  · exact isNumberPart_of_mem_splitDigits hc

end Spelling

end Likeness.Lex
