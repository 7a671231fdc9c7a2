import Likeness.Proofs.Grammar.Pattern
import Likeness.Proofs.Lex.Lines

/-!
# Numerals are read whole

The numerals of the language are given by a pattern for each production of their grammar (`Numeral.numeral`). Every one is
read as a token that takes all of it and nothing more, if no letter of ASCII, digit, underscore or point stands behind it
(`readsWhole_of_numeral`).

The scan reads more than the grammar has: it takes digits and underscores in any order, and it asks for a digit only at
the beginning and behind the letter of an exponent. So a decimal number is put into the parts that the scan splits off,
which are digits, a fraction and an exponent (`Numeral.IsDecimal`). Each part ends where the next one begins, and so the
number is split off as a whole (`Numeral.splitDecimal_append_of_isDecimal`).
-/

namespace Likeness.Lex
namespace Numeral

open Grammar (Pattern)
open Text (CharSet)

/-! ### The grammar -/

def digit : Pattern := .oneOf "0123456789"

/-- A digit, behind an underscore or not. -/
def behindGap (p : Pattern) : Pattern := .seq (.opt (.oneOf "_")) p

def decimalInteger : Pattern :=
  .alt (.seq (.oneOf "123456789") (.many (behindGap digit)))
    (.seq (.many1 (.oneOf "0")) (.many (behindGap (.oneOf "0"))))

/-- A number of another base, which a letter behind a zero stands for. -/
def basedInteger (letters digits : String) : Pattern :=
  .seq (.oneOf "0") (.seq (.oneOf letters) (.many1 (behindGap (.oneOf digits))))

def integer : Pattern :=
  .alts [decimalInteger, basedInteger "bB" "01", basedInteger "oO" "01234567",
    basedInteger "xX" "0123456789abcdefABCDEF"]

def digitPart : Pattern := .seq digit (.many (behindGap digit))

def fraction : Pattern := .seq (.oneOf ".") digitPart

def exponent : Pattern := .seq (.oneOf "eE") (.seq (.opt (.oneOf "+-")) digitPart)

def pointFloat : Pattern := .alt (.seq (.opt digitPart) fraction) (.seq digitPart (.oneOf "."))

def exponentFloat : Pattern := .seq (.alt digitPart pointFloat) exponent

def float : Pattern := .alt pointFloat exponentFloat

def imaginary : Pattern := .seq (.alt float digitPart) (.oneOf "jJ")

/-- A number as it may be written. -/
def numeral : Pattern := .alts [integer, float, imaginary]

/-! ### Decimal numbers -/

/-- Digits and underscores, in any order. -/
def IsDigits (ds : List Char) : Prop := ∀ c ∈ ds, isDigitPart c = true

/-- Nothing, or a point with digits and underscores. -/
def IsFraction (f : List Char) : Prop := f = [] ∨ ∃ ds, f = '.' :: ds ∧ IsDigits ds

/-- Nothing, or an exponent. -/
def IsExponent (e : List Char) : Prop := e = [] ∨ exponent.Matches e

/-- A decimal number as far as its exponent. -/
structure IsMantissa (m : List Char) : Prop where
  starts : startsNumber m = true
  parts : ∃ a f, m = a ++ f ∧ IsDigits a ∧ IsFraction f

/-- A decimal number by the parts that the scan splits off. -/
def IsDecimal (w : List Char) : Prop := ∃ m e, w = m ++ e ∧ IsMantissa m ∧ IsExponent e

section Parts

variable {w : List Char}

theorem isDigit_of_mem {s : String} (hs : s ∈ ["0123456789", "123456789", "0"]) {c : Char} (hc : c ∈ s.toList) :
    c.isDigit = true := by
  have hall : ["0123456789", "123456789", "0"].all (fun s => s.toList.all Char.isDigit) = true := by decide
  exact List.all_eq_true.1 (List.all_eq_true.1 hall s hs) c hc

theorem exists_cons_of_digitPart (hw : digitPart.Matches w) : ∃ c r, w = c :: r ∧ c.isDigit = true := by
  obtain ⟨a, r, rfl, ha, -⟩ := Pattern.matches_seq.1 hw
  obtain ⟨c, rfl, hc⟩ := Pattern.matches_oneOf.1 ha
  exact ⟨c, r, rfl, isDigit_of_mem (by simp) hc⟩

theorem startsNumber_of_digitPart (hw : digitPart.Matches w) : startsNumber w = true := by
  obtain ⟨c, r, rfl, hc⟩ := exists_cons_of_digitPart hw
  exact startsNumber_of_isDigit hc r

theorem isDigits_of_digitPart (hw : digitPart.Matches w) : IsDigits w :=
  hw.forall_of_sets ["0123456789", "_", "0123456789"] rfl (by decide)

theorem isMantissa_of_decimalInteger (hw : decimalInteger.Matches w) : IsMantissa w where
  starts := by
    rcases Pattern.matches_alt.1 hw with hw | hw
    · obtain ⟨a, r, rfl, ha, -⟩ := Pattern.matches_seq.1 hw
      obtain ⟨c, rfl, hc⟩ := Pattern.matches_oneOf.1 ha
      exact startsNumber_of_isDigit (isDigit_of_mem (by simp) hc) r
    · obtain ⟨zeros, r, rfl, hzeros, -⟩ := Pattern.matches_seq.1 hw
      obtain ⟨hne, hall⟩ := Pattern.matches_many1_chars.1 hzeros
      obtain ⟨c, zeros, rfl⟩ := List.exists_cons_of_ne_nil hne
      have hc : c ∈ "0".toList := CharSet.contains_ofString.1 (hall c List.mem_cons_self)
      exact startsNumber_of_isDigit (isDigit_of_mem (by simp) hc) _
  parts := ⟨w, [], (List.append_nil w).symm,
    hw.forall_of_sets ["123456789", "_", "0123456789", "0", "_", "0"] rfl (by decide), .inl rfl⟩

theorem isMantissa_of_digitPart (hw : digitPart.Matches w) : IsMantissa w where
  starts := startsNumber_of_digitPart hw
  parts := ⟨w, [], (List.append_nil w).symm, isDigits_of_digitPart hw, .inl rfl⟩

theorem isMantissa_of_pointFloat (hw : pointFloat.Matches w) : IsMantissa w := by
  rcases Pattern.matches_alt.1 hw with hw | hw
  · obtain ⟨a, f, rfl, ha, hf⟩ := Pattern.matches_seq.1 hw
    obtain ⟨point, ds, rfl, hpoint, hds⟩ := Pattern.matches_seq.1 hf
    obtain rfl : point = ['.'] := by simpa using hpoint
    have hfraction : IsFraction (['.'] ++ ds) := .inr ⟨ds, rfl, isDigits_of_digitPart hds⟩
    rcases Pattern.matches_opt.1 ha with ha | rfl
    · exact ⟨startsNumber_append (startsNumber_of_digitPart ha) _, a, _, rfl, isDigits_of_digitPart ha, hfraction⟩
    · obtain ⟨d, r, rfl, hd⟩ := exists_cons_of_digitPart hds
      exact ⟨hd, [], _, rfl, List.forall_mem_nil _, hfraction⟩
  · obtain ⟨a, point, rfl, ha, hpoint⟩ := Pattern.matches_seq.1 hw
    obtain rfl : point = ['.'] := by simpa using hpoint
    exact ⟨startsNumber_append (startsNumber_of_digitPart ha) _, a, ['.'], rfl, isDigits_of_digitPart ha,
      .inr ⟨[], rfl, List.forall_mem_nil _⟩⟩

theorem isDecimal_of_mantissa (hw : IsMantissa w) : IsDecimal w := ⟨w, [], (List.append_nil w).symm, hw, .inl rfl⟩

theorem isDecimal_of_float (hw : float.Matches w) : IsDecimal w := by
  rcases Pattern.matches_alt.1 hw with hw | hw
  · exact isDecimal_of_mantissa (isMantissa_of_pointFloat hw)
  · obtain ⟨m, e, rfl, hm, he⟩ := Pattern.matches_seq.1 hw
    exact ⟨m, e, rfl, (Pattern.matches_alt.1 hm).elim isMantissa_of_digitPart isMantissa_of_pointFloat, .inr he⟩

theorem letter_of_isBaseLetter {c : Char} (hc : isBaseLetter c = true) : c.isAlphanum = true ∧ isDigitPart c = false := by
  simp [isBaseLetter] at hc
  rcases hc with rfl | rfl | rfl | rfl | rfl | rfl <;> exact ⟨by decide, by decide⟩

theorem IsDigits.isBaseLetter_eq {ds : List Char} (hds : IsDigits ds) : ∀ c ∈ ds, isBaseLetter c = false := by
  intro c hc
  have hdigit := hds c hc
  by_contra hletter
  rw [(letter_of_isBaseLetter (by simpa using hletter)).2] at hdigit
  cases hdigit

/-- No letter of a decimal number makes it a number of another base. -/
theorem IsDecimal.isBaseLetter_eq (hw : IsDecimal w) : ∀ c ∈ w, isBaseLetter c = false := by
  obtain ⟨m, e, rfl, ⟨-, a, f, rfl, ha, hf⟩, he⟩ := hw
  refine List.forall_mem_append.2 ⟨List.forall_mem_append.2 ⟨ha.isBaseLetter_eq, ?_⟩, ?_⟩
  · rcases hf with rfl | ⟨ds, rfl, hds⟩
    · simp
    · exact List.forall_mem_cons.2 ⟨by decide, hds.isBaseLetter_eq⟩
  · rcases he with rfl | he
    · simp
    · have hall : ∀ c ∈ e, (!isBaseLetter c) = true :=
        he.forall_of_sets ["eE", "+-", "0123456789", "_", "0123456789"] rfl (by decide)
      simpa using hall

theorem IsDecimal.startsNumber_append (hw : IsDecimal w) (r : List Char) : startsNumber (w ++ r) = true := by
  obtain ⟨m, e, rfl, hm, -⟩ := hw
  rw [List.append_assoc]
  exact Lex.startsNumber_append hm.starts _

end Parts

/-! ### What is split off -/

/-- A character that no decimal number goes on with. -/
structure EndsDecimal (x : Char) : Prop where
  digit : isDigitPart x = false
  point : x ≠ '.'
  exponent : x ≠ 'e' ∧ x ≠ 'E'
  base : isBaseLetter x = false

section Split

variable {w f e r : List Char}

theorem splitExponent_append_of_isExponent (he : IsExponent e) (hr : ∀ x ∈ r.head?, EndsDecimal x) :
    splitExponent (e ++ r) = (e, r) := by
  rcases he with rfl | he
  · cases r with
    | nil => rfl
    | cons x r => simp [splitExponent_cons, (hr x rfl).exponent]
  · obtain ⟨letter, rest, rfl, hletter, hrest⟩ := Pattern.matches_seq.1 he
    obtain ⟨sign, ds, rfl, hsign, hds⟩ := Pattern.matches_seq.1 hrest
    obtain ⟨l, rfl, hl⟩ := Pattern.matches_oneOf.1 hletter
    have hl : l = 'e' ∨ l = 'E' := by simpa using hl
    obtain ⟨d, ds', rfl, hd⟩ := exists_cons_of_digitPart hds
    have hsplit : splitSign (sign ++ (d :: ds' ++ r)) = (sign, d :: ds' ++ r) := by
      rcases Pattern.matches_opt.1 hsign with hsign | rfl
      · obtain ⟨s, rfl, hs⟩ := Pattern.matches_oneOf.1 hsign
        have hs : s = '+' ∨ s = '-' := by simpa using hs
        rcases hs with rfl | rfl <;> rfl
      · have hplus : d ≠ '+' := by
          rintro rfl
          cases hd
        have hminus : d ≠ '-' := by
          rintro rfl
          cases hd
        simp [splitSign, hplus, hminus]
    have hspan : (d :: ds' ++ r).span isDigitPart = (d :: ds', r) :=
      span_append_of_head? (isDigits_of_digitPart hds) fun x hx => (hr x hx).digit
    rw [List.append_assoc, List.append_assoc, List.singleton_append, splitExponent_cons, hsplit, hspan]
    simp [hl, hd]

theorem splitFraction_append_of_isFraction (hf : IsFraction f)
    (hr : ∀ x ∈ r.head?, isDigitPart x = false ∧ x ≠ '.') : splitFraction (f ++ r) = (f, r) := by
  rcases hf with rfl | ⟨ds, rfl, hds⟩
  · cases r with
    | nil => rfl
    | cons x r => simp [splitFraction, (hr x rfl).2]
  · have hspan : (ds ++ r).span isDigitPart = (ds, r) := span_append_of_head? hds fun x hx => (hr x hx).1
    rw [List.cons_append, splitFraction, hspan]

/-- Neither digits nor a fraction go on with an exponent. -/
theorem head?_exponent_append (he : IsExponent e) (hr : ∀ x ∈ r.head?, EndsDecimal x) :
    ∀ x ∈ (e ++ r).head?, isDigitPart x = false ∧ x ≠ '.' := by
  rcases he with rfl | he
  · exact fun x hx => ⟨(hr x hx).digit, (hr x hx).point⟩
  · obtain ⟨letter, rest, rfl, hletter, -⟩ := Pattern.matches_seq.1 he
    obtain ⟨l, rfl, hl⟩ := Pattern.matches_oneOf.1 hletter
    have hl : l = 'e' ∨ l = 'E' := by simpa using hl
    intro x hx
    obtain rfl : l = x := Option.some.inj hx
    rcases hl with rfl | rfl <;> exact ⟨by decide, by decide⟩

/-- Digits do not go on with a fraction. -/
theorem head?_fraction_append (hf : IsFraction f) (hr : ∀ x ∈ r.head?, isDigitPart x = false) :
    ∀ x ∈ (f ++ r).head?, isDigitPart x = false := by
  rcases hf with rfl | ⟨ds, rfl, -⟩
  · exact hr
  · intro x hx
    obtain rfl : '.' = x := Option.some.inj hx
    rfl

theorem splitDecimal_append_of_isDecimal (hw : IsDecimal w) (hr : ∀ x ∈ r.head?, EndsDecimal x) :
    splitDecimal (w ++ r) = (w, r) := by
  obtain ⟨m, e, rfl, ⟨-, a, f, rfl, ha, hf⟩, he⟩ := hw
  have hexponent := head?_exponent_append he hr
  have hspan : (a ++ (f ++ (e ++ r))).span isDigitPart = (a, f ++ (e ++ r)) :=
    span_append_of_head? ha (head?_fraction_append hf fun x hx => (hexponent x hx).1)
  rw [List.append_assoc, List.append_assoc, splitDecimal, hspan]
  simp only [splitFraction_append_of_isFraction hf hexponent, splitExponent_append_of_isExponent he hr]

/-- A number begins at a text and is split off as a whole, but for the letter of an imaginary one. -/
structure ReadsDigits (w r : List Char) : Prop where
  starts : startsNumber (w ++ r) = true
  split : splitDigits (w ++ r) = (w, r)

theorem readsDigits_of_isDecimal (hw : IsDecimal w) (hr : ∀ x ∈ r.head?, EndsDecimal x) : ReadsDigits w r := by
  refine ⟨hw.startsNumber_append r, ?_⟩
  rw [splitDigits_of_decimal, splitDecimal_append_of_isDecimal hw hr]
  -- the character behind the first one is one of the number, or the one behind it
  intro x ds htext
  match w, hw, htext with
  | [], hw, _ => cases hw.startsNumber_append []
  | [c], _, htext =>
    obtain rfl : r = x :: ds := (List.cons.inj htext).2
    exact (hr x rfl).base
  | c :: y :: w, hw, htext =>
    obtain rfl : y = x := (List.cons.inj (List.cons.inj htext).2).1
    exact hw.isBaseLetter_eq y (by simp)

/-- A number of another base ends before what is no digit of any base. -/
theorem readsDigits_of_basedInteger {letters digits : String} (hw : (basedInteger letters digits).Matches w)
    (hletters : letters.toList.all isBaseLetter = true) (hdigits : digits.toList.all isHexPart = true)
    (hr : ∀ x ∈ r.head?, isHexPart x = false) : ReadsDigits w r := by
  obtain ⟨zero, rest, rfl, hzero, hrest⟩ := Pattern.matches_seq.1 hw
  obtain ⟨letter, ds, rfl, hletter, hds⟩ := Pattern.matches_seq.1 hrest
  obtain rfl : zero = ['0'] := by simpa using hzero
  obtain ⟨l, rfl, hl⟩ := Pattern.matches_oneOf.1 hletter
  have hsets : ["_", digits].all (fun t => t.toList.all isHexPart) = true := by
    rw [List.all_cons, List.all_cons, hdigits]
    rfl
  have hspan : (ds ++ r).span isHexPart = (ds, r) :=
    span_append_of_head? (hds.forall_of_sets ["_", digits] rfl hsets) hr
  refine ⟨rfl, ?_⟩
  rw [List.append_assoc, List.append_assoc, List.singleton_append, List.singleton_append,
    splitDigits_of_base (List.all_eq_true.1 hletters l hl), hspan]
  rfl

/-- The letter of an imaginary number ends its digits, and is split off with them. -/
theorem splitNumber_append_of_imaginary (hw : imaginary.Matches w) :
    startsNumber (w ++ r) = true ∧ splitNumber (w ++ r) = (w, r) := by
  obtain ⟨m, letter, rfl, hm, hletter⟩ := Pattern.matches_seq.1 hw
  obtain ⟨j, rfl, hj⟩ := Pattern.matches_oneOf.1 hletter
  have hj : j = 'j' ∨ j = 'J' := by simpa using hj
  have hdecimal : IsDecimal m := (Pattern.matches_alt.1 hm).elim isDecimal_of_float fun hdigits =>
    isDecimal_of_mantissa (isMantissa_of_digitPart hdigits)
  have hends : EndsDecimal j := by
    rcases hj with rfl | rfl <;> exact ⟨by decide, by decide, by decide, by decide⟩
  have hdigits : ReadsDigits m (j :: r) :=
    readsDigits_of_isDecimal hdecimal fun x hx => by rwa [← Option.some.inj hx]
  rw [List.append_assoc, List.singleton_append]
  refine ⟨hdigits.starts, ?_⟩
  rw [splitNumber_eq, hdigits.split]
  simp [hj]

end Split

/-! ### Numerals -/

/-- A character that may stand behind a numeral: no letter or digit of ASCII, no underscore, no point. -/
structure EndsNumeral (x : Char) : Prop where
  alphanum : x.isAlphanum = false
  underscore : x ≠ '_'
  point : x ≠ '.'

namespace EndsNumeral

variable {x : Char} (hx : EndsNumeral x)

include hx

theorem ne {c : Char} (hc : c.isAlphanum = true) : x ≠ c := by
  rintro rfl
  rw [hx.alphanum] at hc
  cases hc

theorem isAlpha_eq : x.isAlpha = false := (Bool.or_eq_false_iff.1 hx.alphanum).1

theorem isDigit_eq : x.isDigit = false := (Bool.or_eq_false_iff.1 hx.alphanum).2

theorem endsDecimal : EndsDecimal x where
  digit := by simp [isDigitPart, hx.isDigit_eq, hx.underscore]
  point := hx.point
  exponent := ⟨hx.ne (by decide), hx.ne (by decide)⟩
  base := by
    by_contra hletter
    exact hx.ne (letter_of_isBaseLetter (by simpa using hletter)).1 rfl

theorem isHexPart_eq : isHexPart x = false := by
  have hletter := hx.isAlpha_eq
  rw [Bool.eq_false_iff, Ne, Text.isAlpha_iff] at hletter
  rw [Bool.eq_false_iff]
  intro hhex
  simp [isHexPart, Char.le_def, UInt32.le_iff_toNat_le, hx.isDigit_eq, hx.underscore] at hhex
  omega

end EndsNumeral

section Numerals

variable {w r : List Char} (hr : ∀ x ∈ r.head?, EndsNumeral x)

include hr

theorem readsDigits_of_integer (hw : integer.Matches w) : ReadsDigits w r := by
  have hhex : ∀ x ∈ r.head?, isHexPart x = false := fun x hx => (hr x hx).isHexPart_eq
  simp only [integer, Pattern.alts, Pattern.matches_alt] at hw
  rcases hw with hdecimal | hbinary | hoctal | hhexadecimal
  · have hmantissa := isMantissa_of_decimalInteger hdecimal
    exact readsDigits_of_isDecimal (isDecimal_of_mantissa hmantissa) fun x hx => (hr x hx).endsDecimal
  · exact readsDigits_of_basedInteger hbinary (by decide) (by decide) hhex
  · exact readsDigits_of_basedInteger hoctal (by decide) (by decide) hhex
  · exact readsDigits_of_basedInteger hhexadecimal (by decide) (by decide) hhex

theorem splitNumber_append_of_readsDigits (h : ReadsDigits w r) : splitNumber (w ++ r) = (w, r) := by
  rw [splitNumber_eq, h.split]
  cases r with
  | nil => rfl
  | cons x r =>
    have hj : x ≠ 'j' := (hr x rfl).ne (by decide)
    have hJ : x ≠ 'J' := (hr x rfl).ne (by decide)
    simp [hj, hJ]

theorem splitNumber_append_of_numeral (hw : numeral.Matches w) :
    startsNumber (w ++ r) = true ∧ splitNumber (w ++ r) = (w, r) := by
  simp only [numeral, Pattern.alts, Pattern.matches_alt] at hw
  rcases hw with hinteger | hfloat | himaginary
  · have hdigits := readsDigits_of_integer hr hinteger
    exact ⟨hdigits.starts, splitNumber_append_of_readsDigits hr hdigits⟩
  · have hdigits := readsDigits_of_isDecimal (isDecimal_of_float hfloat) fun x hx => (hr x hx).endsDecimal
    exact ⟨hdigits.starts, splitNumber_append_of_readsDigits hr hdigits⟩
  · exact splitNumber_append_of_imaginary himaginary

end Numerals

end Numeral

open Numeral
open Grammar (Pattern)

/-- A numeral is read as one token, which takes all of it and nothing more, at the end of a text and before every
character that ends it. -/
theorem readsWhole_of_numeral {w after : List Char} (hw : numeral.Matches w) (hafter : ∀ x ∈ after.head?, EndsNumeral x) :
    ReadsWhole .numberLiteral w after := by
  obtain ⟨hstarts, hsplit⟩ := splitNumber_append_of_numeral hafter hw
  cases w with
  | nil => exact absurd (congrArg Prod.fst hsplit) (splitNumber_ne_nil hstarts)
  | cons c cs =>
    rw [List.cons_append] at hstarts hsplit
    have hnext : Piece.next c (cs ++ after) = (.token .numberLiteral, c :: cs, after) := by
      rw [Piece.next_number hstarts, hsplit]
    exact readsWhole_of_next hnext rfl ⟨by simp, by simp⟩

/-- An imaginary number that has an exponent and no fraction digits, before an operator. -/
theorem readsWhole_imaginary :
    numeral.Matches "1_0.e-7J".toList ∧ (∀ x ∈ "+1".toList.head?, EndsNumeral x) ∧
      ReadsWhole .numberLiteral "1_0.e-7J".toList "+1".toList := by
  have hone : ∀ {s : String} {c : Char}, c ∈ s.toList → (Pattern.oneOf s).Matches [c] :=
    fun hc => Pattern.matches_oneOf.2 ⟨_, rfl, hc⟩
  have hten : digitPart.Matches ("1".toList ++ ("_".toList ++ "0".toList)) :=
    .seq (hone (by decide)) (.left (.one (.seq (.left (hone (by decide))) (hone (by decide)))))
  have hseven : digitPart.Matches ("7".toList ++ []) := .seq (hone (by decide)) (.right .empty)
  have hpoint : pointFloat.Matches ("1_0".toList ++ ".".toList) := .right (.seq hten (hone (by decide)))
  have hexponent : exponent.Matches ("e".toList ++ ("-".toList ++ "7".toList)) :=
    .seq (hone (by decide)) (.seq (.left (hone (by decide))) hseven)
  have hfloat : float.Matches ("1_0.".toList ++ "e-7".toList) := .right (.seq (.right hpoint) hexponent)
  have hnumeral : numeral.Matches ("1_0.e-7".toList ++ "J".toList) :=
    .right (.right (.seq (.left hfloat) (hone (by decide))))
  have hafter : ∀ x ∈ "+1".toList.head?, EndsNumeral x := by
    intro x hx
    obtain rfl : '+' = x := Option.some.inj hx
    exact ⟨by decide, by decide, by decide⟩
  exact ⟨hnumeral, hafter, readsWhole_of_numeral hnumeral hafter⟩

end Likeness.Lex
