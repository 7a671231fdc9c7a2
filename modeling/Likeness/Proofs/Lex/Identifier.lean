import Likeness.Grammar.Python
import Likeness.Proofs.Grammar.Pattern
import Likeness.Proofs.Lex.Kinds
import Likeness.Proofs.Lex.Scan
import Likeness.Proofs.Text.Letters

/-!
# Identifiers and names

The grammar and the scan tell separately what a name is: the grammar takes what Unicode has for the characters
of identifiers, and the scan takes letters and numbers. Among ASCII the two agree (`isAlpha_of_nameStart`,
`isAlphanum_of_nameContinue`). Beyond it a character of an identifier that is no part of a name is a misfit
(`next_misfit`), so an identifier of the grammar is read without flaws if and only if it is a name for the scan too
(`identifier_clean_iff`), which one with a virama in it is not (`virama_unlexable`).
-/

namespace Likeness.Lex

open Grammar (Pattern)
open Grammar.Python (identifier)
open Text (CharSet isAlphabetic isAlpha_iff isDigit_iff)

/-! ### The identifiers of the grammar -/

theorem mem_of_contains {s : CharSet} (low : List (Nat × Nat))
    (htable : s.ranges.all (fun r => 0x80 ≤ r.1 || low.contains r) = true) {c : Char} (hc : s.contains c = true)
    (hlow : c.toNat < 0x80) : ∃ r ∈ low, r.1 ≤ c.toNat ∧ c.toNat ≤ r.2 := by
  obtain ⟨r, hr, hbounds⟩ := CharSet.contains_iff.1 hc
  have hentry := List.all_eq_true.1 htable r hr
  simp only [Bool.or_eq_true, decide_eq_true_eq, List.contains_iff_mem] at hentry
  exact ⟨r, hentry.resolve_left (by omega), hbounds⟩

/-- Of the characters that may begin an identifier those of ASCII are letters and the underscore. -/
theorem isAlpha_of_nameStart {c : Char} (hc : c = '_' ∨ Text.nameStart.contains c = true) (hlow : c.toNat < 0x80) :
    c = '_' ∨ c.isAlpha = true := by
  refine hc.imp_right fun hc => ?_
  obtain ⟨r, hr, hbounds⟩ := mem_of_contains [(0x41, 0x5A), (0x61, 0x7A)] (by decide +kernel) hc hlow
  rw [isAlpha_iff]
  simp only [List.mem_cons, List.not_mem_nil, or_false] at hr
  rcases hr with rfl | rfl <;> omega

/-- Of the characters of identifiers those of ASCII are letters, digits and the underscore. -/
theorem isAlphanum_of_nameContinue {c : Char} (hc : c = '_' ∨ Text.nameContinue.contains c = true)
    (hlow : c.toNat < 0x80) : c = '_' ∨ c.isDigit = true ∨ c.isAlpha = true := by
  rcases hc with hc | hc
  · exact .inl hc
  obtain ⟨r, hr, hbounds⟩ := mem_of_contains [(0x30, 0x39), (0x41, 0x5A), (0x5F, 0x5F), (0x61, 0x7A)]
    (by decide +kernel) hc hlow
  rw [isDigit_iff, isAlpha_iff]
  simp only [List.mem_cons, List.not_mem_nil, or_false] at hr
  rcases hr with rfl | rfl | rfl | rfl
  · omega
  · omega
  · exact .inl (Char.toNat_inj.1 (Nat.le_antisymm hbounds.2 hbounds.1))
  · omega

theorem matches_identifier {w : List Char} : identifier.Matches w ↔ ∃ c cs, w = c :: cs ∧
    (c = '_' ∨ Text.nameStart.contains c = true) ∧ ∀ d ∈ cs, d = '_' ∨ Text.nameContinue.contains d = true := by
  simp only [identifier, Pattern.matches_seq, Pattern.matches_chars, Pattern.matches_many_chars,
    CharSet.contains_append, CharSet.contains_single]
  constructor
  · rintro ⟨_, cs, rfl, ⟨c, rfl, hc⟩, hcs⟩
    exact ⟨c, cs, rfl, hc, hcs⟩
  · rintro ⟨c, cs, rfl, hc, hcs⟩
    exact ⟨[c], cs, rfl, ⟨c, rfl, hc⟩, hcs⟩

/-! ### How the scan reads them -/

theorem isQuote_eq_false {d : Char} (hhigh : 0x80 ≤ d.toNat) : isQuote d = false := by
  by_contra hquote
  rcases isQuote_iff.1 (by simpa using hquote) with rfl | rfl <;> exact absurd hhigh (by decide)

/-- A character beyond ASCII that is no blank and begins no name is a misfit. -/
theorem next_misfit {d : Char} (hhigh : 0x80 ≤ d.toNat) (hblank : Text.blank.contains d = false)
    (hstart : isNameStart d = false) (r : List Char) : Piece.next d r = (.stray, [d], r) := by
  have hne : ∀ {c : Char}, c.toNat < 0x80 → d ≠ c := by
    rintro c hc rfl
    omega
  have hblank : Text.isBlank d = false := by rw [Text.isBlank, if_neg (by omega), hblank]
  have hjoin : splitJoin (d :: r) = none := splitJoin_eq_none (hne (by decide)) r
  have hprefix : splitPrefix (d :: r) = none := by
    have hletter : isPrefixLetter d = false := by
      by_contra hletter
      have := toNat_of_isPrefixLetter (by simpa using hletter)
      omega
    exact splitPrefix_eq_none hletter (isQuote_eq_false hhigh) r
  have hnumber : startsNumber (d :: r) = false := by
    have hpoint : d ≠ '.' := hne (by decide)
    have hdigit : d.isDigit = false := by
      by_contra hdigit
      have := isDigit_iff.1 (by simpa using hdigit)
      omega
    simpa [startsNumber, hpoint] using hdigit
  have hsymbol : splitSymbol (d :: r) = none := by
    have hsymbols : symbols.all (fun s => s.1.toList.all fun c => c.toNat < 0x80) = true := by decide
    refine splitSymbol_carry (fun s hs hd => ?_) [] r
    have hlow := of_decide_eq_true (List.all_eq_true.1 (List.all_eq_true.1 hsymbols s hs) d hd)
    omega
  exact Piece.next_stray hblank hjoin (hne (by decide)) hprefix hstart hnumber hsymbol

theorem toNat_of_nameStart {c : Char} (hc : c = '_' ∨ Text.nameStart.contains c = true) (hstart : isNameStart c = false) :
    0x80 ≤ c.toNat := by
  by_contra hlow
  rcases isAlpha_of_nameStart hc (by omega) with rfl | halpha
  · cases hstart
  · rw [isNameStart, isAlphabetic, if_pos (by omega), halpha, Bool.or_true] at hstart
    cases hstart

theorem toNat_of_nameContinue {d : Char} (hd : d = '_' ∨ Text.nameContinue.contains d = true)
    (hpart : isNamePart d = false) : 0x80 ≤ d.toNat := by
  by_contra hlow
  rcases isAlphanum_of_nameContinue hd (by omega) with rfl | hdigit | halpha
  · cases hpart
  · rw [isNamePart_of_isDigit hdigit] at hpart
    cases hpart
  · rw [isNamePart_of_isAlpha halpha] at hpart
    cases hpart

theorem blank_eq_false {s : CharSet} (hs : CharSet.Apart s Text.blank) {c : Char} (hc : c = '_' ∨ s.contains c = true) :
    Text.blank.contains c = false := by
  rcases hc with rfl | hc
  · decide
  · exact hs.contains_eq_false hc

/-- What begins an identifier and no name is a misfit. -/
theorem next_stray_of_nameStart {c : Char} (hc : c = '_' ∨ Text.nameStart.contains c = true)
    (hstart : isNameStart c = false) (r : List Char) : Piece.next c r = (.stray, [c], r) := by
  have htable : CharSet.Apart Text.nameStart Text.blank := by decide +kernel
  exact next_misfit (toNat_of_nameStart hc hstart) (blank_eq_false htable hc) hstart r

/-- What continues an identifier and no name ends the name before it, and is a misfit. -/
theorem cut_of_nameContinue {c d : Char} {w r : List Char} (hc : isNameStart c = true)
    (hw : ∀ x ∈ w, isNamePart x = true) (hd : d = '_' ∨ Text.nameContinue.contains d = true)
    (hpart : isNamePart d = false) :
    Piece.cut (c :: (w ++ d :: r)) = (.token (wordKind (c :: w)), c :: w) :: (.stray, [d]) :: Piece.cut r := by
  have htable : CharSet.Apart Text.nameContinue Text.blank := by decide +kernel
  have hhigh := toNat_of_nameContinue hd hpart
  have hstart : isNameStart d = false := by
    by_contra hstart
    rw [isNamePart_of_isNameStart (by simpa using hstart)] at hpart
    cases hpart
  have hname : Piece.next c (w ++ d :: r) = _ :=
    Piece.next_name hc hw (by simpa using hpart) (by simpa using isQuote_eq_false hhigh)
  rw [Piece.cut_cons, hname, Piece.cut_cons, next_misfit hhigh (blank_eq_false htable hd) hstart]

/-- An identifier is read without flaws if and only if its characters are those of a name. -/
theorem identifier_clean_iff {w : List Char} (h : identifier.Matches w) :
    (scan (.ofList w)).2 = [] ↔ ∃ c cs, w = c :: cs ∧ isNameStart c = true ∧ ∀ x ∈ cs, isNamePart x = true := by
  obtain ⟨c, cs, rfl, hc, hcs⟩ := matches_identifier.1 h
  rw [scan_clean_iff, String.toList_ofList]
  constructor
  · intro hclean
    have hstray : ∀ x, (Piece.stray, [x]) ∉ Piece.cut (c :: cs) := fun x hx => (hclean _ hx).1 rfl
    have hstart : isNameStart c = true := by
      by_contra hstart
      rw [Piece.cut_cons, next_stray_of_nameStart hc (by simpa using hstart)] at hstray
      exact hstray c List.mem_cons_self
    refine ⟨c, cs, rfl, hstart, fun x hx => ?_⟩
    by_contra hpart
    -- the first character that is no part of a name is a misfit
    obtain ⟨d, hfind⟩ := Option.isSome_iff_exists.1 (List.find?_isSome.2 ⟨x, hx, by simpa using hpart⟩ :
      (cs.find? fun x => !isNamePart x).isSome)
    obtain ⟨hd, a, r, rfl, ha⟩ := List.find?_eq_some_iff_append.1 hfind
    have hparts : ∀ x ∈ a, isNamePart x = true := by simpa using ha
    rw [cut_of_nameContinue hstart hparts (hcs d (by simp)) (by simpa using hd)] at hstray
    exact hstray d (by simp)
  · rintro ⟨c', cs', e, hstart, hparts⟩
    obtain ⟨rfl, rfl⟩ := List.cons.inj e
    have hnext : Piece.next c (cs ++ []) = _ := Piece.next_name hstart hparts (by simp) (by simp)
    rw [List.append_nil] at hnext
    rw [Piece.cut_cons, hnext]
    simp

/-- A virama takes the vowel from a letter, and belongs to the identifier for the grammar, but not for the scan. -/
theorem virama_unlexable : ¬ ∀ w, identifier.Matches w → (scan (.ofList w)).2 = [] := by
  intro h
  have hletter : Text.nameStart.contains '\u0915' = true := by decide +kernel
  have hvirama : Text.nameContinue.contains '\u094D' = true := by decide +kernel
  have hidentifier : identifier.Matches ['\u0915', '\u094D'] :=
    matches_identifier.2 ⟨'\u0915', ['\u094D'], rfl, .inr hletter, by simp [hvirama]⟩
  obtain ⟨c, cs, hcons, -, hparts⟩ := (identifier_clean_iff hidentifier).1 (h _ hidentifier)
  obtain ⟨rfl, rfl⟩ := List.cons.inj hcons
  have hpart : isNamePart '\u094D' = false := by decide +kernel
  rw [hparts _ List.mem_cons_self] at hpart
  cases hpart

end Likeness.Lex
