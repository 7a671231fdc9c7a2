import Likeness.Proofs.Lex.Piece

/-!
# The kinds of pieces

What a text begins with tells the piece at its beginning: a blank, a joined line, a comment, the quote of a
string behind its letters, a name, a number or a symbol. There is one equation for each, and another one for what
begins none of them (`Piece.next_stray`). So a proof about one kind needs none of the conditions of the others.
A name ends with its last part, if no quote makes it the letters of a string (`Piece.next_name`).
-/

namespace Likeness.Lex

/-! ### The first character of a name -/

section NameStart

variable {d : Char} (hd : isNameStart d = true)

include hd

theorem isNamePart_of_isNameStart : isNamePart d = true := by
  rcases Bool.or_eq_true_iff.1 hd with h | h <;> simp [isNamePart, h]

theorem ne_of_isNameStart {c : Char} (hc : isNameStart c = false) : d ≠ c := by
  rintro rfl
  rw [hd] at hc
  cases hc

theorem isDigit_of_isNameStart : d.isDigit = false := by
  by_contra h
  have hdigit := Text.isDigit_iff.1 (by simpa using h)
  rcases Bool.or_eq_true_iff.1 hd with h | h
  · obtain rfl := eq_of_beq h
    exact absurd hdigit (by decide)
  · rw [Text.isAlphabetic, if_pos (by omega)] at h
    have := Text.isAlpha_iff.1 h
    omega

theorem isBlank_of_isNameStart : Text.isBlank d = false := by
  by_contra h
  have hpart := isNamePart_of_isBlank (by simpa using h)
  rw [isNamePart_of_isNameStart hd] at hpart
  cases hpart

theorem notMem_symbol_of_isNameStart : ∀ s ∈ symbols, d ∉ s.1.toList := by
  have hall : symbols.all (fun s => s.1.toList.all fun c => !isNameStart c) = true := by decide
  have hsymbols : ∀ s ∈ symbols, ∀ c ∈ s.1.toList, isNameStart c = false := by simpa using hall
  intro s hs hmem
  rw [hsymbols s hs d hmem] at hd
  cases hd

theorem ne_quote_of_isNameStart {q : Char} (hq : isQuote q = true) : d ≠ q := by
  rcases isQuote_iff.1 hq with rfl | rfl <;> exact ne_of_isNameStart hd (by decide)

end NameStart

theorem isNameStart_of_isPrefixLetter {c : Char} (hc : isPrefixLetter c = true) : isNameStart c = true := by
  simp [isPrefixLetter] at hc
  rcases hc with rfl | rfl | rfl | rfl | rfl | rfl | rfl | rfl <;> decide

/-! ### No beginnings of pieces -/

theorem splitJoin_eq_none {c : Char} (hc : c ≠ '\\') (cs : List Char) : splitJoin (c :: cs) = none := by
  simp [splitJoin, hc]

theorem splitPrefix_eq_none {c : Char} (hletter : isPrefixLetter c = false) (hquote : isQuote c = false) (cs : List Char) :
    splitPrefix (c :: cs) = none :=
  splitPrefix_carry hletter hquote [] cs

/-- A character that begins nothing in the layout of a text. -/
structure NoLayout (c : Char) : Prop where
  blank : Text.isBlank c = false
  slash : c ≠ '\\'
  hash : c ≠ '#'

instance : DecidablePred NoLayout := fun c =>
  decidable_of_iff (Text.isBlank c = false ∧ c ≠ '\\' ∧ c ≠ '#')
    ⟨fun h => ⟨h.1, h.2.1, h.2.2⟩, fun h => ⟨h.blank, h.slash, h.hash⟩⟩

theorem noLayout_of_isNameStart {c : Char} (hc : isNameStart c = true) : NoLayout c where
  blank := isBlank_of_isNameStart hc
  slash := ne_of_isNameStart hc (by decide)
  hash := ne_of_isNameStart hc (by decide)

/-- A character that begins nothing but a number or a symbol. -/
structure NoLetter (c : Char) : Prop extends NoLayout c where
  quote : isQuote c = false
  name : isNameStart c = false

theorem NoLetter.splitPrefix_eq_none {c : Char} (hc : NoLetter c) (cs : List Char) : splitPrefix (c :: cs) = none := by
  refine Lex.splitPrefix_eq_none ?_ hc.quote cs
  by_contra hletter
  have hname := hc.name
  rw [isNameStart_of_isPrefixLetter (by simpa using hletter)] at hname
  cases hname

theorem noLetter_of_isDigit {c : Char} (hc : c.isDigit = true) : NoLetter c := by
  have hpart := isNamePart_of_isDigit hc
  have hne : ∀ {d : Char}, isNamePart d = false → c ≠ d := by
    rintro d hd rfl
    rw [hpart] at hd
    cases hd
  refine ⟨⟨?_, hne (by decide), hne (by decide)⟩, ?_, ?_⟩
  · by_contra hblank
    rw [isNamePart_of_isBlank (by simpa using hblank)] at hpart
    cases hpart
  · by_contra hquote
    rcases isQuote_iff.1 (by simpa using hquote) with rfl | rfl <;> cases hpart
  · by_contra hname
    rw [isDigit_of_isNameStart (by simpa using hname)] at hc
    cases hc

theorem noLetter_of_startsNumber {c : Char} {cs : List Char} (h : startsNumber (c :: cs) = true) : NoLetter c := by
  by_cases hc : c = '.'
  · subst hc
    exact ⟨⟨by decide, by decide, by decide⟩, by decide, by decide⟩
  · exact noLetter_of_isDigit (by simpa [startsNumber, hc] using h)

theorem noLetter_of_splitSymbol {c : Char} {cs symbol rest : List Char} {kind : Kind}
    (h : splitSymbol (c :: cs) = some (kind, symbol, rest)) : NoLetter c := by
  have hall : symbols.all (fun s => s.1.toList.head?.all fun c =>
      decide (NoLayout c) && (!isQuote c && !isNameStart c)) = true := by
    decide
  obtain ⟨happend, hne, -⟩ := splitSymbol_eq_some h
  obtain ⟨s, hs, -, rfl⟩ := exists_of_splitSymbol h
  have hs := List.all_eq_true.1 hall s hs
  obtain ⟨x, xs, hsymbol⟩ := List.exists_cons_of_ne_nil hne
  rw [hsymbol] at happend hs
  obtain ⟨rfl, -⟩ := List.cons.inj happend
  obtain ⟨hlayout, hquote, hname⟩ : NoLayout x ∧ isQuote x = false ∧ isNameStart x = false := by simpa using hs
  exact ⟨hlayout, hquote, hname⟩

namespace Piece

/-! ### Layout -/

theorem next_blank {c : Char} (hc : Text.isBlank c = true) (cs : List Char) :
    next c cs = (layout, [c], cs) := by
  rw [next, if_pos hc]

theorem next_hash (cs : List Char) :
    next '#' cs = (layout, '#' :: (cs.span (· != '\n')).1, (cs.span (· != '\n')).2) := by
  have hblank : Text.isBlank '#' = false := by decide
  simp [next, hblank, splitJoin]

theorem next_comment_append {body after : List Char} (hbody : '\n' ∉ body)
    (hafter : after = [] ∨ ∃ r, after = '\n' :: r) : next '#' (body ++ after) = (layout, '#' :: body, after) := by
  have hall : ∀ c ∈ body, (c != '\n') = true := by
    intro c hc
    rw [bne_iff_ne]
    rintro rfl
    exact hbody hc
  have hspan : (body ++ after).span (· != '\n') = (body, after) := by
    refine span_append_of_head? hall ?_
    rcases hafter with rfl | ⟨r, rfl⟩ <;> simp
  rw [next_hash, hspan]

theorem next_comment {body : List Char} (hbody : '\n' ∉ body) (r : List Char) :
    next '#' (body ++ '\n' :: r) = (layout, '#' :: body, '\n' :: r) :=
  next_comment_append hbody (.inr ⟨r, rfl⟩)

theorem next_join {c : Char} {cs join rest : List Char} (h : splitJoin (c :: cs) = some (join, rest)) :
    next c cs = (layout, join, rest) := by
  obtain rfl : c = '\\' := by
    by_contra hc
    rw [splitJoin_eq_none hc] at h
    cases h
  have hblank : Text.isBlank '\\' = false := by decide
  simp [next, hblank, h]

/-! ### Strings -/

/-- A piece is a string literal where its letters and its quote begin the text. -/
theorem next_string {c q : Char} {cs letters rest : List Char} (h : splitPrefix (c :: cs) = some (letters, q, rest)) :
    next c cs =
      (string (splitString q rest).2.1, letters ++ q :: (splitString q rest).1, (splitString q rest).2.2) := by
  obtain ⟨hcs, hletters, hq⟩ := splitPrefix_eq_some h
  have hc : NoLayout c := by
    cases letters with
    | nil =>
      obtain rfl : c = q := (List.cons.inj hcs).1
      rcases isQuote_iff.1 hq with rfl | rfl <;> decide
    | cons l letters =>
      obtain rfl : c = l := (List.cons.inj hcs).1
      exact noLayout_of_isNameStart (isNameStart_of_isPrefixLetter (hletters c List.mem_cons_self))
  simp [next, hc.blank, splitJoin_eq_none hc.slash, hc.hash, h]

theorem exists_splitPrefix {c : Char} {cs : List Char} {closed : Bool} (h : (next c cs).1 = string closed) :
    ∃ letters q rest, splitPrefix (c :: cs) = some (letters, q, rest) := by
  revert h
  fun_cases next c cs with
  | case4 _ _ _ letters q rest e => exact fun _ => ⟨letters, q, rest, e⟩
  | _ => simp

/-! ### Names -/

theorem next_word {c : Char} {cs : List Char} (hc : isNameStart c = true) (h : splitPrefix (c :: cs) = none) :
    next c cs = (token (wordKind (c :: (cs.span isNamePart).1)), c :: (cs.span isNamePart).1, (cs.span isNamePart).2) := by
  have hlayout := noLayout_of_isNameStart hc
  simp [next, hlayout.blank, splitJoin_eq_none hlayout.slash, hlayout.hash, h, hc]

/-- A name ends with its last part, if what stands behind it makes it no prefix of a string. -/
theorem next_name {c : Char} {w after : List Char} (hc : isNameStart c = true) (hw : ∀ x ∈ w, isNamePart x = true)
    (hpart : ∀ x ∈ after.head?, isNamePart x = false) (hquote : ∀ x ∈ after.head?, isQuote x = false) :
    next c (w ++ after) = (token (wordKind (c :: w)), c :: w, after) := by
  have hall : ∀ x ∈ c :: w, isNamePart x = true :=
    List.forall_mem_cons.2 ⟨isNamePart_of_isNameStart hc, hw⟩
  have hspan : (w ++ after).span isNamePart = (w, after) := span_append_of_head? hw hpart
  have hprefix : splitPrefix (c :: (w ++ after)) = none := by
    by_contra hsome
    obtain ⟨⟨letters, q, rest⟩, hsome⟩ := Option.ne_none_iff_exists'.1 hsome
    obtain ⟨happend, hletters, hq⟩ := splitPrefix_eq_some hsome
    have hnotPart : isNamePart q = false := by
      rcases isQuote_iff.1 hq with rfl | rfl <;> decide
    have hlettersPart : ∀ x ∈ letters, isNamePart x = true := fun x hx =>
      isNamePart_of_isPrefixLetter (hletters x hx)
    -- the quote is the first character that is no part of a name, and so stands behind the name
    have hrun := congrArg (List.span isNamePart) happend
    rw [← List.cons_append, span_append_of_head? hall hpart,
      span_append_of_head? hlettersPart (by simp [hnotPart])] at hrun
    have hnoQuote := hquote q (by rw [(Prod.mk.inj hrun).2]; rfl)
    rw [hq] at hnoQuote
    cases hnoQuote
  rw [next_word hc hprefix, hspan]

/-- A piece that is an identifier is a name, and ends with its last part. -/
theorem next_identifier {c : Char} {cs text after : List Char} (h : next c cs = (token .identifier, text, after)) :
    isNameStart c = true ∧ ∀ x ∈ after.head?, isNamePart x = false := by
  revert h
  fun_cases next c cs with
  | case5 _ _ _ _ hname word rest e =>
    intro h
    obtain ⟨-, hrest⟩ := Prod.mk.inj h
    obtain ⟨-, rfl⟩ := Prod.mk.inj hrest
    refine ⟨hname, fun x hx => ?_⟩
    have hhead := List.head?_dropWhile_not isNamePart cs
    rw [List.span_eq_takeWhile_dropWhile] at e
    rw [(Prod.mk.inj e).2, Option.mem_def.1 hx] at hhead
    simpa using hhead
  | case7 _ _ _ _ _ _ kind symbol rest e =>
    intro h
    obtain ⟨-, -, hkind⟩ := splitSymbol_eq_some e
    obtain ⟨hidentifier, -⟩ := Prod.mk.inj h
    obtain rfl : kind = .identifier := by simpa using hidentifier
    simp at hkind
  | _ => simp

/-! ### Numbers, symbols and misfits -/

theorem next_number {c : Char} {cs : List Char} (h : startsNumber (c :: cs) = true) :
    next c cs = (token .numberLiteral, splitNumber (c :: cs)) := by
  have hc := noLetter_of_startsNumber h
  simp [next, hc.blank, splitJoin_eq_none hc.slash, hc.hash, hc.splitPrefix_eq_none, hc.name, h]

theorem next_symbol {c : Char} {cs symbol rest : List Char} {kind : Kind} (hnumber : startsNumber (c :: cs) = false)
    (h : splitSymbol (c :: cs) = some (kind, symbol, rest)) : next c cs = (token kind, symbol, rest) := by
  have hc := noLetter_of_splitSymbol h
  simp [next, hc.blank, splitJoin_eq_none hc.slash, hc.hash, hc.splitPrefix_eq_none, hc.name, hnumber, h]

/-- What begins no other piece is a misfit. -/
theorem next_stray {c : Char} {cs : List Char} (hblank : Text.isBlank c = false) (hjoin : splitJoin (c :: cs) = none)
    (hhash : c ≠ '#') (hquote : splitPrefix (c :: cs) = none) (hname : isNameStart c = false)
    (hnumber : startsNumber (c :: cs) = false) (hsymbol : splitSymbol (c :: cs) = none) :
    next c cs = (stray, [c], cs) := by
  simp [next, hblank, hjoin, hhash, hquote, hname, hnumber, hsymbol]

end Piece
end Likeness.Lex
