import Mathlib.Data.List.Find
import Likeness.Proofs.Lex.Literal
import Likeness.Proofs.Lex.Number

/-!
# The piece at the beginning of a text

What is split off a text that is not empty is a beginning of it, and what it is said to be
(`next_spec`). A character that ends everything changes nothing behind the text, unless an unclosed
string, a comment or a backslash at the end of the text could take it in (`next_carry`).
-/

namespace Likeness.Lex

/-! ### Layout -/

/-- One part of the layout of a text, with `after` behind it: a blank, a joined line, or a comment up to the end of
its line. -/
inductive IsBlankPart : (text after : List Char) → Prop
  | blank {c : Char} {after : List Char} : Text.isBlank c = true → IsBlankPart [c] after
  | join {after : List Char} : IsBlankPart ['\\', '\n'] after
  | joinReturn {after : List Char} : IsBlankPart ['\\', '\r', '\n'] after
  | comment {body after : List Char} : '\n' ∉ body → (after = [] ∨ ∃ rest, after = '\n' :: rest) →
      IsBlankPart ('#' :: body) after

theorem splitJoin_eq_some {cs join rest : List Char} (h : splitJoin cs = some (join, rest)) :
    join ++ rest = cs ∧ join ≠ [] ∧ IsBlankPart join rest := by
  unfold splitJoin at h
  split at h
  · obtain ⟨rfl, rfl⟩ : _ = join ∧ _ = rest := by simpa using h
    exact ⟨rfl, by simp, .join⟩
  · obtain ⟨rfl, rfl⟩ : _ = join ∧ _ = rest := by simpa using h
    exact ⟨rfl, by simp, .joinReturn⟩
  · cases h

theorem splitJoin_carry {cs : List Char} (hcs : cs ≠ []) (hslash : cs ≠ ['\\']) (hreturn : cs ≠ ['\\', '\r'])
    (r : List Char) : splitJoin (cs ++ r) = (splitJoin cs).map (Prod.map id (· ++ r)) := by
  match cs with
  | [] => exact absurd rfl hcs
  | [a] =>
    have ha : a ≠ '\\' := by simpa using hslash
    simp [splitJoin, ha]
  | [a, b] =>
    by_cases ha : a = '\\'
    · have hb : b ≠ '\r' := by simpa [ha] using hreturn
      by_cases hline : b = '\n' <;> simp [splitJoin, ha, hb, hline]
    · simp [splitJoin, ha]
  | a :: b :: c :: cs =>
    by_cases ha : a = '\\'
    · by_cases hline : b = '\n'
      · simp [splitJoin, ha, hline]
      · by_cases hb : b = '\r' <;> by_cases hc : c = '\n' <;> simp [splitJoin, ha, hline, hb, hc]
    · simp [splitJoin, ha]

theorem comment_spec (cs : List Char) :
    IsBlankPart ('#' :: (cs.span (· != '\n')).1) (cs.span (· != '\n')).2 := by
  refine .comment (fun hmem => ?_) ?_
  · have := List.mem_takeWhile_imp (by simpa using hmem)
    simp at this
  · simp only [List.span_eq_takeWhile_dropWhile]
    cases h : cs.dropWhile (· != '\n') with
    | nil => exact .inl rfl
    | cons c rest =>
      have hc := List.head?_dropWhile_not (· != '\n') cs
      simp [h] at hc
      exact .inr ⟨rest, by rw [hc]⟩

/-! ### Symbols -/

theorem splitSymbol_eq (cs : List Char) :
    splitSymbol cs = (symbols.find? (·.1.toList.isPrefixOf cs)).map fun s =>
      (s.2, s.1.toList, cs.drop s.1.length) := rfl

theorem exists_of_splitSymbol {cs symbol rest : List Char} {kind : Kind}
    (h : splitSymbol cs = some (kind, symbol, rest)) : ∃ s ∈ symbols, s.2 = kind ∧ s.1.toList = symbol := by
  rw [splitSymbol_eq] at h
  obtain ⟨s, hfind, e⟩ := Option.map_eq_some_iff.1 h
  obtain ⟨hkind, hsymbol, -⟩ : s.2 = kind ∧ s.1.toList = symbol ∧ _ = rest := by simpa using e
  exact ⟨s, List.mem_of_find?_eq_some hfind, hkind, hsymbol⟩

/-- A symbol that is found is one of the table, and begins the text. -/
theorem splitSymbol_eq_some {cs symbol rest : List Char} {kind : Kind}
    (h : splitSymbol cs = some (kind, symbol, rest)) :
    symbol ++ rest = cs ∧ symbol ≠ [] ∧ (kind = .operator ∨ kind = .punctuation) := by
  have hall : ∀ s ∈ symbols, s.1.toList ≠ [] ∧ (s.2 = .operator ∨ s.2 = .punctuation) := by decide
  rw [splitSymbol_eq] at h
  obtain ⟨⟨s, k⟩, hfind, e⟩ := Option.map_eq_some_iff.1 h
  obtain ⟨rfl, rfl, rfl⟩ : k = kind ∧ s.toList = symbol ∧ cs.drop s.length = rest := by simpa using e
  have hprefix : s.toList <+: cs := List.isPrefixOf_iff_prefix.1 (by simpa using List.find?_some hfind)
  refine ⟨?_, hall (s, k) (List.mem_of_find?_eq_some hfind)⟩
  rw [← String.length_toList]
  exact (List.prefix_iff_eq_append.1 hprefix)

/-- A character that is not in a list does not make it begin a text. -/
theorem isPrefixOf_carry {d : Char} {symbol : List Char} (hd : d ∉ symbol) (cs r : List Char) :
    symbol.isPrefixOf (cs ++ d :: r) = symbol.isPrefixOf cs := by
  induction symbol generalizing cs with
  | nil => rfl
  | cons s symbol ih =>
    obtain ⟨hs, hsymbol⟩ : d ≠ s ∧ d ∉ symbol := by simpa using hd
    cases cs with
    | nil => simp [List.isPrefixOf, Ne.symm hs]
    | cons c cs => simp [List.isPrefixOf, ih hsymbol]

/-- What stands behind a text does not change the symbol at its beginning, if it makes no symbol begin the text. -/
theorem splitSymbol_append_of_prefixes (cs r : List Char)
    (h : ∀ s ∈ symbols, s.1.toList.isPrefixOf (cs ++ r) = s.1.toList.isPrefixOf cs) :
    splitSymbol (cs ++ r) = (splitSymbol cs).map (Prod.map id (Prod.map id (· ++ r))) := by
  have hfind : symbols.find? (·.1.toList.isPrefixOf (cs ++ r)) = symbols.find? (·.1.toList.isPrefixOf cs) :=
    List.find?_congr h
  rw [splitSymbol_eq, splitSymbol_eq, hfind, Option.map_map]
  cases h : symbols.find? (·.1.toList.isPrefixOf cs) with
  | none => rfl
  | some entry =>
    obtain ⟨s, k⟩ := entry
    have hprefix : s.toList <+: cs := List.isPrefixOf_iff_prefix.1 (by simpa using List.find?_some h)
    have hlen : s.length ≤ cs.length := String.length_toList ▸ hprefix.length_le
    simp [List.drop_append_of_le_length hlen]

theorem splitSymbol_carry {d : Char} (hd : ∀ s ∈ symbols, d ∉ s.1.toList) (cs r : List Char) :
    splitSymbol (cs ++ d :: r) = (splitSymbol cs).map (Prod.map id (Prod.map id (· ++ d :: r))) :=
  splitSymbol_append_of_prefixes cs (d :: r) fun s hs => isPrefixOf_carry (hd s hs) cs r

namespace Piece

/-! ### What a piece is -/

/-- A piece is what it is said to be, where `text` is its spelling and `after` stands behind it. -/
def Fits : Piece → (text after : List Char) → Prop
  | layout, text, after => IsBlankPart text after
  | token kind, _, _ => kind ≠ .error ∧ kind ≠ .stringLiteral
  | string closed, text, _ => HasClosing text ↔ closed = true
  | stray, _, _ => True

theorem wordKind_cases (word : List Char) : wordKind word = .keyword ∨ wordKind word = .identifier := by
  unfold wordKind
  split
  · exact .inl rfl
  · exact .inr rfl

theorem next_spec (c : Char) (cs : List Char) :
    (next c cs).2.1 ++ (next c cs).2.2 = c :: cs ∧ (next c cs).2.1 ≠ [] ∧
      Fits (next c cs).1 (next c cs).2.1 (next c cs).2.2 := by
  fun_cases next c cs with
  | case1 hblank => exact ⟨rfl, by simp, .blank hblank⟩
  | case2 _ join rest e => exact splitJoin_eq_some e
  | case3 _ _ hc comment rest e =>
    have hcomment := comment_spec cs
    have happend := span_append (· != '\n') cs
    rw [e] at hcomment happend
    obtain rfl := eq_of_beq hc
    exact ⟨by rw [List.cons_append, happend], by simp, hcomment⟩
  | case4 _ _ _ letters q rest e body closed rest' e' =>
    obtain ⟨hcs, hletters, hq⟩ := splitPrefix_eq_some e
    have happend := splitString_append q rest
    have hclosing := hasClosing_iff hletters hq rest
    rw [e'] at happend hclosing
    exact ⟨by rw [hcs, ← happend]; simp, by simp, hclosing⟩
  | case5 _ _ _ _ _ word rest e =>
    have happend := span_append isNamePart cs
    rw [e] at happend
    refine ⟨by rw [List.cons_append, happend], by simp, ?_⟩
    rcases wordKind_cases (c :: word) with h | h <;> simp [Fits, h]
  | case6 _ _ _ _ _ hnumber number rest e =>
    have happend := splitNumber_append (c :: cs)
    have hne := splitNumber_ne_nil hnumber
    rw [e] at happend hne
    exact ⟨happend, hne, by simp [Fits]⟩
  | case7 _ _ _ _ _ _ kind symbol rest e =>
    obtain ⟨happend, hne, hkind⟩ := splitSymbol_eq_some e
    refine ⟨happend, hne, ?_⟩
    rcases hkind with rfl | rfl <;> simp [Fits]
  | case8 => exact ⟨rfl, by simp, trivial⟩

/-! ### A character that ends the piece -/

/-- Behind a piece that is no unclosed string, a character that is no part of a name, a number or a symbol changes
nothing, unless it is a quote and makes what stands before it a prefix. -/
theorem next_before {d : Char} (hd : Ends d) {c : Char} {cs : List Char} (hslash : c :: cs ≠ ['\\'])
    (hreturn : c :: cs ≠ ['\\', '\r']) (hcomment : c = '#' → d = '\n')
    (hstring : (next c cs).1 = string false → (next c cs).2.2 ≠ []) (r : List Char)
    (hquote : isQuote d = true → splitPrefix (c :: (cs ++ d :: r)) = none) :
    next c (cs ++ d :: r) = ((next c cs).1, (next c cs).2.1, (next c cs).2.2 ++ d :: r) := by
  have hjoin := splitJoin_carry (List.cons_ne_nil c cs) hslash hreturn (d :: r)
  have hnoQuote : splitPrefix (c :: cs) ≠ none → isQuote d = false := by
    intro hsome
    by_contra hd
    obtain ⟨⟨letters, q, rest⟩, hletters⟩ := Option.ne_none_iff_exists'.1 hsome
    have hlonger := splitPrefix_append hletters (d :: r)
    rw [List.cons_append, hquote (by simpa using hd)] at hlonger
    cases hlonger
  have hprefix : splitPrefix (c :: (cs ++ d :: r)) =
      (splitPrefix (c :: cs)).map (Prod.map id (Prod.map id (· ++ d :: r))) := by
    cases hd' : isQuote d with
    | false => exact splitPrefix_carry hd.isPrefixLetter_eq hd' (c :: cs) r
    | true =>
      have hnone : splitPrefix (c :: cs) = none := by
        by_contra hsome
        rw [hnoQuote hsome] at hd'
        cases hd'
      rw [hquote hd', hnone]
      rfl
  have hsymbol := splitSymbol_carry hd.symbol (c :: cs) r
  have hnumber := splitNumber_carry (r := r) hd (c :: cs)
  have hstarts : startsNumber (c :: (cs ++ d :: r)) = startsNumber (c :: cs) := by
    cases cs with
    | nil => by_cases hc : c = '.' <;> simp [startsNumber, hc, hd.isDigit_eq]
    | cons d cs => by_cases hc : c = '.' <;> simp [startsNumber, hc]
  rw [List.cons_append] at hjoin hsymbol hnumber
  have hword := span_carry (r := r) hd.name cs
  revert hstring
  fun_cases next c cs with
  | case1 hblank => simp [next, hblank]
  | case2 hblank join rest hjoined => simp [next, hblank, hjoin, hjoined]
  | case3 hblank hnoJoin hc comment rest htext =>
    have hline := span_carry (r := r) (p := (· != '\n')) (d := d) (by simp [hcomment (eq_of_beq hc)]) cs
    rw [htext] at hline
    simp [next, hblank, hjoin, hnoJoin, hc, hline, -List.span_eq_takeWhile_dropWhile]
  | case4 hblank hnoJoin hc letters q rest hletters body closed rest' hbody =>
    intro hstring
    obtain ⟨-, -, hq⟩ := splitPrefix_eq_some hletters
    have hne : d ≠ q := by rintro rfl; rw [hnoQuote (by simp [hletters])] at hq; cases hq
    have hcarry := splitString_carry (ne_backslash_of_isQuote hq) hne rest r (by
      rw [hbody]
      cases closed with
      | true => exact .inl rfl
      | false => exact .inr (hstring rfl))
    rw [hbody] at hcarry
    simp [next, hblank, hjoin, hnoJoin, hc, hprefix, hletters, hcarry]
  | case5 hblank hnoJoin hc hnoString hname word rest htext =>
    rw [htext] at hword
    simp [next, hblank, hjoin, hnoJoin, hc, hprefix, hnoString, hname, hword, -List.span_eq_takeWhile_dropWhile]
  | case6 hblank hnoJoin hc hnoString hname hnum number rest htext =>
    rw [htext] at hnumber
    simp [next, hblank, hjoin, hnoJoin, hc, hprefix, hnoString, hname, hstarts, hnum, hnumber]
  | case7 hblank hnoJoin hc hnoString hname hnum kind symbol rest hfound =>
    simp [next, hblank, hjoin, hnoJoin, hc, hprefix, hnoString, hname, hstarts, hnum, hsymbol, hfound]
  | case8 hblank hnoJoin hc hnoString hname hnum hnoSymbol =>
    simp [next, hblank, hjoin, hnoJoin, hc, hprefix, hnoString, hname, hstarts, hnum, hsymbol, hnoSymbol]

theorem next_carry {d : Char} (hd : Breaks d) {c : Char} {cs : List Char} (hslash : c :: cs ≠ ['\\'])
    (hreturn : c :: cs ≠ ['\\', '\r']) (hcomment : c = '#' → d = '\n')
    (hstring : (next c cs).1 = string false → (next c cs).2.2 ≠ []) (r : List Char) :
    next c (cs ++ d :: r) = ((next c cs).1, (next c cs).2.1, (next c cs).2.2 ++ d :: r) :=
  next_before hd.toEnds hslash hreturn hcomment hstring r fun h => by rw [hd.quote] at h; cases h

end Piece
end Likeness.Lex
