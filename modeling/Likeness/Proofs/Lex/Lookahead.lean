import Likeness.Proofs.Lex.Kinds

/-!
# What stands behind a piece

A piece that ends before an inert character (`Inert`) stays the same before another one (`Piece.next_before_inert`). Names,
comments and symbols end with a character of their own or because of the one behind them; a number looks farther, so
more than the number must stand before the character, unless that one ends all numbers (`Blind`,
`splitNumber_before_inert`); a string that would run into the character does not end before it
(`splitString_before_inert`).
-/

namespace Likeness.Lex

/-! ### Inert characters -/

/-- A character that no piece before it looks out for: no part of a line end, no quote, no digit, no sign of an
exponent, and no later character of a symbol. -/
structure Inert (d : Char) : Prop where
  line : d ≠ '\n'
  carriage : d ≠ '\r'
  quote : isQuote d = false
  digit : d.isDigit = false
  plus : d ≠ '+'
  minus : d ≠ '-'
  symbol : ∀ s ∈ symbols, d ∉ s.1.toList.tail

theorem inert_of_isNameStart {d : Char} (hd : isNameStart d = true) : Inert d where
  line := ne_of_isNameStart hd (by decide)
  carriage := ne_of_isNameStart hd (by decide)
  quote := by
    by_contra hquote
    exact ne_quote_of_isNameStart hd (by simpa using hquote) rfl
  digit := isDigit_of_isNameStart hd
  plus := ne_of_isNameStart hd (by decide)
  minus := ne_of_isNameStart hd (by decide)
  symbol s hs hmem := notMem_symbol_of_isNameStart hd s hs (List.mem_of_mem_tail hmem)

theorem Inert.ne_of_isQuote {d q : Char} (hd : Inert d) (hq : isQuote q = true) : d ≠ q := by
  rintro rfl
  rw [hd.quote] at hq
  cases hq

/-! ### Runs, fractions and exponents -/

/-- What is split off stays the same if an inert character behind it is exchanged, at some distance or for one that
ends all numbers. -/
def Blind (split : List Char → List Char × List Char) : Prop :=
  ∀ ⦃a b r : List Char⦄ ⦃d d' : Char⦄, Inert d → Inert d' → (b = [] → Ends d') →
    split (a ++ (b ++ d :: r)) = (a, b ++ d :: r) → ∀ r', split (a ++ (b ++ d' :: r')) = (a, b ++ d' :: r')

/-- One part behind another. -/
theorem Blind.comp {f g : List Char → List Char × List Char} (hf : Blind f) (hg : Blind g)
    (happend : ∀ cs, (f cs).1 ++ (f cs).2 = cs) (happend' : ∀ cs, (g cs).1 ++ (g cs).2 = cs) :
    Blind fun cs => ((f cs).1 ++ (g (f cs).2).1, (g (f cs).2).2) := by
  intro a b r d d' hd hd' hb h r'
  obtain ⟨hfirst, hrest⟩ := Prod.mk.inj h
  have hwhole := happend (a ++ (b ++ d :: r))
  generalize hx : f (a ++ (b ++ d :: r)) = x at hfirst hrest hwhole
  have hsecond := happend' x.2
  rw [hrest] at hsecond
  -- the second part stands between the first one and the character
  have hf' := hf (a := x.1) (b := (g x.2).1 ++ b) hd hd' (fun h => hb (List.append_eq_nil_iff.1 h).2)
    (by rw [List.append_assoc, hsecond, hwhole, hx]) r'
  have hg' := hg (a := (g x.2).1) hd hd' hb (by rw [hsecond, ← hrest]) r'
  simp only [← hfirst, List.append_assoc] at hf' ⊢
  rw [hf', hg']

/-- A run that ends before a character ends before another one too, if that one is not of its class or stands at some
distance. -/
theorem span_before {p : Char → Bool} {a b r : List Char} {d d' : Char} (hb : b = [] → p d = false → p d' = false)
    (h : (a ++ (b ++ d :: r)).span p = (a, b ++ d :: r)) (r' : List Char) :
    (a ++ (b ++ d' :: r')).span p = (a, b ++ d' :: r') := by
  simp only [List.span_eq_takeWhile_dropWhile, Prod.mk.injEq] at h
  have hall : ∀ c ∈ a, p c = true := by
    intro c hc
    rw [← h.1] at hc
    exact List.mem_takeWhile_imp hc
  have hstop : ∀ x ∈ (b ++ d' :: r').head?, p x = false := by
    have hhead := List.head?_dropWhile_not p (a ++ (b ++ d :: r))
    rw [h.2] at hhead
    cases b with
    | nil => simpa using hb rfl (by simpa using hhead)
    | cons x b => simpa using hhead
  exact span_append_of_head? hall hstop

theorem blind_span {p : Char → Bool} (hp : ∀ {c}, p c = true → isNamePart c = true) : Blind (List.span p) :=
  fun _ _ _ _ _ _ _ hb h r' => span_before (fun hnil _ => (hb hnil).eq_false hp) h r'

/-- What a run leaves of a text behind which another character stands. -/
theorem span_before_of_rest {p : Char → Bool} {w b r : List Char} {d d' : Char}
    (hb : b = [] → p d = false → p d' = false) (h : ((w ++ d :: r).span p).2 = b ++ d :: r) (r' : List Char) :
    (w ++ d' :: r').span p = (((w ++ d :: r).span p).1, b ++ d' :: r') := by
  have happend := span_append p (w ++ d :: r)
  generalize hx : (w ++ d :: r).span p = x at h happend ⊢
  obtain ⟨a, rest⟩ := x
  obtain rfl : rest = b ++ d :: r := h
  have hw : w = a ++ b := by
    rw [← List.append_assoc] at happend
    exact (List.append_cancel_right happend).symm
  subst hw
  rw [List.append_assoc] at hx ⊢
  exact span_before hb hx r'

theorem blind_splitFraction : Blind splitFraction := by
  intro a b r d d' _ _ hb h r'
  cases a with
  | nil =>
    have hpoint : ∀ x ∈ (b ++ d' :: r').head?, x ≠ '.' := by
      cases b with
      | nil => simpa using (hb rfl).ne_point
      | cons x b =>
        rintro y hy rfl
        obtain rfl : x = '.' := by simpa using hy
        simp [splitFraction] at h
    cases hw : b ++ d' :: r' with
    | nil => simp at hw
    | cons x w => simp [splitFraction, hpoint x (by rw [hw]; rfl)]
  | cons c a =>
    have hc : c = '.' := by
      by_contra hc
      simp [splitFraction, hc] at h
    subst hc
    have hspan : (a ++ (b ++ d :: r)).span isDigitPart = (a, b ++ d :: r) := by
      simpa [splitFraction, Prod.ext_iff] using h
    have hstop : b = [] → isDigitPart d = false → isDigitPart d' = false := fun hnil _ => (hb hnil).isDigitPart_eq
    rw [List.cons_append, splitFraction, span_before hstop hspan]

theorem blind_splitExponent : Blind splitExponent := by
  intro a b r d d' hd hd' hb h r'
  have hsign : ∀ {d : Char} {r : List Char}, Inert d → ∀ w,
      splitSign (w ++ d :: r) = Prod.map id (· ++ d :: r) (splitSign w) := fun hd w =>
    splitSign_carry hd.plus hd.minus w
  have hhead : ∀ {d : Char} {r : List Char}, Inert d → ∀ w,
      (splitSign (w ++ d :: r)).2.head?.any Char.isDigit = (splitSign w).2.head?.any Char.isDigit := fun hd w =>
    head?_splitSign_carry hd.plus hd.minus hd.digit w
  cases a with
  | nil =>
    cases b with
    | nil =>
      have hd' := hb rfl
      have he : d' ≠ 'e' := hd'.ne_of_isNamePart (by decide)
      have hE : d' ≠ 'E' := hd'.ne_of_isNamePart (by decide)
      simp [splitExponent_cons, he, hE]
    | cons x b =>
      rw [List.nil_append, List.cons_append, splitExponent_cons, hhead hd] at h
      rw [List.nil_append, List.cons_append, splitExponent_cons, hhead hd']
      split at h
      · simp at h
      · rename_i hno
        rw [if_neg hno]
  | cons e a =>
    rw [List.cons_append, splitExponent_cons, ← List.append_assoc, hhead hd, hsign hd] at h
    rw [List.cons_append, splitExponent_cons, ← List.append_assoc, hhead hd', hsign hd']
    split at h
    · rename_i hyes
      rw [if_pos hyes]
      simp only [Prod.map, id, Prod.mk.injEq, List.cons_append, List.cons.injEq, true_and] at h ⊢
      obtain ⟨hdigits, hrest⟩ := h
      rw [span_before_of_rest (fun hnil _ => (hb hnil).isDigitPart_eq) hrest]
      exact ⟨hdigits, rfl⟩
    · simp at h

/-! ### Numbers -/

theorem splitDecimal_eq : splitDecimal = fun cs =>
    ((cs.span isDigitPart).1 ++ ((splitFraction (cs.span isDigitPart).2).1 ++
        (splitExponent (splitFraction (cs.span isDigitPart).2).2).1),
      (splitExponent (splitFraction (cs.span isDigitPart).2).2).2) := by
  funext cs
  simp only [splitDecimal, List.append_assoc]

theorem blind_splitDecimal : Blind splitDecimal := by
  have hbehind := blind_splitFraction.comp blind_splitExponent splitFraction_append splitExponent_append
  have hdecimal := (blind_span isNamePart_of_isDigitPart).comp hbehind (span_append isDigitPart)
    (fun cs => by simp only [List.append_assoc, splitExponent_append, splitFraction_append])
  rw [splitDecimal_eq]
  exact hdecimal

section Numbers

variable {a b r : List Char} {d d' : Char} (hd : Inert d) (hd' : Inert d') (hb : b = [] → Ends d')

include hd hd' hb

/-- Whether a number has another base is told by its first two characters. -/
theorem splitDigits_before_inert (ha : a ≠ []) (h : splitDigits (a ++ (b ++ d :: r)) = (a, b ++ d :: r))
    (r' : List Char) : splitDigits (a ++ (b ++ d' :: r')) = (a, b ++ d' :: r') := by
  rcases splitDigits_cases (a ++ (b ++ d :: r)) with ⟨x, ds, e, hx⟩ | hdecimal
  · rw [e, splitDigits_of_base hx] at h
    obtain ⟨rfl, hrest⟩ := Prod.mk.inj h
    rw [← hrest] at e
    have hds : (ds.span isHexPart).1 ++ (ds.span isHexPart).2 = ds := span_append isHexPart ds
    have hspan : ((ds.span isHexPart).1 ++ (b ++ d :: r)).span isHexPart = ((ds.span isHexPart).1, b ++ d :: r) := by
      rw [← hrest, hds]
    rw [List.cons_append, List.cons_append, splitDigits_of_base hx,
      span_before (fun hnil _ => (hb hnil).isHexPart_eq) hspan]
  · rw [splitDigits_of_decimal hdecimal] at h
    rw [splitDigits_of_decimal, blind_splitDecimal hd hd' hb h r']
    intro x ds e
    -- the second character is one of the number, or one behind it
    match a, b with
    | [], _ => exact absurd rfl ha
    | [c], [] =>
      obtain ⟨rfl, -⟩ := List.cons.inj (List.cons.inj e).2
      exact (hb rfl).isBaseLetter_eq
    | [c], y :: b =>
      obtain ⟨rfl, hrest⟩ := List.cons.inj e
      obtain ⟨rfl, -⟩ := List.cons.inj hrest
      exact hdecimal y _ rfl
    | c :: y :: a, b =>
      obtain ⟨rfl, hrest⟩ := List.cons.inj e
      obtain ⟨rfl, -⟩ := List.cons.inj hrest
      exact hdecimal y _ rfl

theorem splitNumber_before_inert (hstarts : startsNumber (a ++ (b ++ d :: r)) = true)
    (h : splitNumber (a ++ (b ++ d :: r)) = (a, b ++ d :: r)) (r' : List Char) :
    splitNumber (a ++ (b ++ d' :: r')) = (a, b ++ d' :: r') := by
  have hne := splitDigits_ne_nil hstarts
  have happend := splitDigits_append (a ++ (b ++ d :: r))
  rw [splitNumber_eq] at h
  generalize hx : splitDigits (a ++ (b ++ d :: r)) = x at h hne happend
  obtain ⟨digits, rest⟩ := x
  simp only at h hne happend
  cases rest with
  | nil => simp at h
  | cons j rest =>
    by_cases hj : (j == 'j' || j == 'J') = true
    · -- the letter of an imaginary number stands between the digits and the character
      simp only [hj, if_true] at h
      obtain ⟨rfl, rfl⟩ := Prod.mk.inj h
      have hdigits := splitDigits_before_inert (b := j :: b) hd hd' (by simp) hne (by simpa using hx) r'
      have hnumber : splitDigits (digits ++ [j] ++ (b ++ d' :: r')) = (digits, j :: (b ++ d' :: r')) := by
        simpa using hdigits
      rw [splitNumber_eq, hnumber]
      simp [hj]
    · simp only [hj] at h
      obtain ⟨rfl, hrest⟩ := Prod.mk.inj h
      rw [hrest] at hx
      rw [splitNumber_eq, splitDigits_before_inert hd hd' hb hne hx r']
      cases b with
      | nil =>
        have hlower : d' ≠ 'j' := (hb rfl).ne_of_isNamePart (by decide)
        have hupper : d' ≠ 'J' := (hb rfl).ne_of_isNamePart (by decide)
        simp [hlower, hupper]
      | cons y b =>
        obtain rfl : j = y := (List.cons.inj hrest).1
        simp [hj]

end Numbers

/-! ### Strings -/

/-- A string that nothing in a text closes takes a character behind the text that is no line end and no quote. -/
theorem splitBody_open {q d : Char} (hline : d ≠ '\n') (hquote : d ≠ q) (t : Bool) (cs r : List Char)
    (h : (splitBody q t cs).2 = (false, [])) : (splitBody q t (cs ++ d :: r)).2.2.length ≤ r.length := by
  have hshort : ∀ r : List Char, (splitBody q t r).2.2.length ≤ r.length := by
    intro r
    have happend := congrArg List.length (splitBody_append q t r)
    rw [List.length_append] at happend
    omega
  -- a backslash at the end of the text takes the character
  have hescaped : (splitBody q t ('\\' :: d :: r)).2.2.length ≤ r.length := by simpa [splitBody] using hshort r
  fun_induction splitBody q t cs with
  | case1 =>
    rw [List.nil_append]
    by_cases hslash : d = '\\'
    · -- a backslash takes the next character too, or is the last one
      subst hslash
      cases r with
      | nil => cases t <;> simp [splitBody, startsDouble, hquote]
      | cons c r => simpa [splitBody] using Nat.le_succ_of_le (hshort r)
    · rw [splitBody_cons hslash]
      simpa [hquote, hline] using hshort r
  | case2 c cs body closed rest e ih =>
    rw [e] at ih
    simpa [splitBody] using ih h
  | case3 => simp at h
  | case4 c cs hesc ht hclose body closed rest e ih =>
    rw [e] at ih
    by_cases hc : c = '\\'
    · obtain rfl : cs = [] := by
        by_contra hcs
        exact ne_backslash hesc hcs hc
      rwa [hc]
    · rw [List.cons_append, splitBody_cons hc, startsDouble_carry hquote]
      simpa [ht, hclose] using ih h
  | case5 => simp at h
  | case6 => simp at h
  | case7 c cs hesc ht hc hline' body closed rest e ih =>
    rw [e] at ih
    by_cases hslash : c = '\\'
    · obtain rfl : cs = [] := by
        by_contra hcs
        exact ne_backslash hesc hcs hslash
      rwa [hslash]
    · rw [List.cons_append, splitBody_cons hslash]
      simpa [ht, hc, hline'] using ih h

theorem splitString_open {q d : Char} (hline : d ≠ '\n') (hquote : d ≠ q) (cs r : List Char)
    (h : (splitString q cs).2 = (false, [])) : (splitString q (cs ++ d :: r)).2.2.length ≤ r.length := by
  unfold splitString at h ⊢
  rw [startsDouble_carry hquote]
  split at h
  · rename_i hdouble
    obtain ⟨cs, rfl⟩ := startsDouble_iff.1 hdouble
    rw [if_pos hdouble]
    exact splitBody_open hline hquote true cs r h
  · rename_i hdouble
    rw [if_neg hdouble]
    exact splitBody_open hline hquote false cs r h

theorem splitString_before_inert {q d d' : Char} (hq : isQuote q = true) (hd : Inert d) (hd' : Inert d')
    {cs body rest r : List Char} {closed : Bool} (r' : List Char)
    (h : splitString q (cs ++ d :: r) = (body, closed, rest ++ d :: r)) :
    splitString q (cs ++ d' :: r') = (body, closed, rest ++ d' :: r') := by
  have hslash := ne_backslash_of_isQuote hq
  have hends : (splitString q cs).2.1 = true ∨ (splitString q cs).2.2 ≠ [] := by
    by_contra hopen
    simp only [not_or, not_not, Bool.not_eq_true] at hopen
    have hlen := splitString_open hd.line (hd.ne_of_isQuote hq) cs r (Prod.ext hopen.1 hopen.2)
    rw [h] at hlen
    simp at hlen
    omega
  rw [splitString_carry hslash (hd.ne_of_isQuote hq) cs r hends] at h
  rw [splitString_carry hslash (hd'.ne_of_isQuote hq) cs r' hends]
  simp only [Prod.mk.injEq, List.append_cancel_right_eq] at h
  obtain ⟨hbody, hclosed, hrest⟩ := h
  rw [hbody, hclosed, hrest]

/-! ### Prefixes of strings -/

/-- Whether a string literal begins here is told by the first character that cannot stand before its quote. -/
theorem splitPrefix_eq_none_of_append {a r : List Char} (ha : ∃ c ∈ a, isPrefixLetter c = false)
    (h : splitPrefix (a ++ r) = none) (r' : List Char) : splitPrefix (a ++ r') = none := by
  obtain ⟨c, hc, hletter⟩ := ha
  by_contra hsome
  obtain ⟨⟨letters, q, rest⟩, hsome⟩ := Option.ne_none_iff_exists'.1 hsome
  obtain ⟨happend, hletters, -⟩ := splitPrefix_eq_some hsome
  have hnotMem : c ∉ letters := by
    intro hmem
    rw [hletters c hmem] at hletter
    cases hletter
  rcases List.append_eq_append_iff.1 happend with ⟨ls, rfl, -⟩ | ⟨qs, rfl, hqs⟩
  · exact hnotMem (List.mem_append_left _ hc)
  · cases qs with
    | nil => exact hnotMem (by simpa using hc)
    | cons p qs =>
      obtain rfl : q = p := (List.cons.inj hqs).1
      have hagain := splitPrefix_behind hsome (qs ++ r)
      rw [List.append_assoc, List.cons_append, hagain] at h
      cases h

/-! ### Pieces -/

theorem splitJoin_before_inert {d : Char} (hd : Inert d) {cs : List Char} (hcs : cs ≠ []) (r : List Char) :
    splitJoin (cs ++ d :: r) = (splitJoin cs).map (Prod.map id (· ++ d :: r)) := by
  by_cases hslash : cs = ['\\']
  · simp [hslash, splitJoin, hd.line, hd.carriage]
  · by_cases hslashReturn : cs = ['\\', '\r']
    · simp [hslashReturn, splitJoin, hd.line]
    · exact splitJoin_carry hcs hslash hslashReturn (d :: r)

theorem startsNumber_before_inert {d : Char} (hd : Inert d) (c : Char) (cs r : List Char) :
    startsNumber (c :: (cs ++ d :: r)) = startsNumber (c :: cs) := by
  cases cs with
  | nil => by_cases hc : c = '.' <;> simp [startsNumber, hc, hd.digit]
  | cons x cs => by_cases hc : c = '.' <;> simp [startsNumber, hc]

theorem splitSymbol_before_inert {d : Char} (hd : Inert d) (c : Char) (cs r : List Char) :
    splitSymbol (c :: (cs ++ d :: r)) = (splitSymbol (c :: cs)).map (Prod.map id (Prod.map id (· ++ d :: r))) := by
  refine splitSymbol_append_of_prefixes (c :: cs) (d :: r) fun s hs => ?_
  cases hsymbol : s.1.toList with
  | nil => rfl
  | cons x xs =>
    have hmem : d ∉ xs := by simpa [hsymbol] using hd.symbol s hs
    rw [List.cons_append, List.isPrefixOf, List.isPrefixOf, isPrefixOf_carry hmem]

/-- A run that ends before a character of its own class ends because of one before it. -/
theorem ne_nil_of_span {p : Char → Bool} {cs r rest : List Char} {d : Char} (hd : p d = true)
    (h : (cs.span p).2 = rest ++ d :: r) : ∃ x b, rest = x :: b ∧ p x = false := by
  have hhead := List.head?_dropWhile_not p cs
  rw [List.span_eq_takeWhile_dropWhile] at h
  cases rest with
  | nil =>
    simp only at h
    rw [h] at hhead
    simp [hd] at hhead
  | cons x b =>
    simp only at h
    rw [h] at hhead
    exact ⟨x, b, rfl, by simpa using hhead⟩

namespace Piece

/-- A piece that ends before an inert character stays the same before another one: a name if the other one goes on with
no name, and a number if the other one ends all numbers or does not stand just behind it. -/
theorem next_before_inert {c d d' : Char} {cs r text rest : List Char} {piece : Piece} (hd : Inert d) (hd' : Inert d')
    (hpart : isNamePart d = false → isNamePart d' = false)
    (h : next c (cs ++ d :: r) = (piece, text, rest ++ d :: r))
    (hnumber : piece = token .numberLiteral → rest = [] → Ends d') (r' : List Char) :
    next c (cs ++ d' :: r') = (piece, text, rest ++ d' :: r') := by
  have hwhole : text ++ rest = c :: cs := by
    obtain ⟨happend, -, -⟩ := next_spec c (cs ++ d :: r)
    rw [h] at happend
    simp only [← List.append_assoc, ← List.cons_append] at happend
    exact List.append_cancel_right happend
  have hshape : ∀ u : List Char, c :: (cs ++ u) = text ++ (rest ++ u) := by
    intro u
    rw [← List.append_assoc, hwhole]
    rfl
  have hjoin : ∀ {d : Char} {r : List Char}, Inert d →
      splitJoin (c :: (cs ++ d :: r)) = (splitJoin (c :: cs)).map (Prod.map id (· ++ d :: r)) := fun hd =>
    splitJoin_before_inert hd (List.cons_ne_nil c cs) _
  have hunquoted : (∃ x ∈ c :: cs, isPrefixLetter x = false) → splitPrefix (c :: (cs ++ d :: r)) = none →
      splitPrefix (c :: (cs ++ d' :: r')) = none := fun hletter hnone =>
    splitPrefix_eq_none_of_append (a := c :: cs) hletter hnone (d' :: r')
  generalize hw : cs ++ d :: r = w at h
  revert h
  fun_cases next c w with
  | case1 hblank =>
    rintro ⟨⟩
    rw [next_blank hblank, List.append_cancel_right hw]
  | case2 _ join rest' e =>
    rintro ⟨⟩
    subst hw
    rw [hjoin hd] at e
    obtain ⟨⟨join', x⟩, hx, e⟩ := Option.map_eq_some_iff.1 e
    obtain ⟨rfl, rfl⟩ : join' = text ∧ x = rest := by simpa using e
    exact next_join (by rw [hjoin hd', hx]; rfl)
  | case3 _ _ hc comment rest' e =>
    rintro ⟨⟩
    subst hw
    -- a comment goes on to the end of its line
    have hstop : rest = [] → (d != '\n') = false → (d' != '\n') = false := fun _ hline =>
      absurd (by simpa using hline) hd.line
    obtain rfl := eq_of_beq hc
    rw [next_hash, span_before_of_rest hstop (congrArg Prod.snd e) r', e]
  | case4 _ _ _ letters q rest' e body closed rest'' e' =>
    rintro ⟨⟩
    subst hw
    obtain ⟨-, -, hq⟩ := splitPrefix_eq_some e
    have hbody := splitString_append q rest'
    rw [e'] at hbody
    have hliteral := splitPrefix_behind e (body ++ (rest ++ d' :: r'))
    rw [← List.cons_append, ← List.append_assoc, ← hshape] at hliteral
    rw [← hbody, ← List.append_assoc] at e'
    have hstring := splitString_before_inert hq hd hd' r' e'
    rw [List.append_assoc] at hstring
    rw [next_string hliteral, hstring]
  | case5 _ _ _ hnoString hname word rest' e =>
    rintro ⟨⟩
    subst hw
    have hspan := congrArg Prod.snd e
    have hletter : ∀ {x : Char}, isNamePart x = false → isPrefixLetter x = false := by
      intro x hx
      by_contra hletter
      rw [isNamePart_of_isPrefixLetter (by simpa using hletter)] at hx
      cases hx
    have hnoString' : splitPrefix (c :: (cs ++ d' :: r')) = none := by
      by_cases hgoesOn : isNamePart d = true
      · -- the name ends because of a character before `d`, which is no letter of a prefix either
        obtain ⟨x, b, rfl, hx⟩ := ne_nil_of_span hgoesOn hspan
        exact hunquoted ⟨x, by rw [← hwhole]; simp, hletter hx⟩ hnoString
      · have hends : isNamePart d = false := by simpa using hgoesOn
        have hold := splitPrefix_carry (hletter hends) hd.quote (c :: cs) r
        have hnew := splitPrefix_carry (hletter (hpart hends)) hd'.quote (c :: cs) r'
        rw [List.cons_append, hnoString, eq_comm, Option.map_eq_none_iff] at hold
        rw [← List.cons_append, hnew, hold, Option.map_none]
    rw [next_word hname hnoString', span_before_of_rest (fun _ => hpart) hspan r', e]
  | case6 _ _ _ _ _ hnum number rest' e =>
    rintro ⟨⟩
    subst hw
    rw [hshape] at hnum e
    have hnum' : startsNumber (c :: (cs ++ d' :: r')) = true := by
      rwa [startsNumber_before_inert hd', ← startsNumber_before_inert hd c cs r, hshape]
    rw [next_number hnum', hshape, splitNumber_before_inert hd hd' (hnumber rfl) hnum e]
  | case7 _ _ _ _ _ hnum kind symbol rest' e =>
    rintro ⟨⟩
    subst hw
    rw [startsNumber_before_inert hd, ← startsNumber_before_inert hd' c cs r'] at hnum
    rw [splitSymbol_before_inert hd] at e
    obtain ⟨⟨kind', symbol', x⟩, hx, e⟩ := Option.map_eq_some_iff.1 e
    obtain ⟨rfl, rfl, rfl⟩ : kind' = kind ∧ symbol' = text ∧ x = rest := by simpa using e
    exact next_symbol (by simpa using hnum) (by rw [splitSymbol_before_inert hd', hx]; rfl)
  | case8 hblank hnoJoin hc hnoString hname hnum hnoSymbol =>
    rintro ⟨⟩
    obtain rfl := List.append_cancel_right hw
    have hletter : isPrefixLetter c = false := by
      by_contra hletter
      exact hname (isNameStart_of_isPrefixLetter (by simpa using hletter))
    rw [startsNumber_before_inert hd, ← startsNumber_before_inert hd' c cs r'] at hnum
    rw [hjoin hd, Option.map_eq_none_iff] at hnoJoin
    rw [splitSymbol_before_inert hd, Option.map_eq_none_iff] at hnoSymbol
    exact next_stray (by simpa using hblank) (by rw [hjoin hd', hnoJoin]; rfl) (by simpa using hc)
      (hunquoted ⟨c, by simp, hletter⟩ hnoString) (by simpa using hname) (by simpa using hnum)
      (by rw [splitSymbol_before_inert hd', hnoSymbol]; rfl)

end Piece
end Likeness.Lex
