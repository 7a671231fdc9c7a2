import Likeness.Proofs.Lex.Alike
import Likeness.Proofs.Lex.Lookahead
import Likeness.Proofs.Lex.Marks
import Likeness.Proofs.Lex.Written
import Likeness.Proofs.Text.Compat

/-!
# Reading a text and its normal form

ASCII text is its own normal form, so a text whose other characters stand in literals and comments is cut into the
same pieces in normal form (`cut_normalize`). A comment stays a comment, as no character has a line end in its
normal form. A literal need not stay one: three look-alikes of its quote and of the backslash turn into marks
(`isLookalike`). It does if it has none of them, or if its normal form is again one closed literal
(`StaysLiteral`). The text in normal form then has the same tokens (`normal_form_unseen`). Without this, a
quote of full width may open a string of three quotes (`fullwidth_quote_opens_string`).
-/

namespace Likeness.Lex

open Text.Compat (Isolated isolated_of_lookup mem_normalize normalize normalize_append_cons normalize_ascii
  normalize_ne_nil normalize_nil sources sources_marks)

/-! ### Marks in normal forms -/

/-- The marks of strings, and what a comment begins with, compose with nothing. -/
theorem isolated_of_mem {c : Char} (hc : c ∈ ['\'', '"', '\\', '\n', '#']) : Isolated c := by
  simp only [List.mem_cons, List.not_mem_nil, or_false] at hc
  rcases hc with rfl | rfl | rfl | rfl | rfl <;> exact isolated_of_lookup (by decide) (by decide +kernel)

theorem isolated_of_isQuote {q : Char} (hq : isQuote q = true) : Isolated q := by
  rcases isQuote_iff.1 hq with rfl | rfl <;> exact isolated_of_mem (by decide)

theorem newline_notMem_normalize {cs : List Char} (h : '\n' ∉ cs) : '\n' ∉ normalize cs := by
  intro hmem
  obtain ⟨e, he, rfl | hsource⟩ := mem_normalize (by decide) (by decide) hmem
  · exact h he
  · rw [sources_marks.1] at hsource
    cases hsource

/-- Whether a character is another one than the quote `q` or a backslash, but has it for its normal form. -/
def isLookalike (q c : Char) : Bool :=
  c == (if q == '\'' then '\uFF07' else '\uFF02') || c == '\uFE68' || c == '\uFF3C'

/-- The characters of a text before its next mark, of which there is one. -/
theorem exists_run {isMark : Char → Bool} {c : Char} (hc : isMark c = false) (cs : List Char) :
    ∃ u r, c :: cs = u ++ r ∧ u ≠ [] ∧ (∀ x ∈ u, isMark x = false) ∧ (r = [] ∨ ∃ d r', r = d :: r' ∧ isMark d = true) := by
  refine ⟨_, _, (List.takeWhile_append_dropWhile (p := fun x => !isMark x)).symm, ?_, fun x hx => ?_, ?_⟩
  · simp [hc]
  · simpa using List.mem_takeWhile_imp hx
  · cases hr : (c :: cs).dropWhile fun x => !isMark x with
    | nil => exact .inl rfl
    | cons d r =>
      have hhead := List.head?_dropWhile_not (fun x => !isMark x) (c :: cs)
      rw [hr] at hhead
      exact .inr ⟨d, r, rfl, by simpa using hhead⟩

section Lookalikes

variable {q : Char} (hq : isQuote q = true)

include hq

theorem isolated_of_isStringMark {c : Char} (hc : isStringMark q c = true) : Isolated c ∧ 0 < c.toNat := by
  have hpos : 0 < q.toNat := by rcases isQuote_iff.1 hq with rfl | rfl <;> decide
  simp only [isStringMark, Bool.or_eq_true, beq_iff_eq] at hc
  rcases hc with (rfl | rfl) | rfl
  · exact ⟨isolated_of_isQuote hq, hpos⟩
  · exact ⟨isolated_of_mem (by decide), by decide⟩
  · exact ⟨isolated_of_mem (by decide), by decide⟩

theorem notMem_sources {c d : Char} (hc : isLookalike q c = false) (hd : isStringMark q d = true) :
    c.toNat ∉ sources d.toNat := by
  obtain ⟨hnewline, hquotes, hdoubles, hbackslashes⟩ := sources_marks
  simp only [isLookalike, Bool.or_eq_false_iff, beq_eq_false_iff_ne] at hc
  obtain ⟨⟨hquote, hsmall⟩, hfull⟩ := hc
  simp only [isStringMark, Bool.or_eq_true, beq_iff_eq] at hd
  rcases hd with (rfl | rfl) | rfl
  · rcases isQuote_iff.1 hq with rfl | rfl
    · rw [hquotes, List.mem_singleton, Char.toNat_inj]
      exact hquote
    · rw [hdoubles, List.mem_singleton, Char.toNat_inj]
      exact hquote
  · rw [hbackslashes, List.mem_pair, Char.toNat_inj, Char.toNat_inj]
    exact not_or.2 ⟨hsmall, hfull⟩
  · rw [hnewline]
    exact List.not_mem_nil

/-- Without look-alikes of its quote or of a backslash, a text has the marks of its normal form. -/
theorem sameMarks_normalize {cs : List Char} (h : ∀ c ∈ cs, isLookalike q c = false) :
    SameMarks (isStringMark q) cs (normalize cs) := by
  induction hn : cs.length using Nat.strongRecOn generalizing cs with
  | ind n ih =>
    cases cs with
    | nil => exact .nil
    | cons c cs =>
      by_cases hc : isStringMark q c = true
      · rw [(isolated_of_isStringMark hq hc).1.normalize_cons]
        exact .mark hc (ih _ (by simp [← hn]) (fun e he => h e (List.mem_cons_of_mem _ he)) rfl)
      · have hc : isStringMark q c = false := by simpa using hc
        obtain ⟨u, r, hsplit, hune, hu, hr⟩ := exists_run hc cs
        have hnormal : normalize (u ++ r) = normalize u ++ normalize r := by
          rcases hr with rfl | ⟨d, r, rfl, hd⟩
          · simp
          · exact normalize_append_cons (isolated_of_isStringMark hq hd).1.ascii u r
        rw [hsplit] at h hn ⊢
        have hv : ∀ x ∈ normalize u, isStringMark q x = false := by
          intro x hx
          by_contra hmark
          have hmark : isStringMark q x = true := by simpa using hmark
          obtain ⟨hisolated, hpos⟩ := isolated_of_isStringMark hq hmark
          obtain ⟨e, he, rfl | hsource⟩ := mem_normalize hpos hisolated.ascii hx
          · rw [hu x he] at hmark
            cases hmark
          · exact notMem_sources hq (h e (List.mem_append_left _ he)) hmark hsource
        have hlength : r.length < n := by
          have := List.length_pos_iff.2 hune
          rw [List.length_append] at hn
          omega
        rw [hnormal]
        exact .run hune (normalize_ne_nil hune) hu hv (ih _ hlength (fun e he => h e (List.mem_append_right _ he)) rfl)

/-- The normal form of what closes a string closes it, without look-alikes. -/
theorem closes_normalize {t : Bool} {cs : List Char} (h : Closes q t cs) (hplain : ∀ c ∈ cs, isLookalike q c = false) :
    Closes q t (normalize cs) :=
  (closes_of_sameMarks (ne_backslash_of_isQuote hq) (sameMarks_normalize hq hplain) t).1 h

end Lookalikes

/-! ### Literals in normal form -/

/-- The spelling of a string literal without look-alikes of its opening quote or of a backslash. -/
def IsPlain (literal : List Char) : Prop := ∀ q ∈ literal.find? isQuote, ∀ c ∈ literal, isLookalike q c = false

instance : DecidablePred IsPlain := fun literal =>
  decidable_of_iff ((literal.find? isQuote).all (fun q => literal.all fun c => !isLookalike q c) = true) (by
    simp [IsPlain, Option.all_eq_true])

/-- The normal form of a closed literal is a closed literal, by its marks or by itself. -/
def StaysLiteral (literal : List Char) : Prop :=
  IsPlain literal ∨ Piece.cut (normalize literal) = [(.string true, normalize literal)]

instance : DecidablePred StaysLiteral := fun literal =>
  inferInstanceAs (Decidable (IsPlain literal ∨ Piece.cut (normalize literal) = [(.string true, normalize literal)]))

section Literals

variable {letters body : List Char} {q : Char} (hl : ∀ l ∈ letters, isPrefixLetter l = true) (hq : isQuote q = true)

include hl hq

theorem normalize_literal (cs : List Char) : normalize (letters ++ q :: cs) = letters ++ q :: normalize cs := by
  have hisolated := isolated_of_isQuote hq
  have hascii : ∀ l ∈ letters, l.toNat < 0x80 := fun l hmem => toNat_of_isPrefixLetter (hl l hmem)
  rw [normalize_append_cons hisolated.ascii, normalize_ascii hascii, hisolated.normalize_cons]

/-- Behind its opening quote the normal form of a plain literal is closed as the literal is. -/
theorem closed_normalize (hplain : IsPlain (letters ++ q :: body))
    (h : Closes q false body ∨ ∃ b, body = q :: q :: b ∧ Closes q true b) :
    Closes q false (normalize body) ∨ ∃ b, normalize body = q :: q :: b ∧ Closes q true b := by
  have hisolated := isolated_of_isQuote hq
  have hletters : letters.find? isQuote = none := List.find?_eq_none.2 fun l hmem hquote => by
    have hletter := hl l hmem
    rw [not_isPrefixLetter_of_isQuote hquote] at hletter
    cases hletter
  have hfind : (letters ++ q :: body).find? isQuote = some q := by simp [List.find?_append, hletters, hq]
  have hbody : ∀ c ∈ body, isLookalike q c = false := fun c hc => hplain q hfind c (by simp [hc])
  rcases h with h | ⟨b, rfl, h⟩
  · exact .inl (closes_normalize hq h hbody)
  · refine .inr ⟨normalize b, by rw [hisolated.normalize_cons, hisolated.normalize_cons], closes_normalize hq h ?_⟩
    exact fun c hc => hbody c (by simp [hc])

omit hl in
theorem eq_quote_of_normalize (h : Closes q false body ∨ ∃ b, body = q :: q :: b ∧ Closes q true b)
    (hquote : normalize body = [q]) : body = [q] := by
  have hisolated := isolated_of_isQuote hq
  rcases h with h | ⟨b, rfl, -⟩
  · obtain ⟨a, rfl⟩ := h.exists_last
    rw [normalize_append_cons hisolated.ascii, hisolated.normalize_cons, normalize_nil] at hquote
    have ha : a = [] := by
      by_contra ha
      exact normalize_ne_nil ha (List.append_left_eq_self.1 hquote)
    rw [ha, List.nil_append]
  · rw [hisolated.normalize_cons, hisolated.normalize_cons] at hquote
    cases hquote

end Literals

namespace Piece

/-- A literal that is the only piece is split off as a whole. -/
theorem splitString_of_cut {cs letters r body : List Char} {q : Char} (h : splitPrefix cs = some (letters, q, r))
    (hcut : cut (letters ++ q :: body) = [(string true, letters ++ q :: body)]) :
    splitString q body = (body, true, []) := by
  have hbehind := splitPrefix_behind h body
  have happend := splitString_append q body
  cases hshape : letters ++ q :: body with
  | nil => simp at hshape
  | cons d ds =>
    rw [hshape] at hbehind hcut
    rw [cut_cons, next_string hbehind, ← hshape] at hcut
    obtain ⟨hpiece, -⟩ := List.cons.inj hcut
    obtain ⟨hclosed, htext⟩ : (splitString q body).2.1 = true ∧ (splitString q body).1 = body := by simpa using hpiece
    rw [htext] at happend
    exact Prod.ext htext (Prod.ext hclosed (by simpa using happend))

/-- A closed literal is read as one in the normal form too. -/
theorem next_normalize_string {c : Char} {cs : List Char} (hclosed : (next c cs).1 = string true)
    (hstays : StaysLiteral (next c cs).2.1) (hfront : (normalize (next c cs).2.2).head? = (next c cs).2.2.head?) :
    ∃ d ds, normalize (next c cs).2.1 ++ normalize (next c cs).2.2 = d :: ds ∧
      next d ds = (string true, normalize (next c cs).2.1, normalize (next c cs).2.2) := by
  obtain ⟨letters, q, r, hprefix⟩ := exists_splitPrefix hclosed
  obtain ⟨hcs, hl, hq⟩ := splitPrefix_eq_some hprefix
  have hslash := ne_backslash_of_isQuote hq
  rw [next_string hprefix] at hclosed hstays hfront ⊢
  simp only at hclosed hstays hfront ⊢
  have hclosed : (splitString q r).2.1 = true := by simpa using hclosed
  have hbody := (hasClosing_letters_iff hl hq _).1 ((hasClosing_iff hl hq r).2 hclosed)
  have hsingle : (splitString q r).1 = [q] → (splitString q r).2.2.head? ≠ some q := head?_splitString
  generalize (splitString q r).1 = body at hbody hsingle hstays ⊢
  generalize (splitString q r).2.2 = rest at hsingle hfront ⊢
  have hwhole : splitString q (normalize body) = (normalize body, true, []) := by
    rcases hstays with hplain | hcut
    · exact splitString_of_closes hslash (closed_normalize hl hq hplain hbody)
    · rw [normalize_literal hl hq] at hcut
      exact splitString_of_cut hprefix hcut
  have hthree : normalize body = [q] → (normalize rest).head? ≠ some q := by
    intro hquote
    rw [hfront]
    exact hsingle (eq_quote_of_normalize hq hbody hquote)
  have hbehind := splitString_append_of_closed hslash hwhole hthree
  have hprefix' := splitPrefix_behind hprefix (normalize body ++ normalize rest)
  rw [normalize_literal hl hq, List.append_assoc, List.cons_append]
  cases hshape : letters ++ q :: (normalize body ++ normalize rest) with
  | nil => simp at hshape
  | cons d ds =>
    rw [hshape] at hprefix'
    exact ⟨d, ds, rfl, by rw [next_string hprefix', hbehind]⟩

/-! ### Comments and ASCII -/

/-- What is no joined line begins nothing with a backslash. -/
theorem next_backslash (cs : List Char) (h : splitJoin ('\\' :: cs) = none) : (next '\\' cs).1 = stray := by
  have hd := breaks_backslash
  have hblank : Text.isBlank '\\' = false := by decide
  have hname : isNameStart '\\' = false := by decide
  have hnumber : startsNumber ('\\' :: cs) = false := by simp [startsNumber]
  have hprefix : splitPrefix ('\\' :: cs) = none := splitPrefix_eq_none hd.isPrefixLetter_eq hd.quote cs
  have hsymbol : splitSymbol ('\\' :: cs) = none := splitSymbol_carry hd.symbol [] cs
  rw [next_stray hblank h (by decide) hprefix hname hnumber hsymbol]

/-- A comment is read as one in the normal form too. -/
theorem next_normalize_comment (cs : List Char) :
    ∃ d ds, normalize (next '#' cs).2.1 ++ normalize (next '#' cs).2.2 = d :: ds ∧
      next d ds = ((next '#' cs).1, normalize (next '#' cs).2.1, normalize (next '#' cs).2.2) := by
  have happend := span_append (· != '\n') cs
  have hspec := comment_spec cs
  generalize cs.span (· != '\n') = x at happend hspec
  obtain ⟨body, after⟩ := x
  subst happend
  cases hspec with
  | blank hblank => exact absurd hblank (by decide)
  | comment hbody hafter =>
    rw [next_comment_append hbody hafter]
    have hafter' : normalize after = [] ∨ ∃ r, normalize after = '\n' :: r := by
      rcases hafter with rfl | ⟨r, rfl⟩
      · exact .inl rfl
      · exact .inr ⟨_, (isolated_of_mem (by decide)).normalize_cons r⟩
    rw [(isolated_of_mem (by decide)).normalize_cons, List.cons_append]
    exact ⟨_, _, rfl, next_comment_append (newline_notMem_normalize hbody) hafter'⟩

/-- What a quote or a comment begins with. -/
def IsOpening (d : Char) : Prop := isQuote d = true ∨ d = '#'

instance : DecidablePred IsOpening := fun d => inferInstanceAs (Decidable (isQuote d = true ∨ d = '#'))

theorem IsOpening.ends {d : Char} (hd : IsOpening d) : Ends d := by
  rcases hd with hquote | rfl
  · rcases isQuote_iff.1 hquote with rfl | rfl <;> exact ⟨by decide, by decide⟩
  · exact breaks_hash.toEnds

theorem IsOpening.isolated {d : Char} (hd : IsOpening d) : Isolated d := by
  rcases hd with hquote | rfl
  · exact isolated_of_isQuote hquote
  · exact isolated_of_mem (by decide)

/-- Of a backslash, and of one with a carriage return, only a line end makes a joined line. -/
theorem ne_join_of_not_stray {c d : Char} {w r : List Char} (hline : d ≠ '\n') (hreturn : d ≠ '\r')
    (h : (next c (w ++ d :: r)).1 ≠ stray) : c :: w ≠ ['\\'] ∧ c :: w ≠ ['\\', '\r'] := by
  constructor
  · intro hslash
    obtain ⟨rfl, rfl⟩ := List.cons.inj hslash
    exact h (next_backslash (d :: r) (by simp [splitJoin, hline, hreturn]))
  · intro hslash
    obtain ⟨rfl, rfl⟩ := List.cons.inj hslash
    exact h (next_backslash ('\r' :: d :: r) (by simp [splitJoin, hline]))

/-- A piece before a literal or a comment does not depend on what these are. -/
theorem next_before_opening {c d : Char} (hd : IsOpening d) (hc : c ≠ '#') {piece : Piece} {w u r text : List Char}
    (hstray : piece ≠ stray) (hstring : ∀ closed, piece ≠ string closed)
    (h : next c (w ++ d :: r) = (piece, text, u ++ d :: r)) (r' : List Char) :
    next c (w ++ d :: r') = (piece, text, u ++ d :: r') := by
  have hends := hd.ends
  have hline : d ≠ '\n' := by rintro rfl; exact absurd hd (by decide)
  have hreturn : d ≠ '\r' := by rintro rfl; exact absurd hd (by decide)
  have hnone : splitPrefix (c :: (w ++ d :: r)) = none := by
    by_contra hsome
    obtain ⟨⟨letters, q, rest⟩, hletters⟩ := Option.ne_none_iff_exists'.1 hsome
    rw [next_string hletters] at h
    exact hstring _ (congrArg Prod.fst h).symm
  have hnone' : splitPrefix (c :: (w ++ d :: r')) = none := by
    have hletter : ∃ x ∈ c :: (w ++ [d]), isPrefixLetter x = false := ⟨d, by simp, hends.isPrefixLetter_eq⟩
    have hagain := splitPrefix_eq_none_of_append hletter (r := r) (by simpa using hnone) r'
    simpa using hagain
  obtain ⟨hslash, hslashReturn⟩ := ne_join_of_not_stray hline hreturn (by rw [h]; exact hstray)
  have hopen : (next c w).1 = string false → (next c w).2.2 ≠ [] := by
    intro hopen
    obtain ⟨letters, q, rest, hletters⟩ := exists_splitPrefix hopen
    have hlonger := splitPrefix_append hletters (d :: r)
    rw [List.cons_append, hnone] at hlonger
    cases hlonger
  have hcomment : c = '#' → d = '\n' := fun h => absurd h hc
  have hshort := next_before hends hslash hslashReturn hcomment hopen r fun _ => hnone
  rw [h] at hshort
  obtain ⟨hpiece, htext, hrest⟩ : piece = (next c w).1 ∧ text = (next c w).2.1 ∧ u = (next c w).2.2 := by simpa using hshort
  rw [hpiece, htext, hrest]
  exact next_before hends hslash hslashReturn hcomment hopen r' fun _ => hnone'

/-! ### All pieces -/

/-- A piece of ASCII characters. -/
def IsAscii (p : Piece × List Char) : Prop := ∀ c ∈ p.2, c.toNat < 0x80

instance : DecidablePred IsAscii := fun p =>
  decidable_of_iff ((p.2.all fun c => c.toNat < 0x80) = true) (by simp [IsAscii])

/-- A comment among the pieces. -/
def IsComment (p : Piece × List Char) : Prop := p.1 = layout ∧ p.2.head? = some '#'

instance : DecidablePred IsComment := fun p => inferInstanceAs (Decidable (p.1 = layout ∧ p.2.head? = some '#'))

/-- A piece of which the normal form is read as the same one: of ASCII, a closed literal that stays one, or a
comment. -/
structure Keeps (p : Piece × List Char) : Prop where
  stray : p.1 ≠ stray
  closed : p.1 ≠ string false
  covered : IsAscii p ∨ p.1 = string true ∨ IsComment p
  literal : p.1 = string true → StaysLiteral p.2

/-- A text is of ASCII, at least up to its first literal or comment. -/
theorem exists_opening {cs : List Char} (h : ∀ p ∈ cut cs, Keeps p) :
    (∀ c ∈ cs, c.toNat < 0x80) ∨
      ∃ u d r, cs = u ++ d :: r ∧ (∀ c ∈ u, c.toNat < 0x80) ∧ IsOpening d := by
  induction cs using cut_induction with
  | nil => exact .inl fun c hc => by cases hc
  | cons c cs ih =>
    rw [cut_cons] at h
    obtain ⟨happend, hne, -⟩ := next_spec c cs
    rcases (h _ List.mem_cons_self).covered with hascii | hclosed | ⟨-, hhash⟩
    · rw [← happend]
      rcases ih fun p hp => h p (List.mem_cons_of_mem _ hp) with hrest | ⟨u, d, r, hrest, hu, hd⟩
      · exact .inl fun x hx => (List.mem_append.1 hx).elim (hascii x) (hrest x)
      · refine .inr ⟨(next c cs).2.1 ++ u, d, r, by rw [hrest, List.append_assoc], fun x hx => ?_, hd⟩
        exact (List.mem_append.1 hx).elim (hascii x) (hu x)
    · obtain ⟨letters, q, r, hprefix⟩ := exists_splitPrefix hclosed
      obtain ⟨hcs, hl, hq⟩ := splitPrefix_eq_some hprefix
      exact .inr ⟨letters, q, r, hcs, fun l hmem => toNat_of_isPrefixLetter (hl l hmem), .inl hq⟩
    · obtain ⟨x, text, htext⟩ := List.exists_cons_of_ne_nil hne
      rw [htext] at hhash happend
      obtain rfl : x = '#' := by simpa using hhash
      exact .inr ⟨[], '#', text ++ (next c cs).2.2, by rw [← happend]; rfl, (fun x hx => by cases hx), .inr rfl⟩

theorem normalize_opening {u r : List Char} {d : Char} (hu : ∀ c ∈ u, c.toNat < 0x80) (hd : IsOpening d) :
    normalize (u ++ d :: r) = u ++ d :: normalize r := by
  rw [normalize_append_cons hd.isolated.ascii, normalize_ascii hu, hd.isolated.normalize_cons]

theorem head?_normalize {cs : List Char} (h : ∀ p ∈ cut cs, Keeps p) : (normalize cs).head? = cs.head? := by
  rcases exists_opening h with hascii | ⟨u, d, r, rfl, hu, hd⟩
  · rw [normalize_ascii hascii]
  · rw [normalize_opening hu hd]
    cases u <;> rfl

/-- What stands behind a piece begins a normal form of its own. -/
theorem normalize_append {cs : List Char} (h : ∀ p ∈ cut cs, Keeps p) (a : List Char) :
    normalize (a ++ cs) = normalize a ++ normalize cs := by
  cases cs with
  | nil => simp
  | cons c cs =>
    have hascii : c.toNat < 0x80 := by
      rcases exists_opening h with hascii | ⟨u, d, r, hcs, hu, hd⟩
      · exact hascii c List.mem_cons_self
      · cases u with
        | nil => rw [(List.cons.inj hcs).1]; exact hd.isolated.ascii
        | cons x u => rw [(List.cons.inj hcs).1]; exact hu x List.mem_cons_self
    exact normalize_append_cons hascii a cs

/-- The piece at the beginning of a normal form. -/
theorem next_normalize {c : Char} {cs : List Char} (hkeeps : Keeps ((next c cs).1, (next c cs).2.1))
    (hrest : ∀ p ∈ cut (next c cs).2.2, Keeps p) :
    ∃ d ds, normalize (next c cs).2.1 ++ normalize (next c cs).2.2 = d :: ds ∧
      next d ds = ((next c cs).1, normalize (next c cs).2.1, normalize (next c cs).2.2) := by
  obtain ⟨happend, hne, -⟩ := next_spec c cs
  by_cases hclosed : (next c cs).1 = string true
  · obtain ⟨d, ds, hshape, hnext⟩ := next_normalize_string hclosed (hkeeps.literal hclosed) (head?_normalize hrest)
    exact ⟨d, ds, hshape, by rw [hnext, hclosed]⟩
  by_cases hhash : c = '#'
  · subst hhash
    exact next_normalize_comment cs
  have hascii : ∀ x ∈ (next c cs).2.1, x.toNat < 0x80 := by
    rcases hkeeps.covered with hascii | h | ⟨-, hhead⟩
    · exact hascii
    · exact absurd h hclosed
    · obtain ⟨x, text, htext⟩ := List.exists_cons_of_ne_nil hne
      rw [htext] at happend hhead
      exact absurd ((List.cons.inj happend).1.symm.trans (by simpa using hhead)) hhash
  rw [normalize_ascii hascii]
  rcases exists_opening hrest with hrestAscii | ⟨u, d, r, hopening, hu, hd⟩
  · rw [normalize_ascii hrestAscii]
    exact ⟨c, cs, happend, rfl⟩
  · rw [hopening, normalize_opening hu hd]
    rw [hopening] at happend
    obtain ⟨x, text, htext⟩ := List.exists_cons_of_ne_nil hne
    rw [htext, List.cons_append] at happend ⊢
    obtain ⟨rfl, rfl⟩ := List.cons.inj happend
    have hstring : ∀ closed, (next x (text ++ (u ++ d :: r))).1 ≠ string closed := by
      rintro (_ | _)
      · exact hkeeps.closed
      · exact hclosed
    have hnext : next x (text ++ u ++ d :: r) = ((next x (text ++ (u ++ d :: r))).1, x :: text, u ++ d :: r) := by
      rw [List.append_assoc]
      exact Prod.ext rfl (Prod.ext htext hopening)
    have hnext' := next_before_opening hd hhash hkeeps.stray hstring hnext (normalize r)
    exact ⟨x, _, rfl, by rwa [List.append_assoc] at hnext'⟩

/-- The pieces of a normal form are the normal forms of the pieces. -/
theorem cut_normalize {cs : List Char} (h : ∀ p ∈ cut cs, Keeps p) :
    cut (normalize cs) = (cut cs).map (Prod.map id normalize) := by
  induction cs using cut_induction with
  | nil => rfl
  | cons c cs ih =>
    rw [cut_cons] at h ⊢
    have hrest : ∀ p ∈ cut (next c cs).2.2, Keeps p := fun p hp => h p (List.mem_cons_of_mem _ hp)
    obtain ⟨d, ds, hshape, hnext⟩ := next_normalize (h _ List.mem_cons_self) hrest
    obtain ⟨happend, -, -⟩ := next_spec c cs
    rw [← happend, normalize_append hrest, hshape, cut_cons, hnext, ih hrest]
    rfl

theorem alike_normalize {cs : List Char} (h : ∀ p ∈ cut cs, Keeps p) : Alike (cut cs) (cut (normalize cs)) := by
  rw [cut_normalize h]
  generalize cut cs = ps at h
  induction ps with
  | nil => exact .nil
  | cons p ps ih =>
    obtain ⟨hkeeps, hps⟩ := List.forall_mem_cons.1 h
    refine .cons ⟨rfl, fun kind hkind => ?_⟩ (ih hps)
    rcases hkeeps.covered with hascii | hclosed | ⟨hlayout, -⟩
    · exact (normalize_ascii hascii).symm
    · rw [hkind] at hclosed; cases hclosed
    · rw [hkind] at hlayout; cases hlayout

end Piece

/-! ### Texts -/

theorem toList_sourceText_normalize (source : String) :
    (sourceText source true).toList = normalize (sourceText source false).toList := by
  simp only [sourceText, if_true, Bool.false_eq_true, if_false, String.toList_ofList]

/-- If all characters of a text that are not ASCII stand in closed literals that stay literals, or in comments, and
the text is read without flaws, then its normal form is read without flaws and as the same tokens. -/
theorem normal_form_unseen {source : String} {o : Options} {plain : Stream}
    (hplain : lex source { o with normalizeUnicode := false } = .ok plain) (hclean : plain.problems = [])
    (hcovered : ∀ p ∈ Piece.cut plain.text.toList, Piece.IsAscii p ∨ p.1 = .string true ∨ Piece.IsComment p)
    (hliterals : ∀ p ∈ Piece.cut plain.text.toList, p.1 = .string true → StaysLiteral p.2) :
    ∃ normal, lex source { o with normalizeUnicode := true } = .ok normal ∧ normal.problems = [] ∧
      normal.tokens.map Token.reading = plain.tokens.map Token.reading := by
  obtain ⟨htext, htokens, hproblems⟩ := lex_eq_ok hplain
  have hkeeps : ∀ p ∈ Piece.cut plain.text.toList, Piece.Keeps p := fun p hp =>
    have hne := scan_clean_iff.1 (by rw [← hproblems, hclean]) p hp
    ⟨hne.1, hne.2, hcovered p hp, hliterals p hp⟩
  have hnormal : (sourceText source true).toList = normalize plain.text.toList := by
    rw [toList_sourceText_normalize, htext]
  have halike := Piece.alike_normalize hkeeps
  rw [← hnormal] at halike
  obtain ⟨hreading, hflaws⟩ := scan_alike halike
  rw [← hproblems, hclean, List.map_nil, eq_comm, List.map_eq_nil_iff] at hflaws
  have hversion : o.version ≠ 0 := by
    intro hversion
    simp [lex, Options.check, hversion, bind, Except.bind] at hplain
  refine ⟨⟨sourceText source true, (scan (sourceText source true)).1, [], o.version⟩, ?_, rfl, ?_⟩
  · simp [lex, Options.check, hversion, bind, Except.bind, pure, Except.pure, ← hflaws]
  · rw [htokens, ← hreading]

/-- A ligature, and a backslash of full width that stands for an escape in normal form. -/
theorem normal_form_unseen_sum :
    ∃ plain, lex "x = '\uFB01' + \"\uFF3Cn\" # \uFF07\n" { normalizeUnicode := false } = .ok plain ∧ plain.problems = [] ∧
      (∀ p ∈ Piece.cut plain.text.toList, Piece.IsAscii p ∨ p.1 = .string true ∨ Piece.IsComment p) ∧
      (∀ p ∈ Piece.cut plain.text.toList, p.1 = .string true → StaysLiteral p.2) ∧
      ∃ normal, lex "x = '\uFB01' + \"\uFF3Cn\" # \uFF07\n" { normalizeUnicode := true } = .ok normal ∧
        normal.problems = [] ∧
        normal.tokens.map Token.reading = [(.identifier, "ID"), (.operator, "="), (.stringLiteral, "STR"),
          (.operator, "+"), (.stringLiteral, "STR")] := by
  have hplain : lex "x = '\uFB01' + \"\uFF3Cn\" # \uFF07\n" { normalizeUnicode := false } =
      .ok ⟨"x = '\uFB01' + \"\uFF3Cn\" # \uFF07\n", tokenize "x = '\uFB01' + \"\uFF3Cn\" # \uFF07\n", [], 1⟩ := by
    decide +kernel
  have hcovered : ∀ p ∈ Piece.cut "x = '\uFB01' + \"\uFF3Cn\" # \uFF07\n".toList,
      Piece.IsAscii p ∨ p.1 = .string true ∨ Piece.IsComment p := by
    decide +kernel
  have hliterals : ∀ p ∈ Piece.cut "x = '\uFB01' + \"\uFF3Cn\" # \uFF07\n".toList, p.1 = .string true → StaysLiteral p.2 := by
    decide +kernel
  obtain ⟨normal, hnormal, hclean, htokens⟩ := normal_form_unseen (o := {}) hplain rfl hcovered hliterals
  exact ⟨_, hplain, rfl, hcovered, hliterals, normal, hnormal, hclean, by rw [htokens]; decide +kernel⟩

/-- A quote of full width in a literal of two quotes makes them three quotes, which nothing closes. -/
theorem fullwidth_quote_opens_string :
    ¬ ∀ (source : String) (o : Options) (plain : Stream), lex source { o with normalizeUnicode := false } = .ok plain →
      plain.problems = [] →
      (∀ p ∈ Piece.cut plain.text.toList, Piece.IsAscii p ∨ p.1 = .string true ∨ Piece.IsComment p) →
      ∃ normal, lex source { o with normalizeUnicode := true } = .ok normal ∧ normal.problems = [] ∧
        normal.tokens.map Token.reading = plain.tokens.map Token.reading := by
  intro h
  have hplain : lex "x = '\uFF07'\n" { normalizeUnicode := false } =
      .ok ⟨"x = '\uFF07'\n", tokenize "x = '\uFF07'\n", [], 1⟩ := by
    decide +kernel
  obtain ⟨normal, hnormal, hclean, -⟩ := h _ {} _ hplain rfl (by decide +kernel)
  obtain ⟨htext, -, hproblems⟩ := lex_eq_ok hnormal
  rw [hclean, htext] at hproblems
  revert hproblems
  decide +kernel

end Likeness.Lex
