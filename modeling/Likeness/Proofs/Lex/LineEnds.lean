import Likeness.Proofs.Lex.Alike
import Likeness.Proofs.Lex.Kinds
import Likeness.Proofs.Lex.Written

/-!
# Line ends with a carriage return

A text reads the same with a carriage return put before each of its line ends, if no string in single
quotes goes over a line end (`line_ends_unseen`). A string in single quotes goes on in the next line behind a
backslash; but of a carriage return and a line end the backslash keeps only the first from counting, so
the string ends there, unclosed (`continued_string_ends_at_return`).
-/

namespace Likeness.Lex

open Piece (Same)

/-! ### Carriage returns before line ends -/

/-- A text with a carriage return before each line end. -/
def withReturns (cs : List Char) : List Char := cs.flatMap fun c => if c = '\n' then ['\r', '\n'] else [c]

@[simp] theorem withReturns_nil : withReturns [] = [] := rfl

@[simp] theorem withReturns_newline (cs : List Char) : withReturns ('\n' :: cs) = '\r' :: '\n' :: withReturns cs := rfl

theorem withReturns_cons {c : Char} (hc : c ≠ '\n') (cs : List Char) : withReturns (c :: cs) = c :: withReturns cs := by
  simp [withReturns, hc]

@[simp] theorem withReturns_append (a b : List Char) : withReturns (a ++ b) = withReturns a ++ withReturns b :=
  List.flatMap_append

theorem withReturns_eq_self {cs : List Char} (h : '\n' ∉ cs) : withReturns cs = cs := by
  induction cs with
  | nil => rfl
  | cons c cs ih =>
    obtain ⟨hc, hcs⟩ : '\n' ≠ c ∧ '\n' ∉ cs := by simpa using h
    rw [withReturns_cons hc.symm, ih hcs]

/-- `ds` is `cs` with a carriage return before each line end, but maybe not before the one it begins with. -/
def Returned (cs ds : List Char) : Prop := ds = withReturns cs ∨ '\r' :: ds = withReturns cs

/-! ### Strings -/

theorem withReturns_of_escape {c : Char} {cs : List Char} (hesc : ∀ c' cs', c = '\\' → cs = c' :: cs' → False)
    (hc : c = '\\') : withReturns cs = [] := by
  cases cs with
  | nil => rfl
  | cons c' cs' => exact (hesc c' cs' hc rfl).elim

/-- The body of a string that begins a text is closed or not, and leaves a rest but for carriage returns. -/
def Leaves (q : Char) (t : Bool) (ds : List Char) (closed : Bool) (rest : List Char) : Prop :=
  ∃ body rest', splitBody q t ds = (body, closed, rest') ∧ Returned rest rest'

section Strings

variable {q : Char} (hq : isQuote q = true)

include hq

theorem ne_of_isQuote {c : Char} (hc : isQuote c = false) : q ≠ c := by
  rintro rfl
  rw [hq] at hc
  cases hc

theorem startsDouble_withReturns (cs : List Char) : startsDouble q (withReturns cs) = startsDouble q cs := by
  have hline : ('\n' == q) = false := beq_false_of_ne (ne_of_isQuote hq (by decide)).symm
  have hreturn : ('\r' == q) = false := beq_false_of_ne (ne_of_isQuote hq (by decide)).symm
  match cs with
  | [] => rfl
  | [a] => by_cases ha : a = '\n' <;> simp [ha, withReturns_cons, startsDouble, hreturn]
  | a :: b :: cs =>
    by_cases ha : a = '\n'
    · simp [ha, startsDouble, hline, hreturn]
    · by_cases hb : b = '\n' <;> simp [ha, hb, withReturns_cons, startsDouble, hline, hreturn]

omit hq in
theorem Leaves.escaped {t : Bool} {ds rest : List Char} {closed : Bool} (h : Leaves q t ds closed rest) (c : Char) :
    Leaves q t ('\\' :: c :: ds) closed rest := by
  obtain ⟨body, rest', hbody, hrest⟩ := h
  exact ⟨'\\' :: c :: body, rest', by rw [splitBody, hbody], hrest⟩

theorem Leaves.cons {t : Bool} {c : Char} {ds rest : List Char} {closed : Bool} (h : Leaves q t ds closed rest)
    (hslash : c = '\\' → ds = []) (htriple : t = true → (c == q && startsDouble q ds) = false)
    (hsingle : t = false → c ≠ q ∧ c ≠ '\n') : Leaves q t (c :: ds) closed rest := by
  obtain ⟨body, rest', hbody, hrest⟩ := h
  refine ⟨c :: body, rest', ?_, hrest⟩
  by_cases hc : c = '\\'
  · obtain rfl := hslash hc
    have hne := (ne_backslash_of_isQuote hq).symm
    simp_all [splitBody]
  · rw [splitBody_cons hc, hbody]
    cases t with
    | true => simp [htriple rfl]
    | false => simp [hsingle rfl]

/-- With the carriage returns a body goes on as far as without them, or up to one of them. -/
theorem leaves_withReturns {t : Bool} {cs : List Char} (hline : t = false → '\n' ∉ (splitBody q t cs).1) :
    Leaves q t (withReturns cs) (splitBody q t cs).2.1 (splitBody q t cs).2.2 := by
  have hne : '\n' ≠ q := (ne_of_isQuote hq (by decide)).symm
  have hne' : '\r' ≠ q := (ne_of_isQuote hq (by decide)).symm
  have hslash : q ≠ '\\' := ne_backslash_of_isQuote hq
  fun_induction splitBody q t cs with
  | case1 => exact ⟨_, _, rfl, .inl rfl⟩
  | case2 c cs body closed rest e ih =>
    rw [e] at ih
    have hrest := ih fun h hmem => hline h (by simp [hmem])
    rw [withReturns_cons (by decide)]
    by_cases hc : c = '\n'
    · -- only the carriage return is kept from counting, and in three quotes a line end counts for nothing
      obtain rfl : t = true := by
        by_contra ht
        exact hline (by simpa using ht) (by simp [hc])
      rw [hc, withReturns_newline]
      exact (hrest.cons hq (fun h => by cases h) (by simp [hne]) (fun h => by cases h)).escaped '\r'
    · rw [withReturns_cons hc]
      exact hrest.escaped c
  | case3 c cs hesc ht hclose =>
    obtain ⟨hc, hdouble⟩ := Bool.and_eq_true_iff.1 hclose
    obtain ⟨r, rfl⟩ := startsDouble_iff.1 hdouble
    obtain rfl := eq_of_beq hc
    refine ⟨[c, c, c], _, ?_, .inl rfl⟩
    rw [withReturns_cons hne.symm, withReturns_cons hne.symm, withReturns_cons hne.symm, splitBody_cons hslash]
    simp [ht, startsDouble]
  | case4 c cs hesc ht hclose body closed rest e ih =>
    rw [e] at ih
    have hrest := ih fun h => by rw [ht] at h; cases h
    by_cases hc : c = '\n'
    · rw [hc, withReturns_newline]
      have hreturn := hrest.cons hq (c := '\n') (fun h => by cases h) (by simp [hne]) (by simp [ht])
      exact hreturn.cons hq (fun h => by cases h) (by simp [hne']) (by simp [ht])
    · rw [withReturns_cons hc]
      refine hrest.cons hq (withReturns_of_escape hesc) (fun _ => ?_) (by simp [ht])
      simpa [startsDouble_withReturns hq] using hclose
  | case5 c cs hesc ht hc =>
    obtain rfl := eq_of_beq hc
    refine ⟨[c], _, ?_, .inl rfl⟩
    rw [withReturns_cons hne.symm, splitBody_cons hslash]
    simp [ht]
  | case6 c cs hesc ht hc hnewline =>
    obtain rfl := eq_of_beq hnewline
    refine ⟨['\r'], '\n' :: withReturns cs, ?_, .inr rfl⟩
    rw [withReturns_newline, splitBody_cons (by decide), splitBody_cons (by decide)]
    simp [ht, hne, hne']
  | case7 c cs hesc ht hc hnewline body closed rest e ih =>
    rw [e] at ih
    have hrest := ih fun h hmem => hline h (by simp [hmem])
    have hc' : c ≠ '\n' := by simpa using hnewline
    rw [withReturns_cons hc']
    exact hrest.cons hq (withReturns_of_escape hesc) (fun h => absurd h ht) fun _ => ⟨by simpa using hc, hc'⟩

theorem splitString_withReturns {cs : List Char} (hline : startsDouble q cs = false → '\n' ∉ (splitString q cs).1) :
    ∃ body rest, splitString q (withReturns cs) = (body, (splitString q cs).2.1, rest) ∧
      Returned (splitString q cs).2.2 rest := by
  have hne : q ≠ '\n' := ne_of_isQuote hq (by decide)
  unfold splitString at hline ⊢
  rw [startsDouble_withReturns hq]
  cases hdouble : startsDouble q cs with
  | true =>
    obtain ⟨cs, rfl⟩ := startsDouble_iff.1 hdouble
    obtain ⟨body, rest, hbody, hrest⟩ : Leaves q true (withReturns cs) _ _ := leaves_withReturns hq fun h => by cases h
    simp only [withReturns_cons hne, List.drop_succ_cons, List.drop_zero, if_true, hbody]
    exact ⟨_, _, rfl, hrest⟩
  | false =>
    simp only [hdouble, Bool.false_eq_true, if_false, true_implies] at hline ⊢
    exact leaves_withReturns hq fun _ => hline

end Strings

/-- The spelling of a string literal in three quotes. -/
def InTriple (literal : List Char) : Prop :=
  ∃ letters q body, (∀ l ∈ letters, isPrefixLetter l = true) ∧ isQuote q = true ∧ literal = letters ++ q :: q :: q :: body

/-! ### Pieces -/

namespace Piece

variable {c : Char} {cs : List Char}

/-- With the carriage returns a text begins with the same piece, which leaves the rest but for one of them. -/
def SameNext (c : Char) (cs : List Char) : Prop :=
  ∃ text rest, next c (withReturns cs) = ((next c cs).1, text, rest) ∧
    Same ((next c cs).1, (next c cs).2.1) ((next c cs).1, text) ∧ Returned (next c cs).2.2 rest

theorem sameNext_string {closed : Bool} (h : (next c cs).1 = string closed) (hc : c ≠ '\n')
    (hline : '\n' ∈ (next c cs).2.1 → InTriple (next c cs).2.1) : SameNext c cs := by
  have hsame : ∀ text, Same ((next c cs).1, (next c cs).2.1) ((next c cs).1, text) := fun text =>
    ⟨rfl, fun kind hkind => by rw [h] at hkind; cases hkind⟩
  obtain ⟨letters, q, rest, hprefix⟩ := exists_splitPrefix h
  obtain ⟨hcs, hletters, hq⟩ := splitPrefix_eq_some hprefix
  unfold SameNext
  rw [next_string hprefix] at hline hsame ⊢
  have hreturns : c :: withReturns cs = letters ++ q :: withReturns rest := by
    have hnone : '\n' ∉ letters := fun hmem => absurd (hletters _ hmem) (by decide)
    rw [← withReturns_cons hc, hcs, withReturns_append, withReturns_eq_self hnone,
      withReturns_cons (ne_of_isQuote hq (by decide))]
  have hprefix' := splitPrefix_behind hprefix (withReturns rest)
  rw [← hreturns] at hprefix'
  rw [next_string hprefix']
  have hsingle : startsDouble q rest = false → '\n' ∉ (splitString q rest).1 := by
    intro hdouble hmem
    obtain ⟨letters', q', body, hletters', hq', hspelt⟩ := hline (by simp [hmem])
    obtain ⟨-, rfl, hbody⟩ := letters_inj hletters hletters' hq hq' hspelt
    have happend := splitString_append q rest
    rw [hbody] at happend
    rw [← happend] at hdouble
    simp [startsDouble] at hdouble
  obtain ⟨body, rest', hbody, hrest⟩ := splitString_withReturns hq hsingle
  exact ⟨_, _, by rw [hbody], hsame _, hrest⟩

/-- A joined line. -/
theorem sameNext_join (r : List Char) : SameNext '\\' ('\n' :: r) := by
  have hnext : next '\\' ('\n' :: r) = (layout, ['\\', '\n'], r) := next_join rfl
  have hnext' : next '\\' ('\r' :: '\n' :: withReturns r) = (layout, ['\\', '\r', '\n'], withReturns r) := next_join rfl
  rw [SameNext, withReturns_newline, hnext, hnext']
  exact ⟨_, _, rfl, ⟨rfl, fun _ h => by cases h⟩, .inl rfl⟩

/-- A comment takes the carriage return in, and leaves the line end. -/
theorem sameNext_comment {a : List Char} (ha : '\n' ∉ a) (r : List Char) : SameNext '#' (a ++ '\n' :: r) := by
  have hreturn : '\n' ∉ a ++ ['\r'] := by simpa using ha
  have hnext := next_comment hreturn (withReturns r)
  rw [List.append_assoc, List.singleton_append] at hnext
  rw [SameNext, withReturns_append, withReturns_eq_self ha, withReturns_newline, next_comment ha r, hnext]
  exact ⟨_, _, rfl, ⟨rfl, fun _ h => by cases h⟩, .inr rfl⟩

/-- The carriage return ends any other piece, as the line end does. -/
theorem sameNext_line {a r : List Char} (hstring : ∀ closed, (next c (a ++ '\n' :: r)).1 ≠ string closed)
    (hc : c ≠ '\n') (ha : '\n' ∉ a) (hreturn : '\r' ∉ c :: a) (hjoin : c :: a ≠ ['\\']) (hhash : c ≠ '#') :
    SameNext c (a ++ '\n' :: r) := by
  have hjoin' : c :: a ≠ ['\\', '\r'] := fun h => hreturn (by rw [h]; simp)
  have hopen : (next c a).1 = string false → (next c a).2.2 ≠ [] := by
    intro hopen
    obtain ⟨letters, q, rest, hprefix⟩ := exists_splitPrefix hopen
    have hlonger := splitPrefix_append hprefix ('\n' :: r)
    exact absurd (congrArg Prod.fst (next_string hlonger)) (hstring _)
  have hnewline := next_carry breaks_newline hjoin hjoin' (fun h => absurd h hhash) hopen r
  have hreturned := next_carry (breaks_of_isBlank (by decide : Text.isBlank '\r' = true)) hjoin hjoin'
    (fun h => absurd h hhash) hopen ('\n' :: withReturns r)
  have hsuffix : (next c a).2.2 <:+ c :: a := ⟨_, (next_spec c a).1⟩
  have hrest : '\n' ∉ (next c a).2.2 := fun hmem => by simpa [hc.symm, ha] using hsuffix.subset hmem
  rw [SameNext, withReturns_append, withReturns_eq_self ha, withReturns_newline, hnewline, hreturned]
  exact ⟨_, _, rfl, .refl _, .inl (by rw [withReturns_append, withReturns_eq_self hrest, withReturns_newline])⟩

/-- The piece at the beginning of a text, with carriage returns before the line ends. -/
theorem sameNext (hreturn : '\r' ∉ c :: cs) (hc : c ≠ '\n')
    (hline : ∀ closed, (next c cs).1 = string closed → '\n' ∈ (next c cs).2.1 → InTriple (next c cs).2.1) :
    SameNext c cs := by
  by_cases hstring : ∃ closed, (next c cs).1 = string closed
  · obtain ⟨closed, hclosed⟩ := hstring
    exact sameNext_string hclosed hc (hline closed hclosed)
  by_cases hnone : '\n' ∉ cs
  · have hsuffix : (next c cs).2.2 <:+ c :: cs := ⟨_, (next_spec c cs).1⟩
    have hrest : '\n' ∉ (next c cs).2.2 := fun hmem => by simpa [hc.symm, hnone] using hsuffix.subset hmem
    rw [SameNext, withReturns_eq_self hnone]
    exact ⟨_, _, rfl, .refl _, .inl (withReturns_eq_self hrest).symm⟩
  obtain ⟨a, r, rfl, ha⟩ := List.eq_append_cons_of_mem (not_not.1 hnone)
  by_cases hjoin : c :: a = ['\\']
  · obtain ⟨rfl, rfl⟩ := List.cons.inj hjoin
    exact sameNext_join r
  by_cases hhash : c = '#'
  · rw [hhash]
    exact sameNext_comment ha r
  · rw [← List.cons_append] at hreturn
    exact sameNext_line (not_exists.1 hstring) hc ha (fun h => hreturn (List.mem_append_left _ h)) hjoin hhash

/-- A text has pieces like those of the text with carriage returns before the line ends. -/
theorem cut_returned {cs ds : List Char} (hreturn : '\r' ∉ cs)
    (hline : ∀ p ∈ cut cs, ∀ closed, p.1 = string closed → '\n' ∈ p.2 → InTriple p.2) (hds : Returned cs ds) :
    Alike (cut cs) (cut ds) := by
  induction cs using cut_induction generalizing ds with
  | nil =>
    rcases hds with rfl | h
    · exact .nil
    · cases h
  | cons c cs ih =>
    have hsuffix : (next c cs).2.2 <:+ c :: cs := ⟨_, (next_spec c cs).1⟩
    rw [cut_cons] at hline ⊢
    have hrest : ∀ {ds}, Returned (next c cs).2.2 ds → Alike (cut (next c cs).2.2) (cut ds) := fun hds =>
      ih (fun hmem => hreturn (hsuffix.subset hmem)) (fun p hp => hline p (List.mem_cons_of_mem _ hp)) hds
    by_cases hc : c = '\n'
    · subst hc
      have hnewline := next_blank (c := '\n') (by decide)
      have hcarriage := next_blank (c := '\r') (by decide)
      rw [hnewline] at hrest ⊢
      rcases hds with rfl | h
      · rw [withReturns_newline, cut_cons, hcarriage, cut_cons, hnewline]
        exact .layout (hrest (.inl rfl))
      · obtain rfl : ds = '\n' :: withReturns cs := by simpa using h
        rw [cut_cons, hnewline]
        exact .cons (.refl _) (hrest (.inl rfl))
    · obtain ⟨text, rest, hnext, hsame, hreturned⟩ := sameNext hreturn hc (hline _ List.mem_cons_self)
      have hds : ds = c :: withReturns cs := by
        rw [Returned, withReturns_cons hc] at hds
        refine hds.resolve_right fun h => hreturn ?_
        rw [(List.cons.inj h).1]
        exact List.mem_cons_self
      rw [hds, cut_cons, hnext]
      exact .cons hsame (hrest hreturned)

end Piece

/-! ### Texts -/

/-- Each string literal among the pieces of a text is one of its tokens. -/
theorem exists_token_of_string {text : String} {p : Piece × List Char} {closed : Bool}
    (hp : p ∈ Piece.cut text.toList) (hstring : p.1 = .string closed) :
    ∃ t ∈ tokenize text, t.kind = .stringLiteral ∧ t.lexemeIn text.toList = p.2 := by
  obtain ⟨ps, qs, hcut⟩ := List.append_of_mem hp
  obtain ⟨piece, literal⟩ := p
  obtain rfl : piece = .string closed := hstring
  refine ⟨_, mem_tokenize hcut rfl (by simp), rfl, ?_⟩
  rw [Piece.eq_of_cut hcut, Token.lexemeIn_spelt]

/-- A text reads the same with carriage returns before its line ends, but for places, if no string in single quotes
goes over a line end. -/
theorem line_ends_unseen {text : String} (hreturn : '\r' ∉ text.toList)
    (hline : ∀ t ∈ tokenize text, t.kind = .stringLiteral → '\n' ∈ t.lexemeIn text.toList →
      InTriple (t.lexemeIn text.toList)) :
    (tokenize (.ofList (withReturns text.toList))).map Token.reading = (tokenize text).map Token.reading ∧
      (scan (.ofList (withReturns text.toList))).2.map Problem.unplaced = (scan text).2.map Problem.unplaced := by
  have hpieces : ∀ p ∈ Piece.cut text.toList, ∀ closed, p.1 = .string closed → '\n' ∈ p.2 → InTriple p.2 := by
    intro p hp closed hstring hmem
    obtain ⟨t, ht, hkind, hlexeme⟩ := exists_token_of_string hp hstring
    rw [← hlexeme] at hmem ⊢
    exact hline t ht hkind hmem
  have halike := Piece.cut_returned hreturn hpieces (.inl rfl)
  have hscan := scan_alike (a := text) (b := .ofList (withReturns text.toList)) (by rwa [String.toList_ofList])
  exact ⟨hscan.1.symm, hscan.2.symm⟩

/-- Three quotes take line ends in, also behind a backslash; one quote leaves them. -/
theorem line_ends_unseen_sum :
    '\r' ∉ "x = '''a\\\nb''' \\\n+ 'c\n".toList ∧
      (∀ t ∈ tokenize "x = '''a\\\nb''' \\\n+ 'c\n", t.kind = .stringLiteral →
        '\n' ∈ t.lexemeIn "x = '''a\\\nb''' \\\n+ 'c\n".toList →
          InTriple (t.lexemeIn "x = '''a\\\nb''' \\\n+ 'c\n".toList)) ∧
      (tokenize "x = '''a\\\r\nb''' \\\r\n+ 'c\r\n").map Token.reading =
        [(.identifier, "ID"), (.operator, "="), (.stringLiteral, "STR"), (.operator, "+"), (.stringLiteral, "STR")] ∧
      (scan "x = '''a\\\r\nb''' \\\r\n+ 'c\r\n").2.map Problem.unplaced = [.unterminatedString 0] := by
  have hreturn : '\r' ∉ "x = '''a\\\nb''' \\\n+ 'c\n".toList := by decide
  have hspelt : ∀ t ∈ tokenize "x = '''a\\\nb''' \\\n+ 'c\n", t.kind = .stringLiteral →
      '\n' ∈ t.lexemeIn "x = '''a\\\nb''' \\\n+ 'c\n".toList →
        t.lexemeIn "x = '''a\\\nb''' \\\n+ 'c\n".toList = "'''a\\\nb'''".toList := by decide +kernel
  have hline : ∀ t ∈ tokenize "x = '''a\\\nb''' \\\n+ 'c\n", t.kind = .stringLiteral →
      '\n' ∈ t.lexemeIn "x = '''a\\\nb''' \\\n+ 'c\n".toList →
        InTriple (t.lexemeIn "x = '''a\\\nb''' \\\n+ 'c\n".toList) := by
    intro t ht hkind hmem
    rw [hspelt t ht hkind hmem]
    exact ⟨[], '\'', "a\\\nb'''".toList, by simp, rfl, rfl⟩
  obtain ⟨htokens, hproblems⟩ := line_ends_unseen hreturn hline
  have hreturned : String.ofList (withReturns "x = '''a\\\nb''' \\\n+ 'c\n".toList) =
      "x = '''a\\\r\nb''' \\\r\n+ 'c\r\n" := by decide
  rw [hreturned] at htokens hproblems
  rw [htokens, hproblems]
  exact ⟨hreturn, hline, by decide +kernel, by decide +kernel⟩

/-- A backslash takes a line end into a string in single quotes, but of a carriage return and a line end only the
first: the text has no flaws, and two with carriage returns. -/
theorem continued_string_ends_at_return :
    ¬ ∀ text : String, '\r' ∉ text.toList →
      (tokenize (.ofList (withReturns text.toList))).map Token.reading = (tokenize text).map Token.reading ∧
        (scan (.ofList (withReturns text.toList))).2.map Problem.unplaced = (scan text).2.map Problem.unplaced := by
  intro h
  have hflaws := (h "x = 'a\\\nb'\n" (by decide)).2
  revert hflaws
  decide +kernel

end Likeness.Lex
