import Likeness.Proofs.Lex.Legible
import Likeness.Proofs.Lex.Renaming

/-!
# Misfit text replaced by spaces

A misfit is an inert character that begins no name (`Misfit`), and so the pieces before it stay the same before a space
(`cut_before_space`). Spaces in place of all misfits therefore leave the other pieces as they are (`cut_blanked`), and
with them all tokens but the misfit ones, and all flaws but those (`scan_withoutMisfits`).
-/

namespace Likeness.Lex

open Text (byteSize)
open Piece (spelling cut MakesUp)

/-! ### Misfits -/

/-- A character that begins nothing where it stands is inert, and begins no name anywhere. -/
structure Misfit (d : Char) : Prop extends Inert d where
  name : isNameStart d = false

theorem splitPrefix_ne_none {q : Char} (hq : isQuote q = true) (cs : List Char) : splitPrefix (q :: cs) ≠ none := by
  rcases isQuote_iff.1 hq with rfl | rfl <;> simp [splitPrefix, isPrefixLetter, isQuote, stringPrefixes]

theorem misfit_of_next {d : Char} {r : List Char} (h : (Piece.next d r).1 = .stray) : Misfit d := by
  revert h
  fun_cases Piece.next d r with
  | case8 hblank hjoin hhash hprefix hname hnumber hsymbol =>
    intro
    have hnoSymbol : symbols.any (fun s => s.1.toList == [d]) = false := by
      by_contra hfound
      have hsome := Legible.splitSymbol_isSome (by simpa using hfound) r
      rw [hsymbol] at hsome
      cases hsome
    have hne : ∀ {c : Char}, symbols.any (fun s => s.1.toList == [c]) = true → d ≠ c := by
      rintro c hc rfl
      rw [hnoSymbol] at hc
      cases hc
    have hnotBlank : ∀ {c : Char}, Text.isBlank c = true → d ≠ c := by
      rintro c hc rfl
      exact hblank hc
    -- the later characters of a symbol are symbols themselves
    have htails : symbols.all (fun s => s.1.toList.tail.all fun c => symbols.any fun t => t.1.toList == [c]) = true := by
      decide
    refine ⟨⟨hnotBlank (by decide), hnotBlank (by decide), ?_, ?_, hne (by decide), hne (by decide), ?_⟩, ?_⟩
    · by_contra hquote
      exact splitPrefix_ne_none (by simpa using hquote) r hprefix
    · have hpoint : d ≠ '.' := hne (by decide)
      simpa [startsNumber, hpoint] using hnumber
    · intro s hs hmem
      exact hne (List.all_eq_true.1 (List.all_eq_true.1 htails s hs) d hmem) rfl
    · simpa using hname
  | _ => simp

/-! ### Spaces in place of misfits -/

theorem inert_space : Inert ' ' where
  line := by decide
  carriage := by decide
  quote := by decide
  digit := by decide
  plus := by decide
  minus := by decide
  symbol := by decide

/-- The pieces before a misfit stay the same before a space. -/
theorem cut_before_space {ps qs : List (Piece × List Char)} {a : List Char}
    (h : cut (spelling ps ++ (a ++ spelling qs)) = ps ++ (.stray, a) :: qs) (r : List Char) :
    cut (spelling ps ++ ' ' :: r) = ps ++ cut (' ' :: r) := by
  have hspace : Breaks ' ' := breaks_of_isBlank (by decide)
  obtain ⟨d, a, rfl, hnext⟩ := Piece.exists_next_of_cut h
  have hmisfit := misfit_of_next (by rw [hnext] : (Piece.next d (a ++ spelling qs)).1 = .stray)
  exact cut_before_inert hmisfit.toInert inert_space (fun _ => hspace.name) h (fun _ _ => hspace.toEnds) r

/-- What stands in place of a piece when each byte of misfit text is replaced by a space. -/
def Piece.blanked : Piece × List Char → List (Piece × List Char)
  | (.stray, text) => List.replicate (byteSize text) (.layout, [' '])
  | p => [p]

theorem blanked_of_ne_stray {p : Piece × List Char} (hp : p.1 ≠ .stray) : Piece.blanked p = [p] := by
  obtain ⟨piece, text⟩ := p
  cases piece with
  | stray => exact absurd rfl hp
  | _ => rfl

theorem flatMap_blanked_of_ne_stray {ps : List (Piece × List Char)} (h : ∀ p ∈ ps, p.1 ≠ .stray) :
    ps.flatMap Piece.blanked = ps := by
  induction ps with
  | nil => rfl
  | cons p ps ih =>
    obtain ⟨hp, hps⟩ := List.forall_mem_cons.1 h
    rw [List.flatMap_cons, blanked_of_ne_stray hp, ih hps, List.singleton_append]

theorem ne_stray_of_mem_blanked {ps : List (Piece × List Char)} {q : Piece × List Char}
    (hq : q ∈ ps.flatMap Piece.blanked) : q.1 ≠ .stray := by
  obtain ⟨⟨piece, text⟩, -, hq⟩ := List.mem_flatMap.1 hq
  cases piece with
  | stray => simp [List.eq_of_mem_replicate hq]
  | _ => simp [List.mem_singleton.1 hq]

theorem spelling_replicate_space (n : Nat) : spelling (List.replicate n (.layout, [' '])) = List.replicate n ' ' := by
  induction n with
  | zero => rfl
  | succ n ih => rw [List.replicate_succ, Piece.spelling_cons, ih, List.replicate_succ, List.singleton_append]

theorem cut_spaces (n : Nat) (r : List Char) :
    cut (List.replicate n ' ' ++ r) = List.replicate n (.layout, [' ']) ++ cut r := by
  induction n with
  | zero => rfl
  | succ n ih =>
    rw [List.replicate_succ, List.cons_append, Piece.cut_cons, Piece.next_blank (by decide), ih]
    rfl

/-- The first misfit among pieces, if there is one. -/
theorem exists_first_stray (ps : List (Piece × List Char)) :
    (∀ p ∈ ps, p.1 ≠ .stray) ∨
      ∃ qs a rs, ps = qs ++ (.stray, a) :: rs ∧ ∀ p ∈ qs, p.1 ≠ .stray := by
  induction ps with
  | nil => exact .inl (by simp)
  | cons p ps ih =>
    obtain ⟨piece, a⟩ := p
    by_cases hp : piece = .stray
    · exact .inr ⟨[], a, ps, by rw [hp]; rfl, by simp⟩
    · rcases ih with hnone | ⟨qs, b, rs, rfl, hqs⟩
      · exact .inl (List.forall_mem_cons.2 ⟨hp, hnone⟩)
      · exact .inr ⟨(piece, a) :: qs, b, rs, rfl, List.forall_mem_cons.2 ⟨hp, hqs⟩⟩

/-- Spaces in place of the misfits of a text leave its other pieces as they are. -/
theorem cut_blanked {ps : List (Piece × List Char)} (h : cut (spelling ps) = ps) :
    cut (spelling (ps.flatMap Piece.blanked)) = ps.flatMap Piece.blanked := by
  -- up to the first misfit nothing changes, and behind it there are fewer pieces
  induction hlen : ps.length using Nat.strongRecOn generalizing ps with
  | ind n ih =>
    rcases exists_first_stray ps with hnone | ⟨qs, a, rs, rfl, hqs⟩
    · rw [flatMap_blanked_of_ne_stray hnone, h]
    · have hrs := ih rs.length (by simp at hlen; omega) (Piece.cut_behind h) rfl
      have hne : a ≠ [] := (Piece.makesUp_cut _).ne_nil (p := (.stray, a)) (by rw [h]; simp)
      obtain ⟨n, hn⟩ : ∃ n, byteSize a = n + 1 := ⟨_, (Nat.sub_add_cancel (Text.byteSize_pos hne)).symm⟩
      have hblanked : (qs ++ (.stray, a) :: rs).flatMap Piece.blanked =
          qs ++ (List.replicate (n + 1) (.layout, [' ']) ++ rs.flatMap Piece.blanked) := by
        rw [List.flatMap_append, List.flatMap_cons, flatMap_blanked_of_ne_stray hqs, Piece.blanked, hn]
      rw [Piece.spelling_append, Piece.spelling_cons] at h
      have hbefore := cut_before_space h (List.replicate n ' ' ++ spelling (rs.flatMap Piece.blanked))
      rw [hblanked, Piece.spelling_append, Piece.spelling_append, spelling_replicate_space, List.replicate_succ,
        List.cons_append, hbefore, ← List.cons_append, ← List.replicate_succ, cut_spaces, hrs]

theorem flatMap_blanked_joinStrays (ps : List (Piece × List Char)) :
    (joinStrays ps).flatMap Piece.blanked = ps.flatMap Piece.blanked := by
  fun_induction joinStrays ps with
  | case1 a b ps ih =>
    rw [ih]
    simp [Piece.blanked, ← List.append_assoc]
  | case2 p ps _ ih => rw [List.flatMap_cons, List.flatMap_cons, ih]
  | case3 => rfl

/-! ### Tokens and flaws without misfits -/

theorem byteSize_spelling_blanked (p : Piece × List Char) : byteSize (spelling (Piece.blanked p)) = byteSize p.2 := by
  have hspace : ' '.utf8Size = 1 := by decide
  by_cases hp : p.1 = .stray
  · obtain ⟨piece, text⟩ := p
    obtain rfl : piece = .stray := hp
    rw [Piece.blanked, spelling_replicate_space, Text.byteSize_replicate, hspace, Nat.mul_one]
  · rw [blanked_of_ne_stray hp]
    simp

theorem place_replicate_layout (pos n : Nat) (text : List Char) :
    place pos (List.replicate n (.layout, text)) = [] ∧ flaws pos (List.replicate n (.layout, text)) = [] := by
  induction n generalizing pos with
  | zero => exact ⟨rfl, rfl⟩
  | succ n ih => simpa [List.replicate_succ, place, flaws, Piece.kind?, Piece.flaw?] using ih (pos + byteSize text)

section Blanked

variable {piece : Piece} {text after : List Char}

theorem place_blanked (hfits : piece.Fits text after) (pos : Nat) :
    place pos (Piece.blanked (piece, text)) = (place pos [(piece, text)]).filter (·.kind ≠ .error) := by
  cases piece with
  | stray =>
    have hnone := (place_replicate_layout pos (byteSize text) [' ']).1
    simpa [Piece.blanked, place, Piece.kind?, Token.spelt] using hnone
  | token kind =>
    have hkind : kind ≠ .error := hfits.1
    simp [Piece.blanked, place, Piece.kind?, Token.spelt, hkind]
  | _ => simp [Piece.blanked, place, Piece.kind?, Token.spelt]

theorem flaws_blanked (pos : Nat) :
    flaws pos (Piece.blanked (piece, text)) = (flaws pos [(piece, text)]).filter (·.unterminated?.isSome) := by
  cases piece with
  | stray =>
    have hnone := (place_replicate_layout pos (byteSize text) [' ']).2
    simpa [Piece.blanked, flaws, Piece.flaw?, Problem.unterminated?] using hnone
  | string closed => cases closed <;> simp [Piece.blanked, flaws, Piece.flaw?, Problem.unterminated?]
  | _ => simp [Piece.blanked, flaws, Piece.flaw?]

end Blanked

theorem place_flatMap_blanked {ps : List (Piece × List Char)} {cs : List Char} (h : MakesUp ps cs) (pos : Nat) :
    place pos (ps.flatMap Piece.blanked) = (place pos ps).filter (·.kind ≠ .error) := by
  induction h generalizing pos with
  | nil => rfl
  | @cons piece text after ps _ hfits _ ih =>
    have hsplit := place_append pos [(piece, text)] ps
    rw [List.flatMap_cons, place_append, byteSize_spelling_blanked, place_blanked hfits, ih]
    rw [List.singleton_append] at hsplit
    simp [hsplit]

theorem flaws_flatMap_blanked (ps : List (Piece × List Char)) (pos : Nat) :
    flaws pos (ps.flatMap Piece.blanked) = (flaws pos ps).filter (·.unterminated?.isSome) := by
  induction ps generalizing pos with
  | nil => rfl
  | cons p ps ih =>
    have hsplit := flaws_append pos [p] ps
    rw [List.flatMap_cons, flaws_append, byteSize_spelling_blanked, flaws_blanked, ih]
    rw [List.singleton_append] at hsplit
    simp [hsplit]

/-! ### Texts without misfits -/

/-- Whether byte `pos` of a text belongs to one of its misfit tokens. -/
def isMisfitAt (tokens : List Token) (pos : Nat) : Bool :=
  tokens.any fun t => t.kind = .error && (t.start ≤ pos && pos < t.stop)

/-- What a text has from byte `pos` on, with a space in place of each byte of a misfit token. -/
def blankMisfits (tokens : List Token) : (pos : Nat) → List Char → List Char
  | _, [] => []
  | pos, c :: cs =>
    (if isMisfitAt tokens pos then List.replicate c.utf8Size ' ' else [c]) ++
      blankMisfits tokens (pos + c.utf8Size) cs

/-- A text with a space in place of each byte of its misfit tokens. -/
def withoutMisfits (text : String) : String := .ofList (blankMisfits (tokenize text) 0 text.toList)

/-- A part of a text all of which is misfit, or none. -/
theorem blankMisfits_append {tokens : List Token} {pos : Nat} {text : List Char} {misfit : Bool}
    (h : ∀ i, pos ≤ i → i < pos + byteSize text → isMisfitAt tokens i = misfit) (after : List Char) :
    blankMisfits tokens pos (text ++ after) =
      (if misfit then List.replicate (byteSize text) ' ' else text) ++
        blankMisfits tokens (pos + byteSize text) after := by
  induction text generalizing pos with
  | nil => cases misfit <;> rfl
  | cons c text ih =>
    have hpos := c.utf8Size_pos
    simp only [Text.byteSize_cons] at h
    have hfirst := h pos (Nat.le_refl _) (by omega)
    have hrest : blankMisfits tokens (pos + c.utf8Size) (text ++ after) = _ :=
      ih fun i hle hlt => h i (by omega) (by omega)
    rw [List.cons_append, blankMisfits, hfirst, hrest, Text.byteSize_cons, Nat.add_assoc]
    cases misfit with
    | false => rfl
    | true =>
      rw [if_pos rfl, if_pos rfl, if_pos rfl, List.replicate_add, List.append_assoc]

theorem isMisfitAt_place {piece : Piece} {text after : List Char} (hfits : piece.Fits text after)
    {ts : List Token} {pos : Nat} (hts : ∀ t ∈ ts, t.stop ≤ pos) (ps : List (Piece × List Char)) {i : Nat}
    (hle : pos ≤ i) (hlt : i < pos + byteSize text) :
    isMisfitAt (ts ++ place pos ((piece, text) :: ps)) i = decide (piece = .stray) := by
  have hbefore : isMisfitAt ts i = false := by
    rw [isMisfitAt, List.any_eq_false]
    intro t ht
    have := hts t ht
    simp only [Bool.and_eq_true, decide_eq_true_eq]
    omega
  have hbehind : isMisfitAt (place (pos + byteSize text) ps) i = false := by
    rw [isMisfitAt, List.any_eq_false]
    intro t ht
    have := le_start_of_mem_place ht
    simp only [Bool.and_eq_true, decide_eq_true_eq]
    omega
  have hpiece : isMisfitAt (piece.kind?.map (Token.spelt · text pos)).toList i = decide (piece = .stray) := by
    cases piece with
    | stray => simp [isMisfitAt, Piece.kind?, Token.spelt, hle, hlt]
    | token kind =>
      have hkind : kind ≠ .error := hfits.1
      simp [isMisfitAt, Piece.kind?, Token.spelt, hkind]
    | _ => simp [isMisfitAt, Piece.kind?, Token.spelt]
  rw [isMisfitAt] at hbefore hbehind hpiece ⊢
  rw [place, List.any_append, List.any_append, hbefore, hbehind, hpiece, Bool.false_or, Bool.or_false]

/-- Spaces in place of the bytes of misfit tokens stand in place of misfit pieces. -/
theorem blankMisfits_place {ps : List (Piece × List Char)} {cs : List Char} (h : MakesUp ps cs) {ts : List Token}
    {pos : Nat} (hts : ∀ t ∈ ts, t.stop ≤ pos) :
    blankMisfits (ts ++ place pos ps) pos cs = spelling (ps.flatMap Piece.blanked) := by
  induction h generalizing ts pos with
  | nil => rfl
  | @cons piece text after ps _ hfits _ ih =>
    have hmisfit : ∀ i, pos ≤ i → i < pos + byteSize text → _ := fun i hle hlt => isMisfitAt_place hfits hts ps hle hlt
    have hts' : ∀ t ∈ ts ++ (piece.kind?.map (Token.spelt · text pos)).toList, t.stop ≤ pos + byteSize text := by
      intro t ht
      rcases List.mem_append.1 ht with ht | ht
      · have := hts t ht
        omega
      · obtain ⟨kind, -, rfl⟩ := Option.map_eq_some_iff.1 (Option.mem_toList.1 ht)
        exact Nat.le_refl _
    have hrest := ih hts'
    rw [List.append_assoc] at hrest
    rw [blankMisfits_append hmisfit, List.flatMap_cons, Piece.spelling_append, ← hrest]
    congr 1
    by_cases hp : piece = .stray
    · rw [hp, Piece.blanked, spelling_replicate_space]
      simp
    · rw [blanked_of_ne_stray hp]
      simp [hp]

/-- A space in place of each byte of the misfit tokens leaves all other tokens and all unterminated strings as they
were, and nothing else. -/
theorem scan_withoutMisfits (text : String) :
    scan (withoutMisfits text) =
      ((scan text).1.filter (·.kind ≠ .error), (scan text).2.filter (·.unterminated?.isSome)) := by
  have hmakes := makesUp_joinStrays (Piece.makesUp_cut text.toList)
  have hblank : (withoutMisfits text).toList = spelling ((cut text.toList).flatMap Piece.blanked) := by
    have hplace : blankMisfits ([] ++ place 0 (joinStrays (cut text.toList))) 0 text.toList = _ :=
      blankMisfits_place hmakes (by simp)
    rw [List.nil_append] at hplace
    rw [withoutMisfits, String.toList_ofList, tokenize, scan_eq, hplace, flatMap_blanked_joinStrays]
  have hcut : cut (withoutMisfits text).toList = (joinStrays (cut text.toList)).flatMap Piece.blanked := by
    rw [hblank, flatMap_blanked_joinStrays, cut_blanked]
    rw [(Piece.makesUp_cut text.toList).spelling_eq]
  rw [scan_eq, scan_eq text, hcut, joinStrays_eq_self fun q hq => ne_stray_of_mem_blanked hq,
    place_flatMap_blanked hmakes, flaws_flatMap_blanked]

/-- Misfits of one byte, of two and of three, next to a number, a prefix, a backslash and a name. -/
example : withoutMisfits "1$ r?'a' \\²x·€" = "1  r 'a'    x     " := by decide +kernel

end Likeness.Lex
