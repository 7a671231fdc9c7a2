import Likeness.Proofs.Lex.Scan

/-!
# How tokens and flaws lie in a text

The tokens of a text lie in it one behind the other, with layout between them, and its flaws are the
misfit tokens and the unclosed strings (`Tiling`). This is shown of the pieces that make up a text
(`tiling_of_makesUp`), and so holds of every text that is scanned.
-/

namespace Likeness.Lex

open Text (byteSize StandsAt)
open Piece (MakesUp)

/-! ### What a text is covered by -/

/-- A text between tokens, with `after` behind it: parts of layout one after another. -/
inductive IsLayout : (text after : List Char) → Prop
  | nil {after : List Char} : IsLayout [] after
  | snoc {text part after : List Char} :
      IsLayout text (part ++ after) → IsBlankPart part after → IsLayout (text ++ part) after

/-- The stretches of a text outside the tokens, from byte `pos` up to byte `size`. -/
def stretches : (pos : Nat) → List Token → (size : Nat) → List (Nat × Nat)
  | pos, [], size => [(pos, size)]
  | pos, t :: ts, size => (pos, t.start) :: stretches t.stop ts size

namespace Problem

/-- Where a flaw begins. -/
def offset? : Problem → Option Nat
  | unlexable offset _ => some offset
  | unterminatedString offset => some offset
  | invalidOptions _ => none

/-- The place and the length of a stretch that begins nothing. -/
def unlexable? : Problem → Option (Nat × Nat)
  | unlexable offset length => some (offset, length)
  | _ => none

/-- The place of a string literal that nothing closes. -/
def unterminated? : Problem → Option Nat
  | unterminatedString offset => some offset
  | _ => none

end Problem

open Classical in
/-- Tokens and flaws lie in a text as they should. -/
structure Tiling (cs : List Char) (tokens : List Token) (problems : List Problem) : Prop where
  /-- Each token has characters, and stands between characters of the text. -/
  places : ∀ t ∈ tokens, t.start < t.stop ∧ ∃ part after, StandsAt cs part after t.start t.stop
  ordered : tokens.Pairwise fun a b => a.stop ≤ b.start
  layout : ∀ s ∈ stretches 0 tokens (byteSize cs), ∃ part after, StandsAt cs part after s.1 s.2 ∧ IsLayout part after
  texts : ∀ t ∈ tokens, t.text = match t.kind with
    | .keyword | .operator | .punctuation => .ofList (t.lexemeIn cs)
    | .identifier => "ID"
    | .stringLiteral => "STR"
    | .numberLiteral => "NUM"
    | .error => "ERR"
  errorsApart : tokens.Pairwise fun a b => a.kind = .error → b.kind = .error → a.stop < b.start
  unlexable : problems.filterMap Problem.unlexable? =
    (tokens.filter (·.kind = .error)).map fun t => (t.start, t.length)
  unterminated : problems.filterMap Problem.unterminated? =
    (tokens.filter fun t => t.kind = .stringLiteral ∧ ¬ HasClosing (t.lexemeIn cs)).map Token.start
  /-- Every flaw is one of the two, and each begins behind the one before it. -/
  offsets : ∃ offsets : List Nat, problems.map Problem.offset? = offsets.map some ∧ offsets.Pairwise (· < ·)

/-! ### Places -/

theorem Token.lexemeIn_spelt (kind : Kind) (before text after : List Char) :
    (Token.spelt kind text (byteSize before)).lexemeIn (before ++ (text ++ after)) = text := by
  have hplace : StandsAt (before ++ (text ++ after)) text after (byteSize before) (byteSize before + byteSize text) :=
    ⟨before, by simp, rfl, by simp⟩
  rw [Token.lexemeIn, Token.spelt, Text.slice_of_standsAt hplace, Option.getD_some]

/-- What each token of a text is hashed by, by itself. -/
theorem map_hashKeyIn_place {ps : List (Piece × List Char)} {cs : List Char} (h : MakesUp ps cs) (before : List Char) :
    (place (byteSize before) ps).map (·.hashKeyIn (before ++ cs)) = keys ps := by
  induction h generalizing before with
  | nil => rfl
  | @cons piece text after ps _ _ _ ih =>
    have hrest := ih (before ++ text)
    rw [Text.byteSize_append, List.append_assoc] at hrest
    cases hkind : piece.kind? with
    | none => simpa [place, keys, hkind] using hrest
    | some kind =>
      have hkey : (Token.spelt kind text (byteSize before)).hashKeyIn (before ++ (text ++ after)) =
          (Token.spelt kind text 0).keyOf text := by
        rw [Token.hashKeyIn, Token.lexemeIn_spelt]
        rfl
      simpa [place, keys, hkind, hkey] using hrest

theorem map_hashKey_scan (text : String) : (scan text).1.map (·.hashKey text) = hashKeys text.toList := by
  rw [scan_eq]
  exact map_hashKeyIn_place (makesUp_joinStrays (Piece.makesUp_cut text.toList)) []

theorem eq_layout_of_kind? {piece : Piece} (h : piece.kind? = none) : piece = .layout := by
  cases piece with
  | layout => rfl
  | _ => cases h

/-- Only misfit pieces become misfit tokens. -/
theorem eq_stray_of_kind? {piece : Piece} {text after : List Char} (hfits : piece.Fits text after)
    (h : piece.kind? = some .error) : piece = .stray := by
  cases piece with
  | stray => rfl
  | token kind => exact absurd (Option.some.inj h) hfits.1
  | _ => cases h

/-- Each token is the spelling of its piece. -/
theorem spelt_of_mem_place {ps : List (Piece × List Char)} {cs : List Char} (h : MakesUp ps cs) (before : List Char)
    {t : Token} (ht : t ∈ place (byteSize before) ps) :
    ∃ text after, text ≠ [] ∧ t = Token.spelt t.kind text t.start ∧
      StandsAt (before ++ cs) text after t.start t.stop := by
  induction h generalizing before with
  | nil => cases ht
  | @cons piece text after ps hne _ _ ih =>
    have hrest : t ∈ place (byteSize before + byteSize text) ps → _ := fun ht => by
      have h := ih (before ++ text) (by rwa [Text.byteSize_append])
      rwa [List.append_assoc] at h
    cases hkind : piece.kind? with
    | none => exact hrest (by simpa [place, hkind] using ht)
    | some kind =>
      rcases List.mem_cons.1 (by simpa [place, hkind] using ht) with rfl | ht
      · exact ⟨text, after, hne, rfl, before, by simp, rfl, by simp [Token.spelt]⟩
      · exact hrest ht

theorem le_start_of_mem_place {pos : Nat} {ps : List (Piece × List Char)} {t : Token} (ht : t ∈ place pos ps) :
    pos ≤ t.start := by
  induction ps generalizing pos with
  | nil => cases ht
  | cons p ps ih =>
    obtain ⟨piece, text⟩ := p
    rcases List.mem_append.1 ht with ht | ht
    · obtain ⟨kind, -, rfl⟩ := Option.map_eq_some_iff.1 (Option.mem_toList.1 ht)
      exact Nat.le_refl _
    · have := ih ht
      omega

theorem pairwise_place (pos : Nat) (ps : List (Piece × List Char)) :
    (place pos ps).Pairwise fun a b => a.stop ≤ b.start := by
  induction ps generalizing pos with
  | nil => exact .nil
  | cons p ps ih =>
    obtain ⟨piece, text⟩ := p
    refine List.pairwise_append.2 ⟨?_, ih _, fun a ha b hb => ?_⟩
    · cases piece.kind? <;> simp
    · obtain ⟨kind, -, rfl⟩ := Option.map_eq_some_iff.1 (Option.mem_toList.1 ha)
      exact le_start_of_mem_place hb

/-- A misfit token comes from a misfit piece, and what follows that one is none. -/
theorem errors_apart_place (pos : Nat) {ps : List (Piece × List Char)} {cs : List Char} (h : MakesUp ps cs)
    (hps : Apart ps) :
    (place pos ps).Pairwise fun a b => a.kind = .error → b.kind = .error → a.stop < b.start := by
  induction h generalizing pos with
  | nil => exact .nil
  | @cons piece text after ps _ hfits h ih =>
    refine List.pairwise_append.2 ⟨?_, ih _ hps.tail, fun a ha b hb haerror hberror => ?_⟩
    · cases piece.kind? <;> simp
    · obtain ⟨kind, hkind, rfl⟩ := Option.map_eq_some_iff.1 (Option.mem_toList.1 ha)
      obtain rfl : kind = .error := haerror
      have hstray : piece = .stray := eq_stray_of_kind? hfits hkind
      cases h with
      | nil => cases hb
      | @cons piece' text' after' ps' hne' hfits' _ =>
        have hnext : piece' ≠ .stray := fun h => (List.isChain_cons_cons.1 hps).1 ⟨hstray, h⟩
        rcases List.mem_append.1 hb with hb | hb
        · obtain ⟨kind', hkind', rfl⟩ := Option.map_eq_some_iff.1 (Option.mem_toList.1 hb)
          obtain rfl : kind' = .error := hberror
          exact absurd (eq_stray_of_kind? hfits' hkind') hnext
        · have hstart := le_start_of_mem_place hb
          have hpos := Text.byteSize_pos hne'
          simp only [Token.spelt]
          omega

/-! ### Layout -/

theorem layout_stretches {ps : List (Piece × List Char)} {cs : List Char} (h : MakesUp ps cs)
    (before skipped : List Char) (hskipped : IsLayout skipped cs) :
    ∀ s ∈ stretches (byteSize before) (place (byteSize (before ++ skipped)) ps)
        (byteSize (before ++ skipped ++ cs)),
      ∃ part after, StandsAt (before ++ skipped ++ cs) part after s.1 s.2 ∧ IsLayout part after := by
  induction h generalizing before skipped with
  | nil =>
    intro s hs
    obtain rfl := List.mem_singleton.1 hs
    exact ⟨skipped, [], ⟨before, rfl, rfl, by simp⟩, hskipped⟩
  | @cons piece text after ps _ hfits _ ih =>
    cases hkind : piece.kind? with
    | none =>
      obtain rfl := eq_layout_of_kind? hkind
      have hrest := ih before (skipped ++ text) (.snoc hskipped hfits)
      rw [← List.append_assoc, List.append_assoc _ text, Text.byteSize_append _ text] at hrest
      simpa only [place, hkind, Option.map_none, Option.toList_none, List.nil_append] using hrest
    | some kind =>
      have hrest := ih (before ++ skipped ++ text) [] .nil
      rw [List.append_nil, List.append_assoc _ text, Text.byteSize_append _ text] at hrest
      simp only [place, hkind, Option.map_some, Option.toList_some, List.singleton_append, stretches]
      intro s hs
      rcases List.mem_cons.1 hs with rfl | hs
      · exact ⟨skipped, text ++ after, ⟨before, rfl, rfl, rfl⟩, hskipped⟩
      · exact hrest s hs

/-! ### Flaws -/

theorem unlexable_flaws (pos : Nat) {ps : List (Piece × List Char)} {cs : List Char} (h : MakesUp ps cs) :
    (flaws pos ps).filterMap Problem.unlexable? =
      ((place pos ps).filter (·.kind = .error)).map fun t => (t.start, t.length) := by
  induction h generalizing pos with
  | nil => rfl
  | @cons piece text after ps _ hfits _ ih =>
    have hrest := ih (pos + byteSize text)
    cases piece with
    | layout => simpa [flaws, place, Piece.flaw?, Piece.kind?] using hrest
    | token kind => simpa [flaws, place, Piece.flaw?, Piece.kind?, Token.spelt, hfits.1] using hrest
    | string closed =>
      cases closed <;>
        simpa [flaws, place, Piece.flaw?, Piece.kind?, Token.spelt, List.filterMap_cons,
          Problem.unlexable?] using hrest
    | stray =>
      simpa [flaws, place, Piece.flaw?, Piece.kind?, Token.spelt, Problem.unlexable?, Token.length] using hrest

open Classical in
theorem unterminated_flaws {ps : List (Piece × List Char)} {cs : List Char} (h : MakesUp ps cs) (before : List Char) :
    (flaws (byteSize before) ps).filterMap Problem.unterminated? =
      ((place (byteSize before) ps).filter fun t =>
        t.kind = .stringLiteral ∧ ¬ HasClosing (t.lexemeIn (before ++ cs))).map Token.start := by
  induction h generalizing before with
  | nil => rfl
  | @cons piece text after ps _ hfits _ ih =>
    have hrest := ih (before ++ text)
    rw [Text.byteSize_append, List.append_assoc] at hrest
    cases piece with
    | layout => simpa [flaws, place, Piece.flaw?, Piece.kind?] using hrest
    | token kind => simpa [flaws, place, Piece.flaw?, Piece.kind?, Token.spelt, hfits.2] using hrest
    | string closed =>
      have hlexeme := Token.lexemeIn_spelt .stringLiteral before text after
      have hclosing : HasClosing text ↔ closed = true := hfits
      have hkind : (Token.spelt .stringLiteral text (byteSize before)).kind = .stringLiteral := rfl
      have hstart : (Token.spelt .stringLiteral text (byteSize before)).start = byteSize before := rfl
      cases closed <;>
        simpa [flaws, place, Piece.flaw?, Piece.kind?, Problem.unterminated?, hlexeme, hclosing, hkind,
          hstart] using hrest
    | stray =>
      simpa [flaws, place, Piece.flaw?, Piece.kind?, Token.spelt, List.filterMap_cons,
        Problem.unterminated?] using hrest

theorem offsets_flaws (pos : Nat) {ps : List (Piece × List Char)} {cs : List Char} (h : MakesUp ps cs) :
    ∃ offsets : List Nat, (flaws pos ps).map Problem.offset? = offsets.map some ∧
      offsets.Pairwise (· < ·) ∧ ∀ o ∈ offsets, pos ≤ o := by
  induction h generalizing pos with
  | nil => exact ⟨[], rfl, .nil, by simp⟩
  | @cons piece text after ps hne _ _ ih =>
    obtain ⟨offsets, hmap, hpairwise, hle⟩ := ih (pos + byteSize text)
    have hpos := Text.byteSize_pos hne
    have hflaw : piece.flaw? text pos = none ∨ ∃ f, piece.flaw? text pos = some f ∧ f.offset? = some pos := by
      cases piece with
      | string closed => cases closed <;> simp [Piece.flaw?, Problem.offset?]
      | _ => simp [Piece.flaw?, Problem.offset?]
    rcases hflaw with hflaw | ⟨f, hflaw, hf⟩
    · refine ⟨offsets, by simpa [flaws, hflaw] using hmap, hpairwise, fun o ho => ?_⟩
      have := hle o ho
      omega
    · refine ⟨pos :: offsets, by simpa [flaws, hflaw, hf] using hmap, .cons (fun o ho => ?_) hpairwise,
        fun o ho => ?_⟩
      · have := hle o ho
        omega
      · rcases List.mem_cons.1 ho with rfl | ho
        · exact Nat.le_refl _
        · have := hle o ho
          omega

/-! ### The whole text -/

/-- The tokens and the flaws of pieces that make up a text lie in it as they should. -/
theorem tiling_of_makesUp {ps : List (Piece × List Char)} {cs : List Char} (h : MakesUp ps cs) (hps : Apart ps) :
    Tiling cs (place 0 ps) (flaws 0 ps) where
  places t ht := by
    obtain ⟨text, after, hne, hspelt, hplace⟩ := spelt_of_mem_place h [] ht
    have hstop := congrArg Token.stop hspelt
    have hpos := Text.byteSize_pos hne
    simp only [Token.spelt] at hstop
    exact ⟨by omega, text, after, hplace⟩
  ordered := pairwise_place 0 ps
  layout := layout_stretches h [] [] .nil
  texts t ht := by
    obtain ⟨text, after, -, hspelt, hplace⟩ := spelt_of_mem_place h [] ht
    have htext := congrArg Token.text hspelt
    rw [List.nil_append] at hplace
    rw [Token.lexemeIn, Text.slice_of_standsAt hplace, Option.getD_some, htext]
    cases t.kind <;> rfl
  errorsApart := errors_apart_place 0 h hps
  unlexable := unlexable_flaws 0 h
  unterminated := unterminated_flaws h []
  offsets := by
    obtain ⟨offsets, hmap, hpairwise, -⟩ := offsets_flaws 0 h
    exact ⟨offsets, hmap, hpairwise⟩

/-- A text that is read without flaws has no misfit tokens. -/
theorem kind_ne_error {text : String} (h : (scan text).2 = []) {t : Token} (ht : t ∈ (scan text).1) : t.kind ≠ .error := by
  have hunlexable := unlexable_flaws 0 (makesUp_joinStrays (Piece.makesUp_cut text.toList))
  rw [scan_eq] at h ht
  have h : flaws 0 (joinStrays (Piece.cut text.toList)) = [] := h
  rw [h, List.filterMap_nil, eq_comm, List.map_eq_nil_iff, List.filter_eq_nil_iff] at hunlexable
  simpa using hunlexable t ht

/-- The tokens and the flaws of every text lie in it as they should. -/
theorem scan_tiling (text : String) : Tiling text.toList (scan text).1 (scan text).2 := by
  rw [scan_eq]
  exact tiling_of_makesUp (makesUp_joinStrays (Piece.makesUp_cut text.toList)) (apart_joinStrays _)

end Likeness.Lex
