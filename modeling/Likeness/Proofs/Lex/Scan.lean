import Mathlib.Data.List.Chain
import Likeness.Lex.Stream
import Likeness.Proofs.Lex.Cut
import Likeness.Proofs.Text.Bytes

/-!
# Tokens and flaws from the pieces of a text

`joinStrays` puts misfit pieces that stand together into one. Each piece then becomes a token, a flaw,
both or neither, all by itself (`scan_eq`), and what the tokens are hashed by is told piece after piece too
(`hashKeysFrom_scan`). So a line end parts what the tokens are hashed by (`hashKeys_append_newline`).
-/

namespace Likeness.Lex

open Text (byteSize)

/-! ### One piece -/

/-- The kind of the token that a piece becomes. -/
def Piece.kind? : Piece → Option Kind
  | .layout => none
  | .token kind => some kind
  | .string _ => some .stringLiteral
  | .stray => some .error

/-- The flaw that a piece is, which is spelt `text` and begins at byte `pos`. -/
def Piece.flaw? (text : List Char) (pos : Nat) : Piece → Option Problem
  | .string false => some (.unterminatedString pos)
  | .stray => some (.unlexable pos (byteSize text))
  | _ => none

/-- The token of a kind that is spelt `text` and begins at byte `pos`. -/
def Token.spelt (kind : Kind) (text : List Char) (pos : Nat) : Token :=
  ⟨kind, kind.normalText (.ofList text), pos, pos + byteSize text⟩

theorem flush_step {s : Scan} (hs : s.stray = none) (piece : Piece) (text : List Char) :
    (s.step (piece, text)).flush =
      { pos := s.pos + byteSize text
        stray := none
        tokens := (piece.kind?.map (Token.spelt · text s.pos)).toList ++ s.tokens
        problems := (piece.flaw? text s.pos).toList ++ s.problems } := by
  obtain ⟨pos, stray, tokens, problems⟩ := s
  obtain rfl : stray = none := hs
  cases piece with
  | layout => rfl
  | token kind => rfl
  | string closed => cases closed <;> rfl
  | stray => simp [Scan.step, Scan.flush, Piece.kind?, Piece.flaw?, Token.spelt, Kind.normalText]

theorem flush_flush (s : Scan) : s.flush.flush = s.flush := by
  obtain ⟨pos, stray, tokens, problems⟩ := s
  cases stray <;> rfl

/-- A piece that is no misfit ends a stretch of misfit text first. -/
theorem step_flush (s : Scan) {p : Piece × List Char} (hp : p.1 ≠ .stray) : s.flush.step p = s.step p := by
  obtain ⟨piece, text⟩ := p
  cases piece with
  | stray => exact absurd rfl hp
  | _ => simp only [Scan.step, flush_flush]

/-- After a piece that is no misfit there is nothing to end. -/
theorem flush_step_of_ne_stray (s : Scan) {p : Piece × List Char} (hp : p.1 ≠ .stray) :
    (s.step p).flush = s.step p := by
  obtain ⟨pos, stray, tokens, problems⟩ := s
  obtain ⟨piece, text⟩ := p
  cases piece with
  | stray => exact absurd rfl hp
  | layout => cases stray <;> rfl
  | token kind => cases stray <;> rfl
  | string closed => cases stray <;> cases closed <;> rfl

/-! ### Misfit pieces that stand together -/

/-- Puts misfit pieces that stand together into one. -/
def joinStrays : List (Piece × List Char) → List (Piece × List Char)
  | (.stray, a) :: (.stray, b) :: ps => joinStrays ((.stray, a ++ b) :: ps)
  | p :: ps => p :: joinStrays ps
  | [] => []
termination_by ps => ps.length

theorem foldl_joinStrays (s : Scan) (ps : List (Piece × List Char)) :
    (joinStrays ps).foldl Scan.step s = ps.foldl Scan.step s := by
  fun_induction joinStrays ps generalizing s with
  | case1 a b ps ih =>
    rw [ih]
    have hstep : s.step (.stray, a ++ b) = (s.step (.stray, a)).step (.stray, b) := by
      cases hs : s.stray <;> simp [Scan.step, hs, Nat.add_assoc]
    simp only [List.foldl_cons, hstep]
  | case2 p ps _ ih => simp only [List.foldl_cons, ih]
  | case3 => rfl

theorem head?_joinStrays (ps : List (Piece × List Char)) :
    (joinStrays ps).head?.map Prod.fst = ps.head?.map Prod.fst := by
  fun_induction joinStrays ps with
  | case1 a b ps ih => simpa using ih
  | case2 => rfl
  | case3 => rfl

/-- No two misfit pieces stand together. -/
def Apart (ps : List (Piece × List Char)) : Prop :=
  ps.IsChain fun p q => ¬ (p.1 = .stray ∧ q.1 = .stray)

theorem apart_joinStrays (ps : List (Piece × List Char)) : Apart (joinStrays ps) := by
  fun_induction joinStrays ps with
  | case1 a b ps ih => exact ih
  | case2 p ps hp ih =>
    refine List.isChain_cons.2 ⟨fun q hq ⟨hpstray, hqstray⟩ => ?_, ih⟩
    have hhead := head?_joinStrays ps
    rw [hq] at hhead
    cases ps with
    | nil => simp at hhead
    | cons r ps =>
      obtain ⟨piece, text⟩ := p
      obtain ⟨piece', text'⟩ := r
      simp only [List.head?_cons, Option.map_some, Option.some.injEq] at hhead
      exact hp text text' ps (by rw [show piece = .stray from hpstray]) (by rw [← hhead, hqstray])
  | case3 => exact .nil

theorem makesUp_joinStrays {ps : List (Piece × List Char)} {cs : List Char} (h : Piece.MakesUp ps cs) :
    Piece.MakesUp (joinStrays ps) cs := by
  fun_induction joinStrays ps generalizing cs with
  | case1 a b ps ih =>
    cases h with
    | cons ha _ h =>
      cases h with
      | cons hb _ h =>
        rw [← List.append_assoc]
        exact ih (.cons (List.append_ne_nil_of_left_ne_nil ha _) trivial h)
  | case2 p ps _ ih =>
    cases h with
    | cons hne hfits h => exact .cons hne hfits (ih h)
  | case3 => exact h

/-- A piece that is no misfit keeps what stands before it from what stands behind it. -/
theorem joinStrays_append {p : Piece × List Char} (hp : p.1 ≠ .stray) (ps qs : List (Piece × List Char)) :
    joinStrays (ps ++ p :: qs) = joinStrays ps ++ p :: joinStrays qs := by
  fun_induction joinStrays ps with
  | case1 a b ps ih => simpa [joinStrays] using ih
  | case2 q ps hq ih =>
    rw [List.cons_append, joinStrays, ih]
    · rfl
    · intro a b rest e e'
      cases ps with
      | nil => exact hp (by rw [(List.cons.inj e').1])
      | cons r ps => exact hq a b ps e (by rw [(List.cons.inj e').1])
  | case3 =>
    rw [List.nil_append, joinStrays]
    · rfl
    · intro a b rest e
      exact absurd (by rw [e]) hp

theorem joinStrays_cons {p : Piece × List Char} (hp : p.1 ≠ .stray) (ps : List (Piece × List Char)) :
    joinStrays (p :: ps) = p :: joinStrays ps := by
  have hnil : joinStrays [] = [] := by rw [joinStrays]
  simpa [hnil] using joinStrays_append hp [] ps

theorem spelling_joinStrays (ps : List (Piece × List Char)) :
    Piece.spelling (joinStrays ps) = Piece.spelling ps := by
  fun_induction joinStrays ps with
  | case1 a b ps ih => simpa using ih
  | case2 p ps _ ih => simp [ih]
  | case3 => rfl

theorem mem_joinStrays {p : Piece × List Char} (hp : p.1 ≠ .stray) {ps : List (Piece × List Char)} (h : p ∈ ps) :
    p ∈ joinStrays ps := by
  fun_induction joinStrays ps with
  | case1 a b ps ih =>
    have hps : p ∈ ps := by
      rcases List.mem_cons.1 h with rfl | h
      · exact absurd rfl hp
      · rcases List.mem_cons.1 h with rfl | h
        · exact absurd rfl hp
        · exact h
    exact ih (List.mem_cons_of_mem _ hps)
  | case2 q ps _ ih =>
    rcases List.mem_cons.1 h with rfl | h
    · exact List.mem_cons_self
    · exact List.mem_cons_of_mem _ (ih h)
  | case3 => cases h

theorem exists_stray_joinStrays {ps : List (Piece × List Char)} {a : List Char} (h : (.stray, a) ∈ ps) :
    ∃ b, (.stray, b) ∈ joinStrays ps := by
  fun_induction joinStrays ps generalizing a with
  | case1 b c ps ih =>
    rcases List.mem_cons.1 h with - | h
    · exact ih List.mem_cons_self
    · rcases List.mem_cons.1 h with - | h
      · exact ih List.mem_cons_self
      · exact ih (List.mem_cons_of_mem _ h)
  | case2 p ps _ ih =>
    rcases List.mem_cons.1 h with rfl | h
    · exact ⟨a, List.mem_cons_self⟩
    · obtain ⟨b, hb⟩ := ih h
      exact ⟨b, List.mem_cons_of_mem _ hb⟩
  | case3 => cases h

theorem joinStrays_eq_self {ps : List (Piece × List Char)} (h : ∀ p ∈ ps, p.1 ≠ .stray) : joinStrays ps = ps := by
  fun_induction joinStrays ps with
  | case1 a b ps ih => exact absurd rfl (h (.stray, a) List.mem_cons_self)
  | case2 p ps _ ih => rw [ih fun q hq => h q (List.mem_cons_of_mem _ hq)]
  | case3 => rfl

/-! ### All pieces -/

/-- The tokens that pieces become, which are read from byte `pos` on. -/
def place : (pos : Nat) → List (Piece × List Char) → List Token
  | _, [] => []
  | pos, (piece, text) :: ps =>
    (piece.kind?.map (Token.spelt · text pos)).toList ++ place (pos + byteSize text) ps

/-- The flaws that pieces are, which are read from byte `pos` on. -/
def flaws : (pos : Nat) → List (Piece × List Char) → List Problem
  | _, [] => []
  | pos, (piece, text) :: ps => (piece.flaw? text pos).toList ++ flaws (pos + byteSize text) ps

theorem place_append (pos : Nat) (ps qs : List (Piece × List Char)) :
    place pos (ps ++ qs) = place pos ps ++ place (pos + byteSize (Piece.spelling ps)) qs := by
  induction ps generalizing pos with
  | nil => rfl
  | cons p ps ih => simp [place, ih, Nat.add_assoc]

theorem flaws_append (pos : Nat) (ps qs : List (Piece × List Char)) :
    flaws pos (ps ++ qs) = flaws pos ps ++ flaws (pos + byteSize (Piece.spelling ps)) qs := by
  induction ps generalizing pos with
  | nil => rfl
  | cons p ps ih => simp [flaws, ih, Nat.add_assoc]

theorem flaws_eq_nil_iff {pos : Nat} {ps : List (Piece × List Char)} :
    flaws pos ps = [] ↔ ∀ p ∈ ps, p.1 ≠ .stray ∧ p.1 ≠ .string false := by
  induction ps generalizing pos with
  | nil => simp [flaws]
  | cons p ps ih =>
    obtain ⟨piece, text⟩ := p
    rw [flaws, List.append_eq_nil_iff, ih, List.forall_mem_cons]
    refine and_congr_left fun _ => ?_
    cases piece with
    | string closed => cases closed <;> simp [Piece.flaw?]
    | _ => simp [Piece.flaw?]

/-- What the tokens that pieces become are hashed by. -/
def keys : List (Piece × List Char) → List String
  | [] => []
  | (piece, text) :: ps =>
    (piece.kind?.map fun kind => (Token.spelt kind text 0).keyOf text).toList ++ keys ps

theorem keys_append (ps qs : List (Piece × List Char)) : keys (ps ++ qs) = keys ps ++ keys qs := by
  induction ps with
  | nil => rfl
  | cons p ps ih => simp [keys, ih]

theorem flush_foldl {s : Scan} (hs : s.stray = none) {ps : List (Piece × List Char)} (hps : Apart ps) :
    ((ps.foldl Scan.step s).flush.tokens.reverse = s.tokens.reverse ++ place s.pos ps) ∧
      (ps.foldl Scan.step s).flush.problems.reverse = s.problems.reverse ++ flaws s.pos ps := by
  induction ps generalizing s with
  | nil =>
    obtain ⟨pos, stray, tokens, problems⟩ := s
    obtain rfl : stray = none := hs
    simp [Scan.flush, place, flaws]
  | cons p ps ih =>
    obtain ⟨piece, text⟩ := p
    -- what comes next ends a stretch of misfit text, which may as well end at once
    have hrest : (ps.foldl Scan.step (s.step (piece, text))).flush =
        (ps.foldl Scan.step (s.step (piece, text)).flush).flush := by
      by_cases hp : piece = .stray
      · cases ps with
        | nil => rw [List.foldl_nil, List.foldl_nil, flush_flush]
        | cons q ps =>
          have hq : q.1 ≠ .stray := fun hq => (List.isChain_cons_cons.1 hps).1 ⟨hp, hq⟩
          rw [List.foldl_cons, List.foldl_cons, step_flush _ hq]
      · rw [flush_step_of_ne_stray s hp]
    have hflush := flush_step hs piece text
    obtain ⟨htokens, hproblems⟩ := ih (s := (s.step (piece, text)).flush) (by rw [hflush]) hps.tail
    rw [List.foldl_cons, hrest, htokens, hproblems, hflush]
    simp only [place, flaws, List.reverse_append, List.append_assoc]
    exact ⟨by cases piece.kind? <;> rfl, by cases piece.flaw? text s.pos <;> rfl⟩

theorem scan_eq (text : String) :
    scan text = (place 0 (joinStrays (Piece.cut text.toList)), flaws 0 (joinStrays (Piece.cut text.toList))) := by
  have h := flush_foldl (s := {}) rfl (apart_joinStrays (Piece.cut text.toList))
  rw [foldl_joinStrays] at h
  exact Prod.ext h.1 h.2

/-- A text is read without flaws if none of its pieces is a misfit or an unclosed string. -/
theorem scan_clean_iff {text : String} :
    (scan text).2 = [] ↔ ∀ p ∈ Piece.cut text.toList, p.1 ≠ .stray ∧ p.1 ≠ .string false := by
  rw [scan_eq]
  constructor
  · rintro h ⟨piece, literal⟩ hp
    have hstray : piece ≠ .stray := by
      rintro rfl
      obtain ⟨b, hb⟩ := exists_stray_joinStrays hp
      exact (flaws_eq_nil_iff.1 h _ hb).1 rfl
    exact flaws_eq_nil_iff.1 h _ (mem_joinStrays hstray hp)
  · intro h
    rw [joinStrays_eq_self fun p hp => (h p hp).1]
    exact flaws_eq_nil_iff.2 h

/-- A piece of a text that is no misfit is a token, if it becomes one at all. -/
theorem mem_tokenize {source : String} {ps qs : List (Piece × List Char)} {piece : Piece} {kind : Kind}
    {text : List Char} (h : Piece.cut source.toList = ps ++ (piece, text) :: qs) (hkind : piece.kind? = some kind)
    (hstray : piece ≠ .stray) :
    Token.spelt kind text (byteSize (Piece.spelling ps)) ∈ tokenize source := by
  rw [tokenize, scan_eq, h, joinStrays_append hstray, place_append, spelling_joinStrays, Nat.zero_add]
  exact List.mem_append_right _ (by simp [place, hkind])

/-! ### What tokens are hashed by -/

theorem hashKeysFrom_place (source : List Char) {ps : List (Piece × List Char)} {cs : List Char}
    (h : Piece.MakesUp ps cs) (pos : Nat) (skipped : List Char) :
    Token.hashKeysFrom source pos (skipped ++ cs) (place (pos + byteSize skipped) ps) = keys ps := by
  induction h generalizing pos skipped with
  | nil => rfl
  | @cons piece text after ps hne _ _ ih =>
    cases hkind : piece.kind? with
    | none =>
      have hrest := ih pos (skipped ++ text)
      rw [Text.byteSize_append, ← Nat.add_assoc, List.append_assoc] at hrest
      simpa [place, keys, hkind] using hrest
    | some kind =>
      -- the token begins behind what was skipped, and what follows is read from its beginning on
      have hslice : Text.slice (text ++ after) 0 (byteSize text) = some text :=
        Text.slice_of_standsAt ⟨[], rfl, rfl, by simp⟩
      have hrest := ih (pos + byteSize skipped) text
      simp only [place, keys, hkind, Option.map_some, Option.toList_some, List.singleton_append, Token.hashKeysFrom,
        Token.spelt, Nat.le_add_right, if_true, Nat.add_sub_cancel_left, Text.dropBytes_append, hslice,
        Option.getD_some, hrest]
      rfl

/-- What the tokens of a text are hashed by. -/
def hashKeys (cs : List Char) : List String := keys (joinStrays (Piece.cut cs))

theorem hashKeysFrom_scan (text : String) :
    Token.hashKeysFrom text.toList 0 text.toList (scan text).1 = hashKeys text.toList := by
  rw [scan_eq]
  exact hashKeysFrom_place text.toList (makesUp_joinStrays (Piece.makesUp_cut text.toList)) 0 []

theorem length_place (pos : Nat) (ps : List (Piece × List Char)) : (place pos ps).length = (keys ps).length := by
  induction ps generalizing pos with
  | nil => rfl
  | cons p ps ih =>
    obtain ⟨piece, text⟩ := p
    cases hkind : piece.kind? <;> simp [place, keys, hkind, ih]

theorem length_hashKeys (text : String) : (hashKeys text.toList).length = (scan text).1.length := by
  rw [scan_eq, length_place, hashKeys]

theorem hashKeys_append_newline {a : List Char} (ha : Piece.Settled a) (b : List Char) :
    hashKeys (a ++ '\n' :: b) = hashKeys a ++ hashKeys b := by
  rw [hashKeys, Piece.cut_append_newline ha, joinStrays_append (by simp), keys_append]
  rfl

end Likeness.Lex
