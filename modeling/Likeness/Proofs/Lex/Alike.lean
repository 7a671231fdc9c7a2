import Mathlib.Tactic.Common
import Likeness.Lex.Stream

/-!
# Texts that read alike

Two texts whose pieces are the same but for the spelling of layout and literals (`Piece.Alike`) give the
same tokens and flaws but for their places. One step keeps the two readings alike (`Scan.Alike.step`), and
so do all of them (`scan_alike`).
-/

namespace Likeness.Lex

/-- A token without its place. -/
def Token.reading (t : Token) : Kind × String := (t.kind, t.text)

/-- A flaw without its place. -/
def Problem.unplaced : Problem → Problem
  | unlexable _ _ => unlexable 0 0
  | unterminatedString _ => unterminatedString 0
  | invalidOptions reason => invalidOptions reason

namespace Piece

/-- Two pieces of one sort, which are spelt the same where their spelling shows in their tokens. -/
structure Same (p q : Piece × List Char) : Prop where
  sort : p.1 = q.1
  spelling : ∀ kind, p.1 = token kind → p.2 = q.2

theorem Same.refl (p : Piece × List Char) : Same p p := ⟨rfl, fun _ _ => rfl⟩

/-- Pieces that are the same one by one, where two parts of layout may stand in place of one. -/
inductive Alike : List (Piece × List Char) → List (Piece × List Char) → Prop
  | nil : Alike [] []
  | cons {p q : Piece × List Char} {ps qs : List (Piece × List Char)} :
      Same p q → Alike ps qs → Alike (p :: ps) (q :: qs)
  | layout {a b b' : List Char} {ps qs : List (Piece × List Char)} :
      Alike ps qs → Alike ((.layout, a) :: ps) ((.layout, b) :: (.layout, b') :: qs)

end Piece

namespace Scan

/-- Two texts have been read so far as the same tokens and flaws, but for their places. -/
structure Alike (s s' : Scan) : Prop where
  stray : s.stray.isSome = s'.stray.isSome
  tokens : s.tokens.map Token.reading = s'.tokens.map Token.reading
  problems : s.problems.map Problem.unplaced = s'.problems.map Problem.unplaced

namespace Alike

variable {s s' : Scan}

theorem flush (h : Alike s s') : Alike s.flush s'.flush := by
  obtain ⟨hstray, htokens, hproblems⟩ := h
  cases hs : s.stray with
  | none =>
    obtain hs' : s'.stray = none := by simpa [hs] using hstray.symm
    simp only [Scan.flush, hs, hs']
    exact ⟨hstray, htokens, hproblems⟩
  | some start =>
    obtain ⟨start', hs'⟩ : ∃ start', s'.stray = some start' :=
      Option.isSome_iff_exists.1 (by rw [← hstray, hs]; rfl)
    simp only [Scan.flush, hs, hs']
    exact ⟨rfl, by simp [Token.reading, htokens], by simp [Problem.unplaced, hproblems]⟩

theorem push (h : Alike s s') {kind : Kind} {a b : List Char}
    (hab : kind.normalText (.ofList a) = kind.normalText (.ofList b)) : Alike (s.push kind a) (s'.push kind b) :=
  ⟨h.stray, by simp [Scan.push, Token.reading, hab, h.tokens], h.problems⟩

/-- What is read next is read alike. -/
theorem step (h : Alike s s') {p q : Piece × List Char} (hpq : Piece.Same p q) : Alike (s.step p) (s'.step q) := by
  obtain ⟨piece, a⟩ := p
  obtain ⟨piece', b⟩ := q
  obtain ⟨hsort, hspelling⟩ := hpq
  obtain rfl : piece = piece' := hsort
  cases piece with
  | layout =>
    have hflush := h.flush
    exact ⟨hflush.stray, hflush.tokens, hflush.problems⟩
  | token kind =>
    obtain rfl : a = b := hspelling kind rfl
    exact h.flush.push rfl
  | string closed =>
    have hflush := h.flush
    cases closed with
    | true => exact hflush.push rfl
    | false =>
      have hflaw : Alike { s.flush with problems := .unterminatedString s.flush.pos :: s.flush.problems }
          { s'.flush with problems := .unterminatedString s'.flush.pos :: s'.flush.problems } :=
        ⟨hflush.stray, hflush.tokens, by simp [Problem.unplaced, hflush.problems]⟩
      exact hflaw.push rfl
  | stray => exact ⟨by simp [Scan.step], h.tokens, h.problems⟩

/-- A second part of layout changes nothing. -/
theorem layout (h : Alike s s') (a b b' : List Char) :
    Alike (s.step (.layout, a)) ((s'.step (.layout, b)).step (.layout, b')) := by
  have hstep := h.step (p := (.layout, a)) (q := (.layout, b)) ⟨rfl, fun _ h => by cases h⟩
  have hflushed : (s'.step (.layout, b)).stray = none := by
    cases hs : s'.stray <;> simp [Scan.step, Scan.flush, hs]
  generalize s'.step (.layout, b) = t at hstep hflushed ⊢
  have hsecond : t.step (.layout, b') = { t with pos := t.pos + Text.byteSize b' } := by
    simp [Scan.step, Scan.flush, hflushed]
  rw [hsecond]
  exact ⟨hstep.stray, hstep.tokens, hstep.problems⟩

theorem foldl {ps qs : List (Piece × List Char)} (hps : Piece.Alike ps qs) (h : Alike s s') :
    Alike (ps.foldl Scan.step s) (qs.foldl Scan.step s') := by
  induction hps generalizing s s' with
  | nil => exact h
  | cons hpq _ ih => exact ih (h.step hpq)
  | layout _ ih => exact ih (h.layout _ _ _)

end Alike
end Scan

/-- Texts with pieces alike are read as the same tokens and flaws, but for their places. -/
theorem scan_alike {a b : String} (h : Piece.Alike (Piece.cut a.toList) (Piece.cut b.toList)) :
    (scan a).1.map Token.reading = (scan b).1.map Token.reading ∧
      (scan a).2.map Problem.unplaced = (scan b).2.map Problem.unplaced := by
  have hstart : Scan.Alike {} {} := ⟨rfl, rfl, rfl⟩
  have hend := (hstart.foldl h).flush
  simp only [scan, Scan.run, List.map_reverse, hend.tokens, hend.problems, and_self]

end Likeness.Lex
