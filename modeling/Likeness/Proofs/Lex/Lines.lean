import Likeness.Proofs.Lex.Renaming

/-!
# Texts read in parts

A line end parts a text: what stands before it and what stands behind it are read each for itself, misfit text, comments
and strings that end with their line included (`scan_append_newline`). It does so unless a string is still open there, or
a backslash joins the lines (`settled_of_scan`).

A token parts a text too. If a literal is the piece at the beginning of a text, then it is read as a token and what stands
behind it as it is, whatever was read before (`readsWhole_of_next`).
-/

namespace Likeness.Lex

open Text (byteSize)
open Piece (spelling)

/-! ### Lines -/

/-- A text is settled if no unclosed string reaches its end, and no backslash at its end joins what follows. -/
theorem settled_of_scan {a : String}
    (hopen : ∀ t ∈ (scan a).1, t.kind = .stringLiteral → .unterminatedString t.start ∈ (scan a).2 →
      t.stop < byteSize a.toList)
    (hslash : ¬ ['\\'] <:+ a.toList) (hreturn : ¬ ['\\', '\r'] <:+ a.toList) : Piece.Settled a.toList := by
  refine ⟨fun text hlast => ?_, hslash, hreturn⟩
  -- the last piece becomes a token and a flaw, both of which begin behind the other pieces
  obtain ⟨ps, hcut⟩ := List.getLast?_eq_some_iff.1 hlast
  have htoken : Token.spelt .stringLiteral text (byteSize (spelling ps)) ∈ (scan a).1 :=
    mem_tokenize (by rw [hcut]) rfl (by simp)
  have hflaw : .unterminatedString (byteSize (spelling ps)) ∈ (scan a).2 := by
    rw [scan_eq, hcut, joinStrays_append (by simp), flaws_append, spelling_joinStrays, Nat.zero_add]
    exact List.mem_append_right _ (by simp [flaws, Piece.flaw?])
  have hwhole := (Piece.makesUp_cut a.toList).spelling_eq
  rw [hcut] at hwhole
  have hend := hopen _ htoken rfl hflaw
  simp [Token.spelt, ← hwhole] at hend

/-- The tokens and the flaws of two texts that a line end joins are those of the first, followed by those of the second at
places that are further on by the bytes of the first and of the line end. -/
theorem scan_append_newline {a : String}
    (hopen : ∀ t ∈ (scan a).1, t.kind = .stringLiteral → .unterminatedString t.start ∈ (scan a).2 →
      t.stop < byteSize a.toList)
    (hslash : ¬ ['\\'] <:+ a.toList) (hreturn : ¬ ['\\', '\r'] <:+ a.toList) (b : String) :
    scan (a ++ "\n" ++ b) =
      ((scan a).1 ++ (scan b).1.map (Token.mapPlaces (· + (byteSize a.toList + 1))),
        (scan a).2 ++ (scan b).2.map (Problem.mapPlaces (· + (byteSize a.toList + 1)))) := by
  have htext : (a ++ "\n" ++ b).toList = a.toList ++ '\n' :: b.toList := by simp
  have hsize : byteSize (spelling (joinStrays (Piece.cut a.toList))) = byteSize a.toList := by
    rw [spelling_joinStrays, (Piece.makesUp_cut a.toList).spelling_eq]
  have hnewline : byteSize ['\n'] = 1 := rfl
  have hplaces : ∀ i ≤ byteSize (spelling (joinStrays (Piece.cut b.toList))),
      0 + i + (byteSize a.toList + 1) = byteSize a.toList + 1 + i := by
    intro i _
    omega
  -- the line end is layout, so that no stretch of misfit text goes on behind it
  rw [scan_eq, scan_eq a, scan_eq b, htext, Piece.cut_append_newline (settled_of_scan hopen hslash hreturn),
    joinStrays_append (by simp), place_append, flaws_append, hsize, map_place 0 _ hplaces, map_flaws 0 _ hplaces]
  simp only [place, flaws, Piece.kind?, Piece.flaw?, hnewline, Nat.zero_add, Option.map_none, Option.toList_none,
    List.nil_append]

/-- Misfit text on both sides of the line end, with a comment between; each of the strings ends with its line. -/
theorem scan_append_newline_misfits :
    (∀ t ∈ (scan "x = 'a\n? # c").1, t.kind = .stringLiteral → .unterminatedString t.start ∈ (scan "x = 'a\n? # c").2 →
        t.stop < byteSize "x = 'a\n? # c".toList) ∧
      ¬ ['\\'] <:+ "x = 'a\n? # c".toList ∧ ¬ ['\\', '\r'] <:+ "x = 'a\n? # c".toList ∧
      scan ("x = 'a\n? # c" ++ "\n" ++ "?'b\n") =
        ([⟨.identifier, "ID", 0, 1⟩, ⟨.operator, "=", 2, 3⟩, ⟨.stringLiteral, "STR", 4, 6⟩, ⟨.error, "ERR", 7, 8⟩,
            ⟨.error, "ERR", 13, 14⟩, ⟨.stringLiteral, "STR", 14, 16⟩],
          [.unterminatedString 4, .unlexable 7 1, .unlexable 13 1, .unterminatedString 14]) := by
  have hstop : ∀ t ∈ (scan "x = 'a\n? # c").1, t.stop < byteSize "x = 'a\n? # c".toList := by decide +kernel
  have hslash : ¬ ['\\'] <:+ "x = 'a\n? # c".toList := by decide
  have hreturn : ¬ ['\\', '\r'] <:+ "x = 'a\n? # c".toList := by decide
  refine ⟨fun t ht _ _ => hstop t ht, hslash, hreturn, ?_⟩
  rw [scan_append_newline (fun t ht _ _ => hstop t ht) hslash hreturn]
  decide +kernel

/-! ### Literals at the beginning of a text -/

/-- Where a literal stands and the text `after` behind it, one token of a kind is read that takes all of the literal and
nothing more. -/
structure ReadsWhole (kind : Kind) (literal after : List Char) : Prop where
  /-- From any state of the scan on the token is added, no flaw is, and `after` is what remains to be read. -/
  anywhere : ∀ s : Scan, (Piece.cut (literal ++ after)).foldl Scan.step s =
    (Piece.cut after).foldl Scan.step (s.flush.push kind literal)
  /-- At the beginning of a text the token comes first, and behind it the tokens and the flaws of `after`, moved. -/
  first : scan (.ofList (literal ++ after)) =
    (⟨kind, kind.normalText (.ofList literal), 0, byteSize literal⟩ ::
        (scan (.ofList after)).1.map (Token.mapPlaces (· + byteSize literal)),
      (scan (.ofList after)).2.map (Problem.mapPlaces (· + byteSize literal)))

/-- A piece that becomes a token and is at no fault is read as this token. -/
theorem readsWhole_of_next {c : Char} {cs after : List Char} {piece : Piece} {kind : Kind}
    (hnext : Piece.next c (cs ++ after) = (piece, c :: cs, after)) (hkind : piece.kind? = some kind)
    (hfault : piece ≠ .stray ∧ piece ≠ .string false) : ReadsWhole kind (c :: cs) after := by
  have hcut : Piece.cut (c :: cs ++ after) = (piece, c :: cs) :: Piece.cut after := by
    rw [List.cons_append, Piece.cut_cons, hnext]
  constructor
  · intro s
    rw [hcut, List.foldl_cons]
    congr 1
    cases piece with
    | token kind' => rw [← Option.some.inj hkind]; rfl
    | string closed =>
      cases closed with
      | true => rw [← Option.some.inj hkind]; rfl
      | false => exact absurd rfl hfault.2
    | layout => cases hkind
    | stray => exact absurd rfl hfault.1
  · have hflaw : piece.flaw? (c :: cs) 0 = none := by
      cases piece with
      | string closed =>
        cases closed with
        | true => rfl
        | false => exact absurd rfl hfault.2
      | stray => exact absurd rfl hfault.1
      | _ => rfl
    have hplaces : ∀ i ≤ byteSize (spelling (joinStrays (Piece.cut after))),
        0 + i + byteSize (c :: cs) = byteSize (c :: cs) + i := by
      intro i _
      omega
    rw [scan_eq, scan_eq (.ofList after), String.toList_ofList, String.toList_ofList, hcut, joinStrays_cons hfault.1,
      map_place 0 _ hplaces, map_flaws 0 _ hplaces]
    simp only [place, flaws, hkind, hflaw, Token.spelt, Nat.zero_add, Option.map_some, Option.toList_some,
      Option.toList_none, List.nil_append, List.singleton_append]

end Likeness.Lex
