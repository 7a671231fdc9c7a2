import Likeness.Proofs.Lex.Kinds
import Likeness.Proofs.Source.Artifacts

/-!
# A block of lines inside a text

What the tokens of a block of lines are hashed by does not depend on the text around it (`hashKeys_block`),
if neither the block nor the text before it leaves a string or a joined line open. A byte order mark is
dropped at the beginning of a text only: at the beginning of a block it is misfit text, which takes nothing
from the tokens behind it (`hashKeys_stripMark_suffix`).
-/

namespace Likeness.Lex

open Text (byteSize)

/-! ### The text that is read -/

/-- A text without the byte order mark at its beginning. -/
def stripMark : List Char → List Char
  | '\uFEFF' :: cs => cs
  | cs => cs

theorem stripMark_cases (cs : List Char) : cs = '\uFEFF' :: stripMark cs ∨ stripMark cs = cs := by
  fun_cases stripMark cs with
  | case1 cs => exact .inl rfl
  | case2 => exact .inr rfl

theorem stripMark_suffix (cs : List Char) : stripMark cs <:+ cs := by
  rcases stripMark_cases cs with h | h
  · exact ⟨['\uFEFF'], h.symm⟩
  · exact ⟨[], h⟩

theorem stripMark_append_newline (a b : List Char) : stripMark (a ++ '\n' :: b) = stripMark a ++ '\n' :: b := by
  cases a with
  | nil => rfl
  | cons c a =>
    by_cases hc : c = '\uFEFF'
    · subst hc
      rfl
    · simp [stripMark, hc]

/-- Whether all characters of a text are ASCII. -/
def isAscii (text : String) : Bool := text.toList.all (·.toNat < 0x80)

/-- Without normal forms, and of ASCII, a text is read as it stands but for a byte order mark. -/
theorem toList_sourceText {source : String} {normalize : Bool} (h : normalize = false ∨ isAscii source = true) :
    (sourceText source normalize).toList = stripMark source.toList := by
  have hstrip : sourceText source normalize =
      .ofList (if normalize then Text.Compat.normalize (stripMark source.toList) else stripMark source.toList) := rfl
  rw [hstrip, String.toList_ofList]
  rcases h with rfl | h
  · rfl
  · have hall : (stripMark source.toList).all (·.toNat < 0x80) = true :=
      List.all_eq_true.2 fun c hc => List.all_eq_true.1 h c ((stripMark_suffix _).subset hc)
    rw [Text.Compat.normalize, if_pos hall, ite_self]

/-! ### A byte order mark inside a text -/

theorem breaks_mark : Breaks '\uFEFF' where
  name := by decide +kernel
  quote := by decide
  symbol := by decide

theorem cut_mark (cs : List Char) : Piece.cut ('\uFEFF' :: cs) = (.stray, ['\uFEFF']) :: Piece.cut cs := by
  have hd := breaks_mark
  have hblank : Text.isBlank '\uFEFF' = false := by decide
  have hjoin : splitJoin ('\uFEFF' :: cs) = none := rfl
  have hname : isNameStart '\uFEFF' = false := by decide +kernel
  have hnumber : startsNumber ('\uFEFF' :: cs) = false := by simp [startsNumber]
  have hprefix : splitPrefix ('\uFEFF' :: cs) = none := splitPrefix_eq_none hd.isPrefixLetter_eq hd.quote cs
  have hsymbol : splitSymbol ('\uFEFF' :: cs) = none := splitSymbol_carry hd.symbol [] cs
  rw [Piece.cut_cons, Piece.next_stray hblank hjoin (by decide) hprefix hname hnumber hsymbol]

theorem keyOf_stray (text : List Char) (pos : Nat) : (Token.spelt .error text pos).keyOf text = "ERR" := rfl

/-- What a stretch of misfit text is hashed by does not depend on its characters. -/
theorem keys_joinStrays_stray (a b : List Char) (ps : List (Piece × List Char)) :
    keys (joinStrays ((.stray, a) :: ps)) = keys (joinStrays ((.stray, b) :: ps)) := by
  induction ps generalizing a b with
  | nil => simp [joinStrays, keys, Piece.kind?, keyOf_stray]
  | cons p ps ih =>
    obtain ⟨piece, text⟩ := p
    cases piece with
    | stray =>
      rw [joinStrays, joinStrays]
      exact ih (a ++ text) (b ++ text)
    | _ => simp [joinStrays, keys, Piece.kind?, keyOf_stray]

theorem keys_suffix_stray (a : List Char) (ps : List (Piece × List Char)) :
    keys (joinStrays ps) <:+ keys (joinStrays ((.stray, a) :: ps)) := by
  cases ps with
  | nil => simp [joinStrays, keys]
  | cons p ps =>
    obtain ⟨piece, text⟩ := p
    by_cases hp : piece = .stray
    · subst hp
      have hjoin : joinStrays ((.stray, a) :: (.stray, text) :: ps) = joinStrays ((.stray, a ++ text) :: ps) := by
        rw [joinStrays]
      rw [hjoin, keys_joinStrays_stray (a ++ text) text]
    · have hjoin : joinStrays ((.stray, a) :: (piece, text) :: ps) =
          (.stray, a) :: joinStrays ((piece, text) :: ps) := by
        rw [joinStrays]
        simp [hp]
      rw [hjoin]
      exact List.suffix_append _ _

/-- A byte order mark takes nothing from the tokens of the text behind it. -/
theorem hashKeys_stripMark_suffix (cs : List Char) : hashKeys (stripMark cs) <:+ hashKeys cs := by
  rcases stripMark_cases cs with h | h
  · have hkeys : hashKeys cs = keys (joinStrays ((.stray, ['\uFEFF']) :: Piece.cut (stripMark cs))) := by
      rw [← cut_mark, ← h, hashKeys]
    rw [hkeys]
    exact keys_suffix_stray _ _
  · rw [h]

/-! ### Texts that leave nothing open -/

/-- A text that leaves nothing open for what follows: no string that is read in it is unclosed, and it does not end
with the beginning of a joined line. -/
structure Closed (text : String) (o : Options) : Prop where
  string : ∃ stream, lex text o = .ok stream ∧ ∀ offset, .unterminatedString offset ∉ stream.problems
  join : ¬ ['\\'] <:+ text.toList
  joinReturn : ¬ ['\\', '\r'] <:+ text.toList

/-- An unclosed string is a flaw. -/
theorem exists_unterminatedString {text : List Char} {ps : List (Piece × List Char)} (h : (.string false, text) ∈ ps)
    (pos : Nat) : ∃ offset, .unterminatedString offset ∈ flaws pos ps := by
  induction ps generalizing pos with
  | nil => cases h
  | cons p ps ih =>
    rcases List.mem_cons.1 h with rfl | h
    · exact ⟨pos, List.mem_append_left _ (by simp [Piece.flaw?])⟩
    · obtain ⟨offset, hoffset⟩ := ih h (pos + byteSize p.2)
      exact ⟨offset, List.mem_append_right _ hoffset⟩

namespace Closed

variable {text : String} {o : Options}

theorem settled_stripMark (h : Closed text o) (hplain : o.normalizeUnicode = false ∨ isAscii text = true) :
    Piece.Settled (stripMark text.toList) := by
  have hsuffix := stripMark_suffix text.toList
  refine ⟨fun last hlast => ?_, fun hs => h.join (hs.trans hsuffix), fun hs => h.joinReturn (hs.trans hsuffix)⟩
  obtain ⟨stream, hlex, hproblems⟩ := h.string
  obtain ⟨htext, -, hflaws⟩ := lex_eq_ok hlex
  have hmem : (.string false, last) ∈ joinStrays (Piece.cut stream.text.toList) := by
    rw [htext, toList_sourceText hplain]
    exact mem_joinStrays (by simp) (List.mem_of_getLast? hlast)
  obtain ⟨offset, hoffset⟩ := exists_unterminatedString hmem 0
  refine hproblems offset ?_
  rwa [hflaws, scan_eq]

/-- Inside a text a byte order mark at the beginning of a block leaves nothing open either. -/
theorem settled (h : Closed text o) (hplain : o.normalizeUnicode = false ∨ isAscii text = true) :
    Piece.Settled text.toList := by
  have hstrip := h.settled_stripMark hplain
  rcases stripMark_cases text.toList with hmark | hmark
  · refine ⟨fun last hlast => ?_, h.join, h.joinReturn⟩
    rw [hmark, cut_mark, List.getLast?_cons] at hlast
    cases hcut : (Piece.cut (stripMark text.toList)).getLast? with
    | none => simp [hcut] at hlast
    | some p =>
      rw [hcut] at hlast
      obtain rfl : p = (.string false, last) := by simpa using hlast
      exact hstrip.string last hcut
  · rwa [hmark] at hstrip

end Closed

/-! ### A block inside a text -/

/-- What the tokens of a text that was read are hashed by, where no character is read for another. -/
theorem hashKeys_of_lex_plain {source : String} {o : Options} {s : Stream} (h : lex source o = .ok s)
    (hplain : o.normalizeUnicode = false ∨ isAscii source = true) :
    s.hashKeys = hashKeys (stripMark source.toList) := by
  rw [hashKeys_of_lex h, (lex_eq_ok h).1, toList_sourceText hplain]

/-- What the tokens of a block are hashed by is what they are hashed by in a text that the block stands in. -/
theorem hashKeys_block {o : Options} {before block after : String} (hbefore : Closed before o)
    (hblock : Closed block o)
    (hplain : o.normalizeUnicode = false ∨ ∀ t ∈ [before, block, after], isAscii t = true) {part whole : Stream}
    (hpart : lex block o = .ok part) (hwhole : lex (before ++ "\n" ++ block ++ "\n" ++ after) o = .ok whole) :
    part.hashKeys <:+: whole.hashKeys := by
  have hplainBefore := hplain.imp_right fun h => h before (by simp)
  have hplainBlock := hplain.imp_right fun h => h block (by simp)
  have hplainWhole : o.normalizeUnicode = false ∨ isAscii (before ++ "\n" ++ block ++ "\n" ++ after) = true := by
    refine hplain.imp_right fun h => ?_
    simpa [isAscii] using h
  have htext : (before ++ "\n" ++ block ++ "\n" ++ after).toList =
      before.toList ++ '\n' :: (block.toList ++ '\n' :: after.toList) := by simp
  obtain ⟨marked, hmarked⟩ := hashKeys_stripMark_suffix block.toList
  refine ⟨hashKeys (stripMark before.toList) ++ marked, hashKeys after.toList, ?_⟩
  calc hashKeys (stripMark before.toList) ++ marked ++ part.hashKeys ++ hashKeys after.toList
      = hashKeys (stripMark before.toList) ++ (hashKeys block.toList ++ hashKeys after.toList) := by
        rw [hashKeys_of_lex_plain hpart hplainBlock, ← hmarked]
        simp only [List.append_assoc]
    _ = hashKeys (stripMark before.toList ++ '\n' :: (block.toList ++ '\n' :: after.toList)) := by
        rw [hashKeys_append_newline (hbefore.settled_stripMark hplainBefore),
          hashKeys_append_newline (hblock.settled hplainBlock)]
    _ = whole.hashKeys := by
        rw [hashKeys_of_lex_plain hwhole hplainWhole, htext, stripMark_append_newline]

end Likeness.Lex
