import Likeness.Proofs.Lex.Lookahead
import Likeness.Proofs.Lex.Tiling

/-!
# Renaming an identifier

Another name in place of an identifier leaves the tokens and the flaws of a text as they are, but for the
places behind it (`scan_renamed`), if no number ends just before the identifier and no quote follows it:

* `cut_before_inert`: the pieces before an inert character do not depend on it;
* `exists_cut_of_mem`: a token that is no misfit is a piece of the text;
* `map_place`, `map_flaws`: where the same pieces stand elsewhere, tokens and flaws are moved.
-/

namespace Likeness.Lex

open Text (byteSize)
open Piece (spelling cut)

/-! ### Pieces before an inert character -/

/-- The pieces before an inert character stay the same before another one, as each of them does. -/
theorem cut_before_inert {d d' : Char} (hd : Inert d) (hd' : Inert d')
    (hpart : isNamePart d = false → isNamePart d' = false) {r : List Char} {ps qs : List (Piece × List Char)}
    (h : cut (spelling ps ++ d :: r) = ps ++ qs)
    (hnumber : ∀ text, ps.getLast? = some (.token .numberLiteral, text) → Ends d') (r' : List Char) :
    cut (spelling ps ++ d' :: r') = ps ++ cut (d' :: r') := by
  induction ps with
  | nil => rfl
  | cons p ps ih =>
    obtain ⟨piece, text⟩ := p
    have hne : ∀ q ∈ (piece, text) :: ps, q.2 ≠ [] := fun q hq =>
      (Piece.makesUp_cut _).ne_nil (by rw [h]; exact List.mem_append_left _ hq)
    obtain ⟨c, text', rfl⟩ := List.exists_cons_of_ne_nil (hne _ List.mem_cons_self)
    have hshape : ∀ u : List Char, spelling ((piece, c :: text') :: ps) ++ u = c :: (text' ++ spelling ps ++ u) := by
      intro u
      simp
    have hspec := Piece.next_spec c (text' ++ spelling ps ++ d :: r)
    rw [hshape, Piece.cut_cons, List.cons_append] at h
    obtain ⟨hfirst, hrest⟩ := List.cons.inj h
    obtain ⟨hpiece, htext⟩ := Prod.mk.inj hfirst
    have hbehind : (Piece.next c (text' ++ spelling ps ++ d :: r)).2.2 = spelling ps ++ d :: r := by
      have happend := hspec.1
      rw [htext] at happend
      simpa using happend
    have hnext : Piece.next c (text' ++ spelling ps ++ d :: r) = (piece, c :: text', spelling ps ++ d :: r) :=
      Prod.ext hpiece (Prod.ext htext hbehind)
    -- where the piece stands just before the character, it is the last one
    have hlast : piece = .token .numberLiteral → spelling ps = [] → Ends d' := by
      rintro rfl hnil
      cases ps with
      | nil => exact hnumber _ rfl
      | cons q ps => exact absurd (List.append_eq_nil_iff.1 hnil).1 (hne q (by simp))
    have hnumber' : ∀ text, ps.getLast? = some (.token .numberLiteral, text) → Ends d' := by
      intro text hlast
      refine hnumber text ?_
      rw [List.getLast?_cons, hlast]
      rfl
    rw [hbehind] at hrest
    rw [hshape, Piece.cut_cons, Piece.next_before_inert hd hd' hpart hnext hlast r', ih hrest hnumber']
    rfl

/-! ### Names -/

/-- A word that may be given to an identifier. -/
structure IsName (name : String) : Prop where
  spelt : ∃ c w, name.toList = c :: w ∧ isNameStart c = true ∧ ∀ x ∈ w, isNamePart x = true
  notKeyword : name ∉ keywords

theorem IsName.wordKind {name : String} (h : IsName name) : wordKind name.toList = .identifier := by
  have hany : keywords.any (·.toList == name.toList) = false := by
    rw [List.any_eq_false]
    intro word hword heq
    exact h.notKeyword (String.toList_inj.1 (eq_of_beq heq) ▸ hword)
  rw [Lex.wordKind, hany]
  rfl

/-- An identifier is cut as before when it is given another name. -/
theorem cut_renamed {ps qs : List (Piece × List Char)} {old after : List Char}
    (h : cut (spelling ps ++ (old ++ after)) = ps ++ (.token .identifier, old) :: qs)
    (hnumber : ∀ text, ps.getLast? ≠ some (.token .numberLiteral, text))
    (hquote : ∀ x ∈ after.head?, isQuote x = false) {name : String} (hname : IsName name) :
    cut (spelling ps ++ (name.toList ++ after)) = ps ++ (.token .identifier, name.toList) :: qs := by
  obtain ⟨d', w, hspelt, hd', hw⟩ := hname.spelt
  have hkind := hname.wordKind
  have hspelling : spelling qs = after := by
    have hwhole := Piece.eq_of_cut h
    simpa using hwhole.symm
  obtain ⟨d, old', rfl, hnext⟩ := Piece.exists_next_of_cut h
  rw [hspelling] at hnext
  obtain ⟨hd, hpart⟩ := Piece.next_identifier hnext
  have hafter : cut after = qs := by rw [← hspelling, Piece.cut_behind h]
  have hgoesOn : isNamePart d = false → isNamePart d' = false := by
    intro hends
    rw [isNamePart_of_isNameStart hd] at hends
    cases hends
  have hbefore := cut_before_inert (inert_of_isNameStart hd) (inert_of_isNameStart hd') hgoesOn (r := old' ++ after)
    (by simpa using h) (fun text hlast => absurd hlast (hnumber text)) (w ++ after)
  rw [hspelt] at hkind ⊢
  rw [List.cons_append, hbefore, Piece.cut_cons, Piece.next_name hd' hw hpart hquote, hkind, hafter]

/-! ### From tokens to pieces -/

theorem exists_of_mem_place {pos : Nat} {ps : List (Piece × List Char)} {t : Token} (ht : t ∈ place pos ps) :
    ∃ qs piece text rs, ps = qs ++ (piece, text) :: rs ∧ piece.kind? = some t.kind ∧
      t = Token.spelt t.kind text (pos + byteSize (spelling qs)) := by
  induction ps generalizing pos with
  | nil => cases ht
  | cons p ps ih =>
    obtain ⟨piece, text⟩ := p
    rcases List.mem_append.1 ht with ht | ht
    · obtain ⟨kind, hkind, rfl⟩ := Option.map_eq_some_iff.1 (Option.mem_toList.1 ht)
      exact ⟨[], piece, text, ps, rfl, hkind, rfl⟩
    · obtain ⟨qs, piece', text', rs, rfl, hkind, hspelt⟩ := ih ht
      refine ⟨(piece, text) :: qs, piece', text', rs, rfl, hkind, ?_⟩
      rw [hspelt]
      simp [Token.spelt, Nat.add_assoc]

/-- A piece that is no misfit was there before misfit pieces were put together. -/
theorem exists_of_joinStrays {p : Piece × List Char} (hp : p.1 ≠ .stray) {ps qs rs : List (Piece × List Char)}
    (h : joinStrays ps = qs ++ p :: rs) : ∃ qs' rs', ps = qs' ++ p :: rs' ∧ spelling qs' = spelling qs := by
  fun_induction joinStrays ps generalizing qs with
  | case1 a b ps ih =>
    obtain ⟨qs', rs', hps, hspelling⟩ := ih h
    cases qs' with
    | nil => exact absurd (by rw [← (List.cons.inj hps).1]) hp
    | cons q qs' =>
      obtain ⟨rfl, rfl⟩ := List.cons.inj hps
      exact ⟨(.stray, a) :: (.stray, b) :: qs', rs', rfl, by simpa using hspelling⟩
  | case2 q ps _ ih =>
    cases qs with
    | nil =>
      obtain ⟨rfl, -⟩ := List.cons.inj h
      exact ⟨[], ps, rfl, rfl⟩
    | cons q' qs =>
      obtain ⟨rfl, hps⟩ := List.cons.inj h
      obtain ⟨qs', rs', rfl, hspelling⟩ := ih hps
      exact ⟨q :: qs', rs', rfl, by simp [hspelling]⟩
  | case3 => simp at h

/-- A token that is no misfit is a piece of the text. -/
theorem exists_cut_of_mem {source : String} {t : Token} (ht : t ∈ tokenize source) (hkind : t.kind ≠ .error) :
    ∃ ps piece text qs, cut source.toList = ps ++ (piece, text) :: qs ∧ piece.kind? = some t.kind ∧
      t = Token.spelt t.kind text (byteSize (spelling ps)) := by
  rw [tokenize, scan_eq] at ht
  obtain ⟨qs, piece, text, rs, hjoin, hpiece, hspelt⟩ := exists_of_mem_place ht
  have hstray : piece ≠ .stray := by
    rintro rfl
    exact hkind (Option.some.inj hpiece).symm
  obtain ⟨qs', rs', hcut, hspelling⟩ := exists_of_joinStrays (p := (piece, text)) hstray hjoin
  exact ⟨qs', piece, text, rs', hcut, hpiece, by rw [hspelling, ← Nat.zero_add (byteSize (spelling qs))]; exact hspelt⟩

/-! ### Places -/

/-- A token with other places. -/
def Token.mapPlaces (f : Nat → Nat) (t : Token) : Token := { t with start := f t.start, stop := f t.stop }

/-- A flaw at another place. -/
def Problem.mapPlaces (f : Nat → Nat) : Problem → Problem
  | unlexable offset length => unlexable (f offset) length
  | unterminatedString offset => unterminatedString (f offset)
  | invalidOptions reason => invalidOptions reason

theorem map_place {f : Nat → Nat} {ps : List (Piece × List Char)} (pos pos' : Nat)
    (hf : ∀ i ≤ byteSize (spelling ps), f (pos + i) = pos' + i) :
    (place pos ps).map (Token.mapPlaces f) = place pos' ps := by
  induction ps generalizing pos pos' with
  | nil => rfl
  | cons p ps ih =>
    obtain ⟨piece, text⟩ := p
    simp only [Piece.spelling_cons, Text.byteSize_append] at hf
    have hrest := ih (pos + byteSize text) (pos' + byteSize text) fun i hi => by
      rw [Nat.add_assoc, hf _ (by omega), Nat.add_assoc]
    have hstart : f pos = pos' := hf 0 (by omega)
    have hstop : f (pos + byteSize text) = pos' + byteSize text := hf _ (by omega)
    cases hkind : piece.kind? <;> simp [place, hkind, hrest, Token.mapPlaces, Token.spelt, hstart, hstop]

theorem map_flaws {f : Nat → Nat} {ps : List (Piece × List Char)} (pos pos' : Nat)
    (hf : ∀ i ≤ byteSize (spelling ps), f (pos + i) = pos' + i) :
    (flaws pos ps).map (Problem.mapPlaces f) = flaws pos' ps := by
  induction ps generalizing pos pos' with
  | nil => rfl
  | cons p ps ih =>
    obtain ⟨piece, text⟩ := p
    simp only [Piece.spelling_cons, Text.byteSize_append] at hf
    have hrest := ih (pos + byteSize text) (pos' + byteSize text) fun i hi => by
      rw [Nat.add_assoc, hf _ (by omega), Nat.add_assoc]
    have hstart : f pos = pos' := hf 0 (by omega)
    cases piece with
    | string closed => cases closed <;> simp [flaws, Piece.flaw?, hrest, Problem.mapPlaces, hstart]
    | _ => simp [flaws, Piece.flaw?, hrest, Problem.mapPlaces, hstart]

/-! ### Renaming -/

namespace Token

/-- The text behind a token. -/
def behind (t : Token) (source : String) : List Char := (Text.dropBytes t.stop source.toList).getD []

/-- A text with another name in place of a token. -/
def renamed (t : Token) (source name : String) : String :=
  .ofList ((Text.takeBytes t.start source.toList).getD [] ++ (name.toList ++ t.behind source))

/-- Where a place of a text is found after `size` bytes have come in place of a token: before the token where it was,
behind the token as far from its end as it was. -/
def shift (t : Token) (size n : Nat) : Nat := if n ≤ t.start then n else n - t.length + size

end Token

/-- The identifier among the pieces of the text, before and after it is given another name. -/
theorem exists_cut_renamed {source : String} {t : Token} (ht : t ∈ tokenize source) (hkind : t.kind = .identifier)
    (hnumber : ∀ n ∈ tokenize source, n.kind = .numberLiteral → n.stop ≠ t.start)
    (hquote : ∀ x ∈ (t.behind source).head?, isQuote x = false) {name : String} (hname : IsName name) :
    ∃ ps old qs, cut source.toList = ps ++ (.token .identifier, old) :: qs ∧
      cut (t.renamed source name).toList = ps ++ (.token .identifier, name.toList) :: qs ∧
      0 < byteSize old ∧ t.start = byteSize (spelling ps) ∧ t.length = byteSize old := by
  obtain ⟨ps, piece, old, qs, hcut, hpiece, hspelt⟩ := exists_cut_of_mem ht (by simp [hkind])
  obtain rfl : piece = .token .identifier := by
    rw [hkind] at hpiece
    cases piece with
    | token kind => rw [Option.some.inj hpiece]
    | _ => cases hpiece
  have hsource : source.toList = spelling ps ++ (old ++ spelling qs) := Piece.eq_of_cut hcut
  have hold : old ≠ [] :=
    (Piece.makesUp_cut source.toList).ne_nil (p := (.token .identifier, old)) (by simp [hcut])
  have hstart : t.start = byteSize (spelling ps) := by rw [hspelt]; rfl
  have hstop : t.stop = byteSize (spelling ps ++ old) := by rw [hspelt, Text.byteSize_append]; rfl
  have hlength : t.length = byteSize old := by rw [Token.length, hstart, hstop, Text.byteSize_append]; omega
  have hbehind : t.behind source = spelling qs := by
    rw [Token.behind, hstop, hsource, ← List.append_assoc, Text.dropBytes_append, Option.getD_some]
  have hrenamed : (t.renamed source name).toList = spelling ps ++ (name.toList ++ spelling qs) := by
    rw [Token.renamed, String.toList_ofList, hbehind, hstart, hsource, Text.takeBytes_append, Option.getD_some]
  have hlast : ∀ text, ps.getLast? ≠ some (.token .numberLiteral, text) := by
    intro text hlast
    obtain ⟨ps', rfl⟩ := List.getLast?_eq_some_iff.1 hlast
    have hmem : Token.spelt .numberLiteral text (byteSize (spelling ps')) ∈ tokenize source :=
      mem_tokenize (by rw [hcut, List.append_assoc]; rfl) rfl (by simp)
    refine hnumber _ hmem rfl ?_
    rw [hstart]
    simp [Token.spelt]
  rw [hbehind] at hquote
  have hcut' := cut_renamed (by rw [← hsource]; exact hcut) hlast hquote hname
  rw [← hrenamed] at hcut'
  exact ⟨ps, old, qs, hcut, hcut', Text.byteSize_pos hold, hstart, hlength⟩

/-- An identifier that is given another name leaves all tokens, what they are hashed by, and all flaws as they are,
but for the places behind it. -/
theorem scan_renamed {source : String} {t : Token} (ht : t ∈ tokenize source) (hkind : t.kind = .identifier)
    (hnumber : ∀ n ∈ tokenize source, n.kind = .numberLiteral → n.stop ≠ t.start)
    (hquote : ∀ x ∈ (t.behind source).head?, isQuote x = false) {name : String} (hname : IsName name) :
    scan (t.renamed source name) =
        ((scan source).1.map (Token.mapPlaces (t.shift (byteSize name.toList))),
          (scan source).2.map (Problem.mapPlaces (t.shift (byteSize name.toList)))) ∧
      hashKeys (t.renamed source name).toList = hashKeys source.toList := by
  obtain ⟨ps, old, qs, hcut, hcut', hpos, hstart, hlength⟩ := exists_cut_renamed ht hkind hnumber hquote hname
  have hbefore : ∀ i ≤ byteSize (spelling (joinStrays ps)),
      t.shift (byteSize name.toList) (0 + i) = 0 + i := by
    intro i hi
    rw [spelling_joinStrays] at hi
    rw [Token.shift, if_pos (by omega)]
  have hafter : ∀ i ≤ byteSize (spelling (joinStrays qs)),
      t.shift (byteSize name.toList) (byteSize (spelling ps) + byteSize old + i) =
        byteSize (spelling ps) + byteSize name.toList + i := by
    intro i _
    rw [Token.shift, if_neg (by omega)]
    omega
  have hat : t.shift (byteSize name.toList) (byteSize (spelling ps)) = byteSize (spelling ps) := by
    rw [Token.shift, if_pos (by omega)]
  have hend : t.shift (byteSize name.toList) (byteSize (spelling ps) + byteSize old) =
      byteSize (spelling ps) + byteSize name.toList := hafter 0 (Nat.zero_le _)
  constructor
  · rw [scan_eq, scan_eq, hcut, hcut', joinStrays_append (by simp), joinStrays_append (by simp)]
    simp only [place_append, flaws_append, place, flaws, Piece.kind?, Piece.flaw?, List.map_append, spelling_joinStrays,
      map_place _ _ hbefore, map_flaws _ _ hbefore, map_place _ _ hafter, map_flaws _ _ hafter, Nat.zero_add, Option.map_some,
      Option.toList_some, Option.toList_none, List.nil_append, List.singleton_append, List.map_cons]
    simp only [Token.mapPlaces, Token.spelt, hat, hend]
    rfl
  · simp only [hashKeys, hcut, hcut', joinStrays_append (p := (.token .identifier, _)) (by simp), keys_append, keys]
    rfl

end Likeness.Lex
