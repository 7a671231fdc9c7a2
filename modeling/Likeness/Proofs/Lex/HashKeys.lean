import Likeness.Proofs.Lex.Legible
import Likeness.Proofs.Lex.Renaming
import Likeness.Proofs.Source.Artifacts

/-!
# What hash keys tell

The keys that tokens are hashed by are words for a class, keywords, symbols, and literals as they are spelt. They lie in
one space of strings, but none of one class is spelt like one of another: a string literal has a quote, a number has a
digit and no quote, and the other keys have neither and are those of a table (`words`). So the kind of a token is read
off its key (`kindOfKey_hashKey`), and with it the normalized text (`text_eq_normalText`). Texts with equal keys have
equal normalized texts (`hashKeys_refine`).
-/

namespace Likeness.Lex

/-! ### Spellings -/

/-- A spelling that tokens of a kind may have. -/
def Kind.Spells : Kind → List Char → Prop
  | keyword, w => .ofList w ∈ keywords
  | operator, w => (.ofList w, operator) ∈ symbols
  | punctuation, w => (.ofList w, punctuation) ∈ symbols
  | stringLiteral, w => w.any isQuote = true
  | numberLiteral, w => w.any isQuote = false ∧ w.any Char.isDigit = true
  | identifier, _ => True
  | error, _ => True

theorem isQuote_of_isNumberPart {c : Char} (hc : IsNumberPart c) : isQuote c = false := by
  by_contra hquote
  exact notMem_leading_of_isNumberPart hc (mem_leading_of_isQuote (by simpa using hquote))

theorem spells_wordKind (w : List Char) : (wordKind w).Spells w := by
  unfold wordKind
  split
  · rename_i hany
    obtain ⟨word, hword, heq⟩ := List.any_eq_true.1 hany
    rw [← eq_of_beq heq]
    simpa [Kind.Spells] using hword
  · trivial

theorem spells_splitNumber {cs : List Char} (h : startsNumber cs = true) : Kind.numberLiteral.Spells (splitNumber cs).1 :=
  ⟨List.any_eq_false.2 fun _ hc => by simp [isQuote_of_isNumberPart (isNumberPart_of_mem_splitNumber hc)],
    any_isDigit_splitNumber h⟩

theorem spells_splitSymbol {cs symbol rest : List Char} {kind : Kind} (h : splitSymbol cs = some (kind, symbol, rest)) :
    kind.Spells symbol := by
  obtain ⟨-, -, hkind⟩ := splitSymbol_eq_some h
  obtain ⟨s, hs, rfl, rfl⟩ := exists_of_splitSymbol h
  have hmem : (String.ofList s.1.toList, s.2) ∈ symbols := by simpa using hs
  rcases hkind with hkind | hkind <;> rwa [hkind] at hmem ⊢

/-- The piece at the beginning of a text is spelt as its kind may be. -/
theorem Piece.spells_of_next {c : Char} {cs text rest : List Char} {piece : Piece} {kind : Kind}
    (h : next c cs = (piece, text, rest)) (hkind : piece.kind? = some kind) : kind.Spells text := by
  revert h
  fun_cases next c cs with
  | case1 | case2 | case3 =>
    rintro ⟨⟩
    cases hkind
  | case4 _ _ _ letters q _ e =>
    rintro ⟨⟩
    cases hkind
    obtain ⟨-, -, hq⟩ := splitPrefix_eq_some e
    simp [Kind.Spells, hq]
  | case5 _ _ _ _ _ word =>
    rintro ⟨⟩
    cases hkind
    exact spells_wordKind (c :: word)
  | case6 _ _ _ _ _ hnumber number _ e =>
    rintro ⟨⟩
    cases hkind
    have hspells := spells_splitNumber hnumber
    rwa [e] at hspells
  | case7 _ _ _ _ _ _ _ _ _ e =>
    rintro ⟨⟩
    cases hkind
    exact spells_splitSymbol e
  | case8 =>
    rintro ⟨⟩
    cases hkind
    trivial

section Tokens

variable {source : String} {t : Token}

/-- A token is spelt as its kind may be. -/
theorem spells_lexeme (ht : t ∈ tokenize source) : t.kind.Spells (t.lexemeIn source.toList) := by
  by_cases herror : t.kind = .error
  · rw [herror]
    trivial
  obtain ⟨ps, piece, text, qs, hcut, hkind, hspelt⟩ := exists_cut_of_mem ht herror
  have hsource := Piece.eq_of_cut hcut
  obtain ⟨c, w, rfl, hnext⟩ := Piece.exists_next_of_cut hcut
  have hlexeme : t.lexemeIn source.toList = c :: w := by
    rw [hspelt, hsource, Token.lexemeIn_spelt]
  rw [hlexeme]
  exact Piece.spells_of_next hnext hkind

/-- A token has characters, and the normalized text that its kind and its spelling give. -/
theorem text_of_mem_tokenize (ht : t ∈ tokenize source) :
    t.lexemeIn source.toList ≠ [] ∧ t.text = t.kind.normalText (t.lexeme source) := by
  rw [tokenize, scan_eq] at ht
  obtain ⟨text, after, hne, hspelt, hplace⟩ :=
    spelt_of_mem_place (makesUp_joinStrays (Piece.makesUp_cut source.toList)) [] ht
  have hlexeme : t.lexemeIn source.toList = text := by
    rw [List.nil_append] at hplace
    rw [Token.lexemeIn, Text.slice_of_standsAt hplace, Option.getD_some]
  refine ⟨by rwa [hlexeme], ?_⟩
  rw [Token.lexeme, hlexeme, hspelt]
  rfl

/-- A literal is hashed by its spelling. -/
theorem hashKey_of_isLiteral (ht : t ∈ tokenize source) (hliteral : t.kind.isLiteral = true) :
    t.hashKey source = t.lexeme source := by
  obtain ⟨c, cs, hlexeme⟩ := List.exists_cons_of_ne_nil (text_of_mem_tokenize ht).1
  simp only [Token.hashKey, Token.hashKeyIn, Token.keyOf, Token.lexeme, hlexeme, hliteral]

/-- A token that is no literal is hashed by its normalized text. -/
theorem hashKey_of_not_isLiteral (hliteral : t.kind.isLiteral = false) : t.hashKey source = t.text := by
  simp only [Token.hashKey, Token.hashKeyIn, Token.keyOf, hliteral]

end Tokens

/-! ### From keys to kinds -/

/-- The normalized texts, with the kinds they stand for. -/
def words : List (String × Kind) :=
  [("ID", .identifier), ("STR", .stringLiteral), ("NUM", .numberLiteral), ("ERR", .error)] ++
    keywords.map (·, .keyword) ++ symbols

/-- The kind of the tokens that have a key. -/
def kindOfKey (key : String) : Option Kind :=
  if key.toList.any isQuote then some .stringLiteral
  else if key.toList.any Char.isDigit then some .numberLiteral
  else words.lookup key

theorem kindOfKey_of_mem_words {p : String × Kind} (hp : p ∈ words) : kindOfKey p.1 = some p.2 := by
  have hall : ∀ p ∈ words, kindOfKey p.1 = some p.2 := by decide +kernel
  exact hall p hp

section Tokens

variable {source : String} {t : Token}

/-- The kind of a token is read off its normalized text. -/
theorem kindOfKey_text (ht : t ∈ tokenize source) : kindOfKey t.text = some t.kind := by
  have hmem : (t.text, t.kind) ∈ words := by
    have hspells := spells_lexeme ht
    rw [(text_of_mem_tokenize ht).2, Token.lexeme]
    cases hkind : t.kind with
    | keyword | operator | punctuation =>
      rw [hkind] at hspells
      simp only [Kind.Spells] at hspells
      simp [words, Kind.normalText, hspells]
    | _ => simp [words, Kind.normalText]
  exact kindOfKey_of_mem_words hmem

/-- The kind of a token is read off its key. -/
theorem kindOfKey_hashKey (ht : t ∈ tokenize source) : kindOfKey (t.hashKey source) = some t.kind := by
  cases hliteral : t.kind.isLiteral with
  | false => rw [hashKey_of_not_isLiteral hliteral, kindOfKey_text ht]
  | true =>
    have hspells := spells_lexeme ht
    rw [hashKey_of_isLiteral ht hliteral, kindOfKey, Token.lexeme, String.toList_ofList]
    cases hkind : t.kind with
    | stringLiteral =>
      rw [hkind] at hspells
      have hquote : (t.lexemeIn source.toList).any isQuote = true := hspells
      rw [if_pos hquote]
    | numberLiteral =>
      rw [hkind] at hspells
      obtain ⟨hquote, hdigit⟩ := hspells
      rw [hquote, if_neg Bool.false_ne_true, if_pos hdigit]
    | _ => simp [hkind, Kind.isLiteral] at hliteral

/-- The normalized text of a token is told by its kind and its key. -/
theorem text_eq_normalText (ht : t ∈ tokenize source) : t.text = t.kind.normalText (t.hashKey source) := by
  have htext := (text_of_mem_tokenize ht).2
  cases hliteral : t.kind.isLiteral with
  | true => rw [hashKey_of_isLiteral ht hliteral, htext]
  | false =>
    rw [hashKey_of_not_isLiteral hliteral, htext]
    cases t.kind <;> rfl

/-- A literal is never hashed by the word for its class. -/
theorem hashKey_ne_text (ht : t ∈ tokenize source) (hliteral : t.kind.isLiteral = true) : t.hashKey source ≠ t.text := by
  have hspells := spells_lexeme ht
  rw [hashKey_of_isLiteral ht hliteral, Token.lexeme, (text_of_mem_tokenize ht).2]
  intro hword
  replace hword := congrArg String.toList hword
  rw [String.toList_ofList] at hword
  cases hkind : t.kind with
  | stringLiteral =>
    rw [hword, hkind] at hspells
    have hquote : "STR".toList.any isQuote = true := hspells
    exact absurd hquote (by decide)
  | numberLiteral =>
    rw [hword, hkind] at hspells
    have hdigit : "NUM".toList.any Char.isDigit = true := hspells.2
    exact absurd hdigit (by decide)
  | _ => simp [hkind, Kind.isLiteral] at hliteral

end Tokens

/-! ### Texts with equal keys -/

/-- The normalized text of the tokens that have a key. -/
def textOfKey (key : String) : String := (kindOfKey key).elim key (Kind.normalText key)

theorem textOfKey_hashKey {source : String} {t : Token} (ht : t ∈ tokenize source) :
    textOfKey (t.hashKey source) = t.text := by
  rw [textOfKey, kindOfKey_hashKey ht, Option.elim_some, ← text_eq_normalText ht]

/-- The values of a text are told by its keys. -/
theorem values_of_lex {source : String} {o : Options} {s : Stream} (h : lex source o = .ok s) :
    s.values = s.hashKeys.map textOfKey := by
  obtain ⟨-, htokens, -⟩ := lex_eq_ok h
  rw [hashKeys_of_lex h, ← map_hashKey_scan, List.map_map, Stream.values, htokens]
  exact List.map_congr_left fun t ht => (textOfKey_hashKey ht).symm

/-- Tokens of any two texts with equal keys are of one kind and have one normalized text, and the normalized text alone
tells the kind. A literal has its spelling for a key, and never the word for its class. So texts with equal keys have
equal values. -/
theorem hashKeys_refine (a b : String) :
    (∀ t ∈ tokenize a, ∀ u ∈ tokenize b,
        (t.hashKey a = u.hashKey b → t.kind = u.kind ∧ t.text = u.text) ∧ (t.text = u.text → t.kind = u.kind)) ∧
      (∀ t ∈ tokenize a, t.kind.isLiteral = true →
        t.hashKey a = t.lexeme a ∧ t.lexeme a ≠ "" ∧ t.hashKey a ≠ t.text) ∧
      ∀ (o o' : Options) (s s' : Stream), lex a o = .ok s → lex b o' = .ok s' →
        s.hashKeys = s'.hashKeys → s.values = s'.values := by
  refine ⟨fun t ht u hu => ⟨fun hkey => ⟨?_, ?_⟩, fun htext => ?_⟩, fun t ht hliteral => ⟨?_, ?_, ?_⟩, ?_⟩
  · have hkind := kindOfKey_hashKey ht
    rw [hkey, kindOfKey_hashKey hu] at hkind
    exact (Option.some.inj hkind).symm
  · rw [← textOfKey_hashKey ht, hkey, textOfKey_hashKey hu]
  · have hkind := kindOfKey_text ht
    rw [htext, kindOfKey_text hu] at hkind
    exact (Option.some.inj hkind).symm
  · exact hashKey_of_isLiteral ht hliteral
  · intro hempty
    refine (text_of_mem_tokenize ht).1 ?_
    have hnil := congrArg String.toList hempty
    rwa [Token.lexeme, String.toList_ofList] at hnil
  · exact hashKey_ne_text ht hliteral
  · intro o o' s s' hs hs' hkeys
    rw [values_of_lex hs, values_of_lex hs', hkeys]

/-- A name and a string literal that are spelt alike, in two layouts and under two names. -/
theorem hashKeys_refine_layouts :
    ∃ t ∈ tokenize "ID = 'ID' # x", ∃ u ∈ tokenize "x ='ID'",
      t.kind.isLiteral = true ∧ t.hashKey "ID = 'ID' # x" = u.hashKey "x ='ID'" ∧ t.kind = u.kind ∧ t.text = u.text ∧
        t.hashKey "ID = 'ID' # x" ≠ t.text ∧
      ∃ s s', lex "ID = 'ID' # x" ⟨1, false⟩ = .ok s ∧ lex "x ='ID'" ⟨1, false⟩ = .ok s' ∧
        s.hashKeys = s'.hashKeys ∧ s.values = s'.values := by
  obtain ⟨htokens, hliterals, hstreams⟩ := hashKeys_refine "ID = 'ID' # x" "x ='ID'"
  let t : Token := ⟨.stringLiteral, "STR", 5, 9⟩
  let u : Token := ⟨.stringLiteral, "STR", 3, 7⟩
  let s : Stream := ⟨"ID = 'ID' # x", [⟨.identifier, "ID", 0, 2⟩, ⟨.operator, "=", 3, 4⟩, t], [], 1⟩
  let s' : Stream := ⟨"x ='ID'", [⟨.identifier, "ID", 0, 1⟩, ⟨.operator, "=", 2, 3⟩, u], [], 1⟩
  have hread : tokenize "ID = 'ID' # x" = s.tokens := by decide +kernel
  have hread' : tokenize "x ='ID'" = s'.tokens := by decide +kernel
  have ht : t ∈ tokenize "ID = 'ID' # x" := by simp [hread, s]
  have hu : u ∈ tokenize "x ='ID'" := by simp [hread', s']
  have hkey : t.hashKey "ID = 'ID' # x" = u.hashKey "x ='ID'" := by decide +kernel
  have hs : lex "ID = 'ID' # x" ⟨1, false⟩ = .ok s := by decide +kernel
  have hs' : lex "x ='ID'" ⟨1, false⟩ = .ok s' := by decide +kernel
  have hkeys : s.hashKeys = s'.hashKeys := by decide +kernel
  obtain ⟨hkind, htext⟩ := (htokens t ht u hu).1 hkey
  exact ⟨t, ht, u, hu, rfl, hkey, hkind, htext, (hliterals t ht rfl).2.2, s, s', hs, hs', hkeys,
    hstreams _ _ _ _ hs hs' hkeys⟩

end Likeness.Lex
