import Likeness.Proofs.Lex.Block
import Likeness.Proofs.Lex.Kinds
import Likeness.Proofs.Lex.Tiling

/-!
# Reading what was written

A text that is one token by itself (`Lexeme`) stays this token when layout is put around it. So lexemes
that are written down with separators between them (`Writing`) are read back, each where it stands,
whatever the separators are (`scan_writing`):

* `breaks_of_isBlank`, `breaks_backslash`, `breaks_hash`: what a separator begins with ends every token;
* `readFrom_separator`: a separator is passed over;
* `Lexeme.readFrom_append`: a lexeme before a separator, or at the end, is read as its token.
-/

namespace Likeness.Lex

open Text (byteSize)

/-! ### What separators begin with -/

theorem breaks_of_isBlank {c : Char} (hc : Text.isBlank c = true) : Breaks c where
  name := isNamePart_of_isBlank hc
  quote := by
    by_contra hquote
    rcases isQuote_iff.1 (by simpa using hquote) with rfl | rfl <;> exact absurd hc (by decide)
  symbol := by
    have hall : symbols.all (fun s => s.1.toList.all fun c => !Text.isBlank c) = true := by decide
    have hsymbols : ∀ s ∈ symbols, ∀ c ∈ s.1.toList, Text.isBlank c = false := by simpa using hall
    intro s hs hmem
    rw [hsymbols s hs c hmem] at hc
    cases hc

theorem breaks_backslash : Breaks '\\' where
  name := by decide
  quote := by decide
  symbol := by decide

theorem breaks_hash : Breaks '#' where
  name := by decide
  quote := by decide
  symbol := by decide

/-! ### Reading from a place on -/

/-- What is read of a text that begins at byte `pos`: its tokens, its flaws, and what the tokens are hashed by. -/
structure Reading where
  tokens : List Token
  problems : List Problem
  keys : List String

def readFrom (pos : Nat) (cs : List Char) : Reading where
  tokens := place pos (joinStrays (Piece.cut cs))
  problems := flaws pos (joinStrays (Piece.cut cs))
  keys := keys (joinStrays (Piece.cut cs))

theorem scan_eq_readFrom (text : String) :
    scan text = ((readFrom 0 text.toList).tokens, (readFrom 0 text.toList).problems) := scan_eq text

theorem hashKeys_eq_readFrom (cs : List Char) : hashKeys cs = (readFrom 0 cs).keys := rfl

@[simp] theorem readFrom_nil (pos : Nat) : readFrom pos [] = ⟨[], [], []⟩ := by
  simp [readFrom, joinStrays, place, flaws, keys]

/-- Layout becomes nothing. -/
theorem readFrom_layout {c : Char} {cs part rest : List Char} (h : Piece.next c cs = (.layout, part, rest))
    (pos : Nat) : readFrom pos (c :: cs) = readFrom (pos + byteSize part) rest := by
  rw [readFrom, Piece.cut_cons, h, joinStrays_cons (by simp)]
  rfl

/-! ### Separators -/

/-- What may stand between tokens: blanks, joined lines, and comments with the line ends behind them, in any number
and order. -/
inductive IsSeparator : List Char → Prop
  | nil : IsSeparator []
  | blank {c : Char} {g : List Char} : Text.isBlank c = true → IsSeparator g → IsSeparator (c :: g)
  | join {g : List Char} : IsSeparator g → IsSeparator ('\\' :: '\n' :: g)
  | joinReturn {g : List Char} : IsSeparator g → IsSeparator ('\\' :: '\r' :: '\n' :: g)
  | comment {body g : List Char} : '\n' ∉ body → IsSeparator g → IsSeparator ('#' :: (body ++ '\n' :: g))

/-- A separator is empty, or begins with a character that ends every token. -/
theorem IsSeparator.breaks {g : List Char} (hg : IsSeparator g) : g = [] ∨ ∃ d r, g = d :: r ∧ Breaks d := by
  cases hg with
  | nil => exact .inl rfl
  | blank hc => exact .inr ⟨_, _, rfl, breaks_of_isBlank hc⟩
  | join => exact .inr ⟨_, _, rfl, breaks_backslash⟩
  | joinReturn => exact .inr ⟨_, _, rfl, breaks_backslash⟩
  | comment => exact .inr ⟨_, _, rfl, breaks_hash⟩

theorem readFrom_separator {g : List Char} (hg : IsSeparator g) (pos : Nat) (r : List Char) :
    readFrom pos (g ++ r) = readFrom (pos + byteSize g) r := by
  have hline : Text.isBlank '\n' = true := by decide
  induction hg generalizing pos with
  | nil => rfl
  | @blank c g hc _ ih =>
    rw [List.cons_append, readFrom_layout (Piece.next_blank hc _), ih]
    simp [Nat.add_assoc]
  | @join g _ ih =>
    rw [List.cons_append, List.cons_append, readFrom_layout (Piece.next_join rfl), ih]
    simp [Nat.add_assoc]
  | @joinReturn g _ ih =>
    rw [List.cons_append, List.cons_append, List.cons_append, readFrom_layout (Piece.next_join rfl), ih]
    simp [Nat.add_assoc]
  | @comment body g hbody _ ih =>
    -- the line end behind the comment is a blank of its own
    have hshape : '#' :: (body ++ '\n' :: g) ++ r = '#' :: (body ++ '\n' :: (g ++ r)) := by simp
    rw [hshape, readFrom_layout (Piece.next_comment hbody _), readFrom_layout (Piece.next_blank hline _), ih]
    simp [Nat.add_assoc]

/-! ### Lexemes -/

/-- A text that is one token by itself, which takes the whole of it, and no flaw. -/
structure Lexeme where
  text : String
  token : Token
  scan_eq : scan text = ([token], [])
  kind_ne : token.kind ≠ .error
  start_eq : token.start = 0
  stop_eq : token.stop = byteSize text.toList

/-- A token, moved to byte `pos`. -/
def Token.movedTo (t : Token) (pos : Nat) : Token := { t with start := pos, stop := pos + t.length }

namespace Lexeme

variable (l : Lexeme)

/-- What a lexeme is hashed by. -/
def hashKey : String := l.token.hashKey l.text

end Lexeme

/-- A misfit piece at the beginning stays there, maybe with more. -/
theorem exists_joinStrays_stray (text : List Char) (ps : List (Piece × List Char)) :
    ∃ text' qs, joinStrays ((.stray, text) :: ps) = (.stray, text') :: qs := by
  have hhead := head?_joinStrays ((.stray, text) :: ps)
  cases hjoin : joinStrays ((.stray, text) :: ps) with
  | nil => simp [hjoin] at hhead
  | cons p qs =>
    obtain ⟨piece, text'⟩ := p
    obtain rfl : piece = .stray := by simpa [hjoin] using hhead
    exact ⟨text', qs, rfl⟩

/-- A piece that is neither layout nor at fault stays the same with a character behind it that ends every token. -/
theorem next_before_break {c : Char} {cs : List Char} {piece : Piece} (hnext : Piece.next c cs = (piece, c :: cs, []))
    (hlayout : piece ≠ .layout) (hstray : piece ≠ .stray) (hopen : piece ≠ .string false) {d : Char} (hd : Breaks d)
    (r : List Char) : Piece.next c (cs ++ d :: r) = (piece, c :: cs, d :: r) := by
  have hslash : c :: cs ≠ ['\\'] := by
    intro h
    obtain ⟨rfl, rfl⟩ := List.cons.inj h
    have hpiece : (Piece.next '\\' []).1 = .stray := by decide
    rw [hnext] at hpiece
    exact hstray hpiece
  have hreturn : c :: cs ≠ ['\\', '\r'] := by
    intro h
    obtain ⟨rfl, rfl⟩ := List.cons.inj h
    have hpiece : (Piece.next '\\' ['\r']).1 = .stray := by decide
    rw [hnext] at hpiece
    exact hstray hpiece
  have hcomment : c = '#' → d = '\n' := by
    rintro rfl
    have hpiece : (Piece.next '#' cs).1 = .layout := by rw [Piece.next_hash]
    rw [hnext] at hpiece
    exact absurd hpiece hlayout
  have hcarry := Piece.next_carry hd hslash hreturn hcomment (by rw [hnext]; exact fun h => absurd h hopen) r
  rw [hcarry, hnext, List.nil_append]

/-- A text that is one token, which takes the whole of it and is no misfit, is one piece. -/
theorem next_of_single {c : Char} {cs : List Char} {t : Token} (ht : (readFrom 0 (c :: cs)).tokens = [t])
    (hkind : t.kind ≠ .error) (hstart : t.start = 0) (hstop : t.stop = byteSize (c :: cs)) :
    ∃ piece, Piece.next c cs = (piece, c :: cs, []) ∧ piece ≠ .stray ∧ piece.kind? = some t.kind ∧
      t = Token.spelt t.kind (c :: cs) 0 := by
  obtain ⟨happend, hne, -⟩ := Piece.next_spec c cs
  rw [readFrom, Piece.cut_cons] at ht
  generalize Piece.next c cs = n at ht happend hne ⊢
  obtain ⟨piece, text, rest⟩ := n
  simp only at ht happend hne
  have hpos := Text.byteSize_pos hne
  have hstray : piece ≠ .stray := by
    rintro rfl
    obtain ⟨text', ps, hps⟩ := exists_joinStrays_stray text (Piece.cut rest)
    rw [hps] at ht
    have htoken : Token.spelt .error text' 0 = t := (List.cons.inj ht).1
    exact hkind (by rw [← htoken]; rfl)
  rw [joinStrays_cons hstray] at ht
  cases hk : piece.kind? with
  | none =>
    -- the token would begin behind the piece
    have hplace : place (0 + byteSize text) (joinStrays (Piece.cut rest)) = [t] := by simpa [place, hk] using ht
    have hle : 0 + byteSize text ≤ t.start := le_start_of_mem_place (by rw [hplace]; exact List.mem_singleton_self t)
    omega
  | some kind =>
    have hplace : Token.spelt kind text 0 :: place (0 + byteSize text) (joinStrays (Piece.cut rest)) = [t] := by
      simpa [place, hk] using ht
    obtain ⟨rfl, -⟩ := List.cons.inj hplace
    have hrest : rest = [] := by
      by_contra hrest
      have hpos' := Text.byteSize_pos hrest
      rw [← happend, Text.byteSize_append] at hstop
      simp only [Token.spelt] at hstop
      omega
    subst hrest
    rw [List.append_nil] at happend
    subst happend
    exact ⟨piece, rfl, hstray, hk, rfl⟩

namespace Lexeme

variable (l : Lexeme)

/-- A lexeme stays its token at the end of the text, and before a character that ends every token. -/
theorem readFrom_append {after : List Char} (hafter : after = [] ∨ ∃ d r, after = d :: r ∧ Breaks d) (pos : Nat) :
    readFrom pos (l.text.toList ++ after) =
      ⟨l.token.movedTo pos :: (readFrom (pos + byteSize l.text.toList) after).tokens,
        (readFrom (pos + byteSize l.text.toList) after).problems,
        l.hashKey :: (readFrom (pos + byteSize l.text.toList) after).keys⟩ := by
  have hscan := l.scan_eq
  rw [scan_eq_readFrom] at hscan
  obtain ⟨htokens, hproblems⟩ := Prod.mk.inj hscan
  have hstop := l.stop_eq
  have hkey : l.hashKey = l.token.keyOf (l.token.lexemeIn l.text.toList) := rfl
  generalize l.text.toList = cs at htokens hproblems hstop hkey ⊢
  cases cs with
  | nil =>
    rw [readFrom_nil] at htokens
    cases htokens
  | cons c cs =>
    obtain ⟨piece, hnext, hstray, hkind, hspelt⟩ := next_of_single htokens l.kind_ne l.start_eq hstop
    have hlayout : piece ≠ .layout := by
      rintro rfl
      cases hkind
    have hopen : piece ≠ .string false := by
      rintro rfl
      simp [readFrom, Piece.cut_cons, hnext, joinStrays_cons, flaws, Piece.flaw?] at hproblems
    have hcarry : Piece.next c (cs ++ after) = (piece, c :: cs, after) := by
      rcases hafter with rfl | ⟨d, r, rfl, hd⟩
      · rw [List.append_nil, hnext]
      · exact next_before_break hnext hlayout hstray hopen hd r
    have hmoved : l.token.movedTo pos = Token.spelt l.token.kind (c :: cs) pos := by
      rw [hspelt]
      simp [Token.movedTo, Token.spelt, Token.length]
    have hlexeme : l.token.lexemeIn (c :: cs) = c :: cs := by
      have h := Token.lexemeIn_spelt l.token.kind [] (c :: cs) []
      rwa [Text.byteSize_nil, ← hspelt, List.nil_append, List.append_nil] at h
    have hflaw : piece.flaw? (c :: cs) pos = none := by
      cases piece with
      | string closed =>
        cases closed with
        | true => rfl
        | false => exact absurd rfl hopen
      | stray => exact absurd rfl hstray
      | _ => rfl
    rw [hmoved, hkey, hlexeme, List.cons_append, readFrom, Piece.cut_cons, hcarry, joinStrays_cons hstray]
    simp only [place, flaws, keys, hkind, hflaw, Option.map_some, Option.toList_some, Option.toList_none,
      List.singleton_append, List.nil_append, readFrom]
    rw [hspelt]
    rfl

/-- The spelling tells the token. -/
theorem eq_of_text_eq {l l' : Lexeme} (h : l.text = l'.text) : l = l' := by
  have hscan := l.scan_eq
  rw [h, l'.scan_eq] at hscan
  obtain ⟨text, token, _, _, _, _⟩ := l
  obtain ⟨text', token', _, _, _, _⟩ := l'
  obtain rfl : text = text' := h
  obtain rfl : token' = token := by simpa using hscan
  rfl

end Lexeme

/-! ### Writings -/

/-- A separator as a text. -/
structure Gap where
  text : String
  separator : IsSeparator text.toList

/-- Lexemes, each with the separator behind it. -/
def spell : List (Lexeme × Gap) → String
  | [] => ""
  | p :: ps => p.1.text ++ (p.2.text ++ spell ps)

/-- The tokens of lexemes that are spelt from byte `pos` on. -/
def placed : (pos : Nat) → List (Lexeme × Gap) → List Token
  | _, [] => []
  | pos, p :: ps =>
    p.1.token.movedTo pos :: placed (pos + byteSize p.1.text.toList + byteSize p.2.text.toList) ps

/-- Lexemes that are written down: a separator, then each lexeme with the separator behind it. Between two lexemes the
separator is not empty. -/
structure Writing where
  first : Gap
  parts : List (Lexeme × Gap)
  parted : ∀ p ∈ parts.dropLast, p.2.text ≠ ""

namespace Writing

def lexemes (w : Writing) : List Lexeme := w.parts.map Prod.fst

def text (w : Writing) : String := w.first.text ++ spell w.parts

/-- The tokens of the lexemes, each where its lexeme stands. -/
def tokens (w : Writing) : List Token := placed (byteSize w.first.text.toList) w.parts

end Writing

theorem readFrom_spell {ps : List (Lexeme × Gap)} (hps : ∀ p ∈ ps.dropLast, p.2.text ≠ "") (pos : Nat) :
    readFrom pos (spell ps).toList = ⟨placed pos ps, [], ps.map fun p => p.1.hashKey⟩ := by
  induction ps generalizing pos with
  | nil =>
    simp [spell, placed]
  | cons p ps ih =>
    have hrest : ∀ q ∈ ps.dropLast, q.2.text ≠ "" := by
      intro q hq
      cases ps with
      | nil => cases hq
      | cons r ps => exact hps q (by simpa using List.mem_cons_of_mem p hq)
    -- behind the lexeme comes a separator that is not empty, or only the end
    have hafter : p.2.text.toList ++ (spell ps).toList = [] ∨
        ∃ d r, p.2.text.toList ++ (spell ps).toList = d :: r ∧ Breaks d := by
      rcases p.2.separator.breaks with hnil | ⟨d, r, hcons, hd⟩
      · cases ps with
        | nil => exact .inl (by simp [hnil, spell])
        | cons r ps => exact absurd (String.toList_eq_nil_iff.1 hnil) (hps p (by simp))
      · exact .inr ⟨d, r ++ (spell ps).toList, by rw [hcons, List.cons_append], hd⟩
    have hlexeme := p.1.readFrom_append hafter pos
    rw [readFrom_separator p.2.separator, ih hrest] at hlexeme
    rw [spell, String.toList_append, String.toList_append, hlexeme]
    rfl

theorem readFrom_writing (w : Writing) :
    readFrom 0 w.text.toList = ⟨w.tokens, [], w.lexemes.map Lexeme.hashKey⟩ := by
  rw [Writing.text, String.toList_append, readFrom_separator w.first.separator, Nat.zero_add,
    readFrom_spell w.parted, Writing.lexemes, List.map_map]
  rfl

theorem texts_placed (pos : Nat) (ps : List (Lexeme × Gap)) :
    (placed pos ps).map Token.text = ps.map fun p => p.1.token.text := by
  induction ps generalizing pos with
  | nil => rfl
  | cons p ps ih => simp [placed, ih, Token.movedTo]

/-- Lexemes that are written down are read as they stand: without normal forms, or if all of it is ASCII. -/
theorem sourceText_writing (w : Writing) {normalize : Bool} (h : normalize = false ∨ isAscii w.text = true) :
    sourceText w.text normalize = w.text := by
  have hread := toList_sourceText h
  rcases stripMark_cases w.text.toList with hmark | hplain
  · -- a byte order mark at the beginning would be a flaw
    have hproblems : (readFrom 0 w.text.toList).problems = [] := by rw [readFrom_writing]
    obtain ⟨text, ps, hps⟩ := exists_joinStrays_stray ['\uFEFF'] (Piece.cut (stripMark w.text.toList))
    rw [hmark, readFrom, cut_mark, hps] at hproblems
    cases hproblems
  · rw [hplain] at hread
    exact String.toList_inj.1 hread

/-- Lexemes that are written down are read back, each where it stands, with what it is hashed by, and without flaws.
So texts that are read of the same lexemes have the same values and hash keys, whatever stands between the lexemes. -/
theorem scan_writing (w : Writing) :
    scan w.text = (w.tokens, []) ∧
      (tokenize w.text).map (·.hashKey w.text) = w.lexemes.map Lexeme.hashKey ∧
      (∀ o : Options, o.check = .ok () → o.normalizeUnicode = false ∨ isAscii w.text = true →
        lex w.text o = .ok ⟨w.text, w.tokens, [], o.version⟩) ∧
      ∀ w' : Writing, w'.lexemes.map Lexeme.text = w.lexemes.map Lexeme.text →
        ∀ (source source' : String) (o o' : Options) (s s' : Stream),
          lex source o = .ok s → lex source' o' = .ok s' → s.text = w.text → s'.text = w'.text →
            s.values = s'.values ∧ s.hashKeys = s'.hashKeys := by
  have htokens : ∀ w : Writing, scan w.text = (w.tokens, []) := by
    intro w
    rw [scan_eq_readFrom, readFrom_writing]
  have hkeys : ∀ w : Writing, hashKeys w.text.toList = w.lexemes.map Lexeme.hashKey := by
    intro w
    rw [hashKeys_eq_readFrom, readFrom_writing]
  refine ⟨htokens w, ?_, ?_, ?_⟩
  · rw [tokenize, map_hashKey_scan, hkeys]
  · intro o ho hplain
    rw [lex, ho, sourceText_writing w hplain]
    simp [bind, Except.bind, pure, Except.pure, htokens]
  · intro w' hlexemes source source' o o' s s' hs hs' htext htext'
    have hsame : w'.lexemes = w.lexemes :=
      List.map_injective_iff.2 (fun _ _ => Lexeme.eq_of_text_eq) hlexemes
    have hvalues : ∀ w : Writing, w.tokens.map Token.text = w.lexemes.map fun l => l.token.text := by
      intro w
      rw [Writing.tokens, texts_placed, Writing.lexemes, List.map_map]
      rfl
    obtain ⟨-, hread, -⟩ := lex_eq_ok hs
    obtain ⟨-, hread', -⟩ := lex_eq_ok hs'
    constructor
    · rw [Stream.values, Stream.values, hread, hread', htext, htext', htokens, htokens, hvalues, hvalues, hsame]
    · rw [hashKeys_of_lex hs, hashKeys_of_lex hs', htext, htext', hkeys, hkeys, hsame]

/-! ### An assignment in two layouts -/

/-- A text that is read as one token of a kind. -/
def Lexeme.ofScan (text : String) (kind : Kind) (scan_eq : scan text = ([Token.spelt kind text.toList 0], []))
    (kind_ne : kind ≠ .error) : Lexeme where
  text := text
  token := Token.spelt kind text.toList 0
  scan_eq := scan_eq
  kind_ne := kind_ne
  start_eq := rfl
  stop_eq := Nat.zero_add _

/-- The lexemes of `x += .5e3`, with separators around them. -/
def increase (first second third last : Gap) (hsecond : second.text ≠ "") (hthird : third.text ≠ "") : Writing where
  first := first
  parts := [(.ofScan "x" .identifier (by decide +kernel) (by decide), second),
    (.ofScan "+=" .operator (by decide +kernel) (by decide), third),
    (.ofScan ".5e3" .numberLiteral (by decide +kernel) (by decide), last)]
  parted := by simp [hsecond, hthird]

def Gap.none : Gap := ⟨"", .nil⟩

def Gap.space : Gap := ⟨" ", .blank (by decide) .nil⟩

/-- A joined line. -/
def Gap.joined : Gap := ⟨"\\\n", .join .nil⟩

/-- The end of a line with a remark. -/
def Gap.remark : Gap := ⟨" # x\n", .blank (by decide) (.comment (by decide : '\n' ∉ [' ', 'x']) .nil)⟩

theorem scan_writing_increase :
    ∃ s s', lex "x += .5e3" {} = .ok s ∧ lex " # x\nx\\\n+= # x\n.5e3 # x\n" {} = .ok s' ∧
      s.tokens ≠ s'.tokens ∧ s.problems = [] ∧ s'.problems = [] ∧ s.values = s'.values ∧ s.hashKeys = s'.hashKeys := by
  obtain ⟨-, -, hlex, hsame⟩ := scan_writing (increase .none .space .space .none (by decide) (by decide))
  obtain ⟨-, -, hlex', -⟩ := scan_writing (increase .remark .joined .remark .remark (by decide) (by decide))
  have hread := hlex {} rfl (.inr (by decide))
  have hread' := hlex' {} rfl (.inr (by decide))
  have hequal := hsame (increase .remark .joined .remark .remark (by decide) (by decide)) rfl
    _ _ _ _ _ _ hread hread' rfl rfl
  exact ⟨_, _, hread, hread', by decide, rfl, rfl, hequal⟩

end Likeness.Lex
