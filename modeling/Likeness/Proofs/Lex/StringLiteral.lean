import Likeness.Proofs.Lex.Lines
import Likeness.Proofs.Lex.Marks

/-!
# String literals are read whole

A string literal (`StringLiteral`) is letters, an opening delimiter of one quote or of three, items, and the same
delimiter again. What stands behind the opening quotes is closed by the last delimiter and by nothing before it
(`closes_items`), so that one token takes the literal and nothing more (`StringLiteral.reads_whole`).
-/

namespace Likeness.Lex

open Text (byteSize)

/-! ### Items -/

/-- An item of the inside of a string literal: a character behind a backslash, or one by itself. -/
inductive Item where
  | escaped (c : Char)
  | plain (c : Char)
deriving DecidableEq, Repr

namespace Item

/-- How an item is spelt. -/
def text : Item → List Char
  | escaped c => ['\\', c]
  | plain c => [c]

end Item

/-- A quote at the beginning of items is an item by itself. -/
theorem head?_of_quote_prefix {q : Char} (hq : q ≠ '\\') {items : List Item} {w u : List Char}
    (h : q :: w <+: items.flatMap Item.text ++ u) :
    items = [] ∨ ∃ rest, items = .plain q :: rest ∧ w <+: rest.flatMap Item.text ++ u := by
  cases items with
  | nil => exact .inl rfl
  | cons item rest =>
    cases item with
    | escaped c => exact absurd (List.cons_prefix_cons.1 h).1 hq
    | plain c =>
      obtain ⟨rfl, hrest⟩ := List.cons_prefix_cons.1 h
      exact .inr ⟨rest, rfl, hrest⟩

section Closes

variable {q : Char} {items : List Item} (hslash : .plain '\\' ∉ items)

include hslash

/-- One quote closes items that have neither the quote nor a line end. -/
theorem closes_items_one (hquote : .plain q ∉ items) (hline : .plain '\n' ∉ items) :
    Closes q false (items.flatMap Item.text ++ [q]) := by
  induction items with
  | nil => exact .one
  | cons item items ih =>
    simp only [List.mem_cons, not_or] at hslash hquote hline
    have hrest := ih hslash.2 hquote.2 hline.2
    cases item with
    | escaped c => exact .escaped hrest
    | plain c =>
      have hc : c ≠ '\\' := fun h => hslash.1 (by rw [h])
      refine .inner hc (fun _ => ⟨fun h => hquote.1 (by rw [h]), fun h => hline.1 (by rw [h])⟩) (fun h => by cases h) hrest

/-- Three quotes close items that do not have three of them one after another, and not one at the end. -/
theorem closes_items_three (hq : q ≠ '\\') (hinner : ¬ [.plain q, .plain q, .plain q] <:+: items)
    (hlast : items.getLast? ≠ some (.plain q)) : Closes q true (items.flatMap Item.text ++ [q, q, q]) := by
  induction items with
  | nil => exact .three
  | cons item items ih =>
    simp only [List.mem_cons, not_or] at hslash
    have hlast' : items.getLast? ≠ some (.plain q) := by
      intro h
      rw [List.getLast?_cons, h] at hlast
      exact hlast rfl
    have hrest := ih hslash.2 (fun h => hinner (List.infix_cons h)) hlast'
    cases item with
    | escaped c => exact .escaped hrest
    | plain c =>
      have hc : c ≠ '\\' := fun h => hslash.1 (by rw [h])
      refine .inner hc (fun h => by cases h) (fun _ hthree => ?_) hrest
      -- three quotes would be three items, or fewer at the end
      obtain ⟨rfl, htwo⟩ := List.cons_prefix_cons.1 hthree
      rcases head?_of_quote_prefix hq htwo with rfl | ⟨rest, rfl, hone⟩
      · exact hlast rfl
      rcases head?_of_quote_prefix hq hone with rfl | ⟨rest, rfl, -⟩
      · exact hlast rfl
      · exact hinner ⟨[], rest, rfl⟩

end Closes

/-! ### Prefixes -/

theorem toNat_of_toLower {c l : Char} (h : c.toLower = l) : c = l ∨ c.toNat + 32 = l.toNat := by
  unfold Char.toLower at h
  split at h
  · rename_i hupper
    have hle : c.toNat ≤ 90 := hupper.2
    have hval := congrArg (fun x : Char => x.val.toNat) h
    simp [UInt32.toNat_add] at hval
    exact .inr (by omega)
  · exact .inl h

theorem isPrefixLetter_of_toLower {c : Char} (h : c.toLower ∈ ['r', 'u', 'b', 'f']) : isPrefixLetter c = true := by
  have hcase : ∀ {l u : Char}, c.toLower = l → u.toNat + 32 = l.toNat → c = l ∨ c = u := by
    intro l u hl hu
    refine (toNat_of_toLower hl).imp_right fun h => ?_
    exact Char.toNat_inj.1 (by omega)
  simp only [List.mem_cons, List.not_mem_nil, or_false] at h
  rcases h with h | h | h | h
  · rcases hcase (u := 'R') h rfl with rfl | rfl <;> rfl
  · rcases hcase (u := 'U') h rfl with rfl | rfl <;> rfl
  · rcases hcase (u := 'B') h rfl with rfl | rfl <;> rfl
  · rcases hcase (u := 'F') h rfl with rfl | rfl <;> rfl

theorem splitPrefix_of_letters {letters : List Char} (h : letters.map Char.toLower ∈ stringPrefixes) {q : Char}
    (hq : isQuote q = true) (r : List Char) : splitPrefix (letters ++ q :: r) = some (letters, q, r) := by
  have hshort : letters.length ≤ 2 := by
    have hall : ∀ p ∈ stringPrefixes, p.length ≤ 2 := by decide
    simpa using hall _ h
  have hletters : ∀ l ∈ letters, isPrefixLetter l = true := by
    have hall : stringPrefixes.all (fun p => p.all fun l => ['r', 'u', 'b', 'f'].contains l) = true := by decide
    have hlower := List.all_eq_true.1 (List.all_eq_true.1 hall _ h)
    exact fun l hl => isPrefixLetter_of_toLower (List.contains_iff_mem.1 (hlower _ (List.mem_map_of_mem hl)))
  have hstop := not_isPrefixLetter_of_isQuote hq
  have htake : ((letters ++ q :: r).take 2).takeWhile isPrefixLetter = letters := by
    match letters, hshort with
    | [], _ => simp [hstop]
    | [a], _ => simp [hletters a, hstop]
    | [a, b], _ => simp [hletters a, hletters b]
  simp [splitPrefix, htake, hq, h]

/-! ### Literals -/

/-- A string literal by its parts. -/
structure StringLiteral where
  letters : List Char
  quote : Char
  /-- Whether the delimiter is three quotes, and not one. -/
  triple : Bool
  body : List Item
  letters_mem : letters.map Char.toLower ∈
    [[], ['r'], ['u'], ['b'], ['f'], ['b', 'r'], ['r', 'b'], ['f', 'r'], ['r', 'f']]
  quote_eq : quote = '\'' ∨ quote = '"'
  no_slash : .plain '\\' ∉ body
  single : triple = false → .plain quote ∉ body ∧ .plain '\n' ∉ body
  inner : triple = true →
    ¬ [.plain quote, .plain quote, .plain quote] <:+: body ∧ body.getLast? ≠ some (.plain quote)

namespace StringLiteral

variable (l : StringLiteral)

/-- What stands before and behind the items. -/
def delimiter : List Char := if l.triple then [l.quote, l.quote, l.quote] else [l.quote]

/-- How a literal is spelt. -/
def text : List Char := l.letters ++ (l.delimiter ++ (l.body.flatMap Item.text ++ l.delimiter))

/-- What stands behind the first opening quote. -/
def behindQuote : List Char := l.delimiter.tail ++ (l.body.flatMap Item.text ++ l.delimiter)

theorem text_eq : l.text = l.letters ++ l.quote :: l.behindQuote := by
  unfold text behindQuote delimiter
  cases l.triple <;> rfl

theorem isQuote_quote : isQuote l.quote = true := isQuote_iff.2 l.quote_eq

theorem splitString_behindQuote : splitString l.quote l.behindQuote = (l.behindQuote, true, []) := by
  have hq := ne_backslash_of_isQuote l.isQuote_quote
  apply splitString_of_closes hq
  unfold behindQuote delimiter
  cases htriple : l.triple with
  | false =>
    obtain ⟨hquote, hline⟩ := l.single htriple
    exact .inl (closes_items_one l.no_slash hquote hline)
  | true =>
    obtain ⟨hinner, hlast⟩ := l.inner htriple
    exact .inr ⟨_, rfl, closes_items_three l.no_slash hq hinner hlast⟩

/-- Only a literal that is empty between two quotes has one quote behind the first. -/
theorem of_behindQuote_eq (h : l.behindQuote = [l.quote]) : l.triple = false ∧ l.body = [] := by
  unfold behindQuote delimiter at h
  cases htriple : l.triple with
  | true => simp [htriple] at h
  | false =>
    refine ⟨rfl, ?_⟩
    cases hbody : l.body with
    | nil => rfl
    | cons item items => cases item <;> simp [htriple, hbody, Item.text] at h

/-- A string literal is read as one token, which takes all of it and nothing more, whatever stands behind it. Behind
two quotes that are a literal no third one may stand. -/
theorem reads_whole {after : List Char} (h : l.triple = false → l.body = [] → after.head? ≠ some l.quote) :
    ReadsWhole .stringLiteral l.text after := by
  have hstring : splitString l.quote (l.behindQuote ++ after) = (l.behindQuote, true, after) :=
    splitString_append_of_closed (ne_backslash_of_isQuote l.isQuote_quote) l.splitString_behindQuote fun hempty =>
      h (l.of_behindQuote_eq hempty).1 (l.of_behindQuote_eq hempty).2
  have hprefix : splitPrefix (l.text ++ after) = some (l.letters, l.quote, l.behindQuote ++ after) := by
    rw [text_eq, List.append_assoc, List.cons_append]
    exact splitPrefix_of_letters l.letters_mem l.isQuote_quote _
  have htext := l.text_eq
  obtain ⟨c, cs, hcons⟩ : ∃ c cs, l.text = c :: cs := List.exists_cons_of_ne_nil (by simp [htext])
  rw [hcons, List.cons_append] at hprefix
  have hnext := Piece.next_string hprefix
  rw [hstring, ← htext, hcons] at hnext
  rw [hcons]
  exact readsWhole_of_next hnext rfl ⟨by simp, by simp⟩

/-- The literal `Rb''`, before a quote of the other sort. -/
theorem reads_whole_empty :
    ∃ l : StringLiteral, l.text = "Rb''".toList ∧ (l.triple = false → l.body = [] → "\"".toList.head? ≠ some l.quote) ∧
      ReadsWhole .stringLiteral l.text "\"".toList := by
  let l : StringLiteral :=
    { letters := ['R', 'b'], quote := '\'', triple := false, body := [], letters_mem := by decide,
      quote_eq := .inl rfl, no_slash := by decide, single := by decide, inner := by decide }
  have hafter : l.triple = false → l.body = [] → "\"".toList.head? ≠ some l.quote := by decide
  exact ⟨l, by decide, hafter, l.reads_whole hafter⟩

end StringLiteral
end Likeness.Lex
