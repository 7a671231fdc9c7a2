import Mathlib.Data.List.TakeDrop
import Mathlib.Data.List.TakeWhile
import Mathlib.Tactic.Common
import Likeness.Lex.Piece

/-!
# String literals at the beginning of a text

A string literal that is split off is closed exactly if its spelling has the quotes that close it
(`hasClosing_iff`), where `HasClosing` speaks of the spelling alone. It stays the same when more text is
put behind, unless it is unclosed and takes the whole text (`splitString_carry`).
-/

namespace Likeness.Lex

/-! ### Bodies -/

theorem startsDouble_iff {q : Char} {cs : List Char} : startsDouble q cs = true ↔ ∃ r, cs = q :: q :: r := by
  unfold startsDouble
  split
  · rename_i a b r
    simp
  · rename_i h
    simp only [Bool.false_eq_true, false_iff]
    rintro ⟨r, rfl⟩
    exact h q q r rfl

theorem splitBody_cons {c : Char} (hc : c ≠ '\\') (q : Char) (t : Bool) (cs : List Char) :
    splitBody q t (c :: cs) =
      if t && (c == q && startsDouble q cs) then ([q, q, q], true, cs.drop 2)
      else if !t && c == q then ([q], true, cs)
      else if !t && c == '\n' then ([], false, c :: cs)
      else (c :: (splitBody q t cs).1, (splitBody q t cs).2) := by
  rw [splitBody]
  · cases t <;> rfl
  · intro c' cs' h
    exact absurd h hc

/-- A backslash is a character of its own only at the end of the text. -/
theorem ne_backslash {c : Char} {cs : List Char} (hesc : ∀ c' cs', c = '\\' → cs = c' :: cs' → False)
    (hcs : cs ≠ []) : c ≠ '\\' := by
  rintro rfl
  obtain ⟨c', cs', rfl⟩ := List.exists_cons_of_ne_nil hcs
  exact hesc c' cs' rfl rfl

theorem splitBody_append (q : Char) (t : Bool) (cs : List Char) :
    (splitBody q t cs).1 ++ (splitBody q t cs).2.2 = cs := by
  fun_induction splitBody q t cs with
  | case1 => rfl
  | case2 c cs body closed rest e ih => simp_all
  | case3 c cs _ ht hclose =>
    obtain ⟨hc, hdouble⟩ := Bool.and_eq_true_iff.1 hclose
    obtain ⟨r, rfl⟩ := startsDouble_iff.1 hdouble
    simp [eq_of_beq hc]
  | case4 c cs _ ht _ body closed rest e ih => simp_all
  | case5 c cs _ ht hc => simp [eq_of_beq hc]
  | case6 c cs _ ht _ hc => rfl
  | case7 c cs _ ht _ _ body closed rest e ih => simp_all

/-- A text of one character or none does not close a string in triple quotes. -/
theorem splitBody_of_short {q : Char} {cs : List Char} (hcs : cs.length < 2) :
    (splitBody q true cs).2 = (false, []) := by
  match cs with
  | [] => rfl
  | [c] => simp [splitBody, startsDouble]

theorem startsDouble_append {q : Char} {cs : List Char} (hcs : 2 ≤ cs.length) (r : List Char) :
    startsDouble q (cs ++ r) = startsDouble q cs := by
  match cs with
  | a :: b :: cs => rfl

theorem startsDouble_carry {q d : Char} (hd : d ≠ q) (cs r : List Char) :
    startsDouble q (cs ++ d :: r) = startsDouble q cs := by
  match cs with
  | [] => cases r <;> simp [startsDouble, hd]
  | [c] => simp [startsDouble, hd]
  | a :: b :: cs => rfl

theorem splitBody_carry {q : Char} (hq : q ≠ '\\') {t : Bool} {cs : List Char} (r : List Char)
    (h : (splitBody q t cs).2.1 = true ∨ (splitBody q t cs).2.2 ≠ []) :
    splitBody q t (cs ++ r) =
      ((splitBody q t cs).1, (splitBody q t cs).2.1, (splitBody q t cs).2.2 ++ r) := by
  fun_induction splitBody q t cs with
  | case1 => simp at h
  | case2 c cs body closed rest e ih =>
    rw [e] at ih
    simp [splitBody, ih h]
  | case3 c cs hesc ht hclose =>
    obtain ⟨hc, hdouble⟩ := Bool.and_eq_true_iff.1 hclose
    obtain ⟨cs, rfl⟩ := startsDouble_iff.1 hdouble
    obtain rfl := eq_of_beq hc
    rw [List.cons_append, splitBody_cons hq]
    simp [ht, startsDouble]
  | case4 c cs hesc ht hclose body closed rest e ih =>
    rw [e] at ih
    -- with fewer than two characters left the string would stay open
    have hlong : 2 ≤ cs.length := by
      by_contra hshort
      have hopen : (splitBody q true cs).2 = (false, []) := splitBody_of_short (by omega)
      rw [← ht, e] at hopen
      obtain ⟨rfl, rfl⟩ := Prod.mk.inj hopen
      simp at h
    have hc : c ≠ '\\' := ne_backslash hesc (by rintro rfl; simp at hlong)
    rw [List.cons_append, splitBody_cons hc, startsDouble_append hlong, ih h]
    simp [ht, hclose]
  | case5 c cs hesc ht hc =>
    obtain rfl := eq_of_beq hc
    rw [List.cons_append, splitBody_cons hq]
    simp [ht]
  | case6 c cs hesc ht hc hline =>
    obtain rfl := eq_of_beq hline
    have hne : '\n' ≠ q := by simpa using hc
    rw [List.cons_append, splitBody_cons (by decide)]
    simp [ht, hne]
  | case7 c cs hesc ht hc hline body closed rest e ih =>
    rw [e] at ih
    have hne : cs ≠ [] := by
      rintro rfl
      obtain ⟨rfl, rfl, rfl⟩ : body = [] ∧ closed = false ∧ rest = [] := by simpa [splitBody] using e
      simp at h
    have hc : c ≠ '\\' := ne_backslash hesc hne
    rw [List.cons_append, splitBody_cons hc, ih h]
    simp_all

/-! ### Behind the opening quote -/

theorem splitString_append (q : Char) (cs : List Char) :
    (splitString q cs).1 ++ (splitString q cs).2.2 = cs := by
  rw [splitString]
  split
  · rename_i hdouble
    obtain ⟨r, rfl⟩ := startsDouble_iff.1 hdouble
    simp [splitBody_append]
  · exact splitBody_append q false cs

theorem splitString_carry {q d : Char} (hq : q ≠ '\\') (hd : d ≠ q) (cs r : List Char)
    (h : (splitString q cs).2.1 = true ∨ (splitString q cs).2.2 ≠ []) :
    splitString q (cs ++ d :: r) =
      ((splitString q cs).1, (splitString q cs).2.1, (splitString q cs).2.2 ++ d :: r) := by
  unfold splitString at h ⊢
  rw [startsDouble_carry hd]
  split at h
  · rename_i hstart
    obtain ⟨cs, rfl⟩ := startsDouble_iff.1 hstart
    have hcarry := splitBody_carry hq (d :: r) h
    simp [startsDouble] at hcarry ⊢
    simp [hcarry]
  · rename_i hstart
    rw [if_neg hstart, if_neg hstart]
    exact splitBody_carry hq (d :: r) h

/-! ### Closing quotes -/

/-- What stands behind the opening quotes of a string ends with the quotes that close it, and they come up only
there. A character behind a backslash counts for nothing. `triple` tells that there are three quotes. -/
inductive Closes (q : Char) : (triple : Bool) → List Char → Prop
  | one : Closes q false [q]
  | three : Closes q true [q, q, q]
  | escaped {triple : Bool} {c : Char} {cs : List Char} : Closes q triple cs → Closes q triple ('\\' :: c :: cs)
  | inner {triple : Bool} {c : Char} {cs : List Char} : c ≠ '\\' →
      (triple = false → c ≠ q ∧ c ≠ '\n') → (triple = true → ¬ [q, q, q] <+: c :: cs) →
      Closes q triple cs → Closes q triple (c :: cs)

/-- The spelling of a string literal with its closing quotes. -/
def HasClosing (literal : List Char) : Prop :=
  ∃ letters q body, isQuote q = true ∧ (∀ l ∈ letters, isPrefixLetter l = true) ∧
    (literal = letters ++ q :: body ∧ Closes q false body ∨
      literal = letters ++ [q, q, q] ++ body ∧ Closes q true body)

theorem Closes.ne_nil {q : Char} {t : Bool} {cs : List Char} (h : Closes q t cs) : cs ≠ [] := by
  rintro rfl
  cases h

theorem closes_escaped_iff {q : Char} (hq : q ≠ '\\') {t : Bool} {c : Char} {cs : List Char} :
    Closes q t ('\\' :: c :: cs) ↔ Closes q t cs := by
  constructor
  · intro h
    cases h with
    | three => exact absurd rfl hq
    | escaped h => exact h
    | inner hc => exact absurd rfl hc
  · exact Closes.escaped

/-- The body that is split off is closed exactly if this is said. -/
theorem closes_splitBody_iff {q : Char} (hq : q ≠ '\\') (t : Bool) (cs : List Char) :
    Closes q t (splitBody q t cs).1 ↔ (splitBody q t cs).2.1 = true := by
  have happend := splitBody_append q t cs
  fun_induction splitBody q t cs with
  | case1 => exact ⟨fun h => absurd rfl h.ne_nil, fun h => by cases h⟩
  | case2 c cs body closed rest e ih =>
    rw [e] at ih
    rw [closes_escaped_iff hq]
    exact ih (by simpa using happend)
  | case3 c cs hesc ht hclose => simp [ht, Closes.three]
  | case4 c cs hesc ht hclose body closed rest e ih =>
    rw [e] at ih
    have hbody : body ++ rest = cs := by simpa using happend
    have hthree : ¬ [q, q, q] <+: c :: body := by
      rintro ⟨r, hr⟩
      obtain ⟨rfl, rfl⟩ := List.cons.inj hr
      simp [← hbody, startsDouble] at hclose
    refine Iff.trans ⟨?_, ?_⟩ (ih hbody)
    · intro h
      cases h with
      | one => cases ht
      | three => exact absurd ⟨[], rfl⟩ hthree
      | escaped h => exact absurd hbody.symm (hesc _ _ rfl)
      | inner _ _ _ h => exact h
    · intro h
      have hne : cs ≠ [] := hbody ▸ List.append_ne_nil_of_left_ne_nil h.ne_nil _
      exact .inner (ne_backslash hesc hne) (fun h => by rw [ht] at h; cases h) (fun _ => hthree) h
  | case5 c cs hesc ht hc =>
    have ht : t = false := by simpa using ht
    subst ht
    simp [Closes.one]
  | case6 c cs hesc ht hc hline => exact ⟨fun h => absurd rfl h.ne_nil, fun h => by cases h⟩
  | case7 c cs hesc ht hc hline body closed rest e ih =>
    rw [e] at ih
    have hbody : body ++ rest = cs := by simpa using happend
    have ht : t = false := by simpa using ht
    have hc : c ≠ q := by simpa using hc
    have hline : c ≠ '\n' := by simpa using hline
    subst ht
    refine Iff.trans ⟨?_, ?_⟩ (ih hbody)
    · intro h
      cases h with
      | one => exact absurd rfl hc
      | escaped h => exact absurd hbody.symm (hesc _ _ rfl)
      | inner _ _ _ h => exact h
    · intro h
      have hne : cs ≠ [] := hbody ▸ List.append_ne_nil_of_left_ne_nil h.ne_nil _
      exact .inner (ne_backslash hesc hne) (fun _ => ⟨hc, hline⟩) (fun h => by cases h) h

/-! ### Prefixes -/

theorem isQuote_iff {q : Char} : isQuote q = true ↔ q = '\'' ∨ q = '"' := by
  simp [isQuote]

theorem splitPrefix_eq_some {cs letters rest : List Char} {q : Char} (h : splitPrefix cs = some (letters, q, rest)) :
    cs = letters ++ q :: rest ∧ (∀ l ∈ letters, isPrefixLetter l = true) ∧ isQuote q = true := by
  unfold splitPrefix at h
  have hprefix : (cs.take 2).takeWhile isPrefixLetter <+: cs :=
    (List.takeWhile_prefix _).trans (List.take_prefix 2 cs)
  simp only at h
  split at h
  · rename_i q' rest' e
    split at h
    · rename_i hok
      obtain ⟨rfl, rfl, rfl⟩ : _ ∧ q' = q ∧ rest' = rest := by simpa using h
      refine ⟨?_, fun l hl => List.mem_takeWhile_imp hl, ?_⟩
      · rw [← e]
        exact (List.prefix_iff_eq_append.1 hprefix).symm
      · simp at hok
        exact hok.1
    · cases h
  · cases h

theorem splitPrefix_carry {d : Char} (hd : isPrefixLetter d = false) (hq : isQuote d = false) (cs r : List Char) :
    splitPrefix (cs ++ d :: r) = (splitPrefix cs).map (Prod.map id (Prod.map id (· ++ d :: r))) := by
  have hprefix : (cs.take 2).takeWhile isPrefixLetter <+: cs :=
    (List.takeWhile_prefix _).trans (List.take_prefix 2 cs)
  have hletters : ((cs ++ d :: r).take 2).takeWhile isPrefixLetter = (cs.take 2).takeWhile isPrefixLetter := by
    match cs with
    | [] => simp [hd]
    | [a] => by_cases ha : isPrefixLetter a = true <;> simp [ha, hd]
    | a :: b :: cs => rfl
  unfold splitPrefix
  rw [hletters]
  simp only [List.drop_append_of_le_length hprefix.length_le]
  cases cs.drop ((cs.take 2).takeWhile isPrefixLetter).length with
  | nil => simp [hq]
  | cons q rest =>
    simp only [List.cons_append]
    split <;> simp

/-! ### Whole literals -/

theorem not_isPrefixLetter_of_isQuote {q : Char} (hq : isQuote q = true) : isPrefixLetter q = false := by
  rcases isQuote_iff.1 hq with rfl | rfl <;> decide

/-- The letters and the quote at the beginning of a string literal are told by themselves. -/
theorem splitPrefix_behind {cs letters rest : List Char} {q : Char} (h : splitPrefix cs = some (letters, q, rest))
    (r : List Char) : splitPrefix (letters ++ q :: r) = some (letters, q, r) := by
  obtain ⟨-, hletters, hq⟩ := splitPrefix_eq_some h
  have hstop := not_isPrefixLetter_of_isQuote hq
  have hknown : stringPrefixes.contains (letters.map Char.toLower) = true := by
    unfold splitPrefix at h
    simp only at h
    split at h
    · split at h
      · rename_i hok
        obtain ⟨rfl, -, -⟩ : _ ∧ _ ∧ _ := by simpa using h
        exact (Bool.and_eq_true_iff.1 hok).2
      · cases h
    · cases h
  have htake : ((letters ++ q :: r).take 2).takeWhile isPrefixLetter = letters := by
    have hshort : ∀ p ∈ stringPrefixes, p.length ≤ 2 := by decide
    have hlen := hshort _ (List.contains_iff_mem.1 hknown)
    rw [List.length_map] at hlen
    match letters with
    | [] => cases r <;> simp [hstop]
    | [a] => simp [hletters a (by simp), hstop]
    | [a, b] => simp [hletters a (by simp), hletters b (by simp)]
    | a :: b :: c :: ls => simp at hlen
  simp only [splitPrefix, htake, List.drop_left]
  rw [if_pos (by rw [hq, hknown]; rfl)]

theorem splitPrefix_append {cs letters rest : List Char} {q : Char} (h : splitPrefix cs = some (letters, q, rest))
    (r : List Char) : splitPrefix (cs ++ r) = some (letters, q, rest ++ r) := by
  have hbehind := splitPrefix_behind h (rest ++ r)
  rwa [← List.cons_append, ← List.append_assoc, ← (splitPrefix_eq_some h).1] at hbehind

theorem ne_backslash_of_isQuote {q : Char} (hq : isQuote q = true) : q ≠ '\\' := by
  rintro rfl
  exact absurd hq (by decide)

/-- The letters before the first quote are told by the spelling. -/
theorem letters_inj {letters letters' body body' : List Char} {q q' : Char}
    (hl : ∀ l ∈ letters, isPrefixLetter l = true) (hl' : ∀ l ∈ letters', isPrefixLetter l = true)
    (hq : isQuote q = true) (hq' : isQuote q' = true) (h : letters ++ q :: body = letters' ++ q' :: body') :
    letters = letters' ∧ q = q' ∧ body = body' := by
  have htake : ∀ {ls : List Char} {p : Char} {b : List Char}, (∀ l ∈ ls, isPrefixLetter l = true) →
      isQuote p = true → (ls ++ p :: b).takeWhile isPrefixLetter = ls := by
    intro ls p b hls hp
    rw [List.takeWhile_append_of_pos hls, List.takeWhile_cons_of_neg (by simp [not_isPrefixLetter_of_isQuote hp]),
      List.append_nil]
  have hletters : letters = letters' := by rw [← htake (b := body) hl hq, h, htake hl' hq']
  subst hletters
  obtain ⟨rfl, rfl⟩ := List.cons.inj (List.append_cancel_left h)
  exact ⟨rfl, rfl, rfl⟩

/-- Behind one opening quote nothing closes that begins with two more quotes. -/
theorem not_closes_double {q : Char} (hq : q ≠ '\\') {cs : List Char} : ¬ Closes q false (q :: q :: cs) := by
  intro h
  cases h with
  | escaped => exact hq rfl
  | inner _ hc => exact (hc rfl).1 rfl

/-- Behind its letters and its opening quote, a literal is closed by one quote or by three. -/
theorem hasClosing_letters_iff {letters : List Char} {q : Char} (hl : ∀ l ∈ letters, isPrefixLetter l = true)
    (hq : isQuote q = true) (behind : List Char) :
    HasClosing (letters ++ q :: behind) ↔
      Closes q false behind ∨ ∃ body, behind = q :: q :: body ∧ Closes q true body := by
  constructor
  · rintro ⟨letters', q', body, hq', hl', ⟨h, hbody⟩ | ⟨h, hbody⟩⟩
    · obtain ⟨-, rfl, rfl⟩ := letters_inj hl hl' hq hq' h
      exact .inl hbody
    · rw [List.append_assoc] at h
      obtain ⟨-, rfl, e⟩ := letters_inj hl hl' hq hq' h
      exact .inr ⟨body, e, hbody⟩
  · rintro (hbody | ⟨body, e, hbody⟩)
    · exact ⟨letters, q, _, hq, hl, .inl ⟨rfl, hbody⟩⟩
    · exact ⟨letters, q, body, hq, hl, .inr ⟨by simp [e], hbody⟩⟩

theorem hasClosing_iff {letters : List Char} {q : Char} (hl : ∀ l ∈ letters, isPrefixLetter l = true)
    (hq : isQuote q = true) (rest : List Char) :
    HasClosing (letters ++ q :: (splitString q rest).1) ↔ (splitString q rest).2.1 = true := by
  have hslash := ne_backslash_of_isQuote hq
  rw [hasClosing_letters_iff hl hq, splitString]
  by_cases hdouble : startsDouble q rest = true
  · rw [if_pos hdouble, ← closes_splitBody_iff hslash]
    simp [not_closes_double hslash]
  · rw [if_neg hdouble, ← closes_splitBody_iff hslash]
    refine ⟨fun h => ?_, .inl⟩
    obtain hbody | ⟨body, e, -⟩ := h
    · exact hbody
    · have happend := splitBody_append q false rest
      rw [e] at happend
      exact absurd (startsDouble_iff.2 ⟨_, happend.symm⟩) hdouble

end Likeness.Lex
