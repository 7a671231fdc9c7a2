import Likeness.Proofs.Lex.Piece

/-!
# The pieces of a text

A text is cut piece after piece (`cut_cons`), and the pieces make it up (`makesUp_cut`). A line end cuts
a text in two: what stands before it and what stands behind it are cut each for itself
(`cut_append_newline`), if the text before it is settled.
-/

namespace Likeness.Lex.Piece

/-! ### Piece after piece -/

theorem next_rest_length (c : Char) (cs : List Char) : (next c cs).2.2.length ≤ cs.length := by
  obtain ⟨happend, hne, -⟩ := next_spec c cs
  have hlen := congrArg List.length happend
  have hpos := List.length_pos_iff.2 hne
  simp at hlen
  omega

theorem cutWith_cons (fuel : Nat) (c : Char) (cs : List Char) :
    cutWith (fuel + 1) (c :: cs) = ((next c cs).1, (next c cs).2.1) :: cutWith fuel (next c cs).2.2 := rfl

/-- The fuel does not show as long as it lasts. -/
theorem cutWith_eq_cut {fuel : Nat} {cs : List Char} (h : cs.length ≤ fuel) : cutWith fuel cs = cut cs := by
  have hagree : ∀ {m n : Nat} {ds : List Char}, ds.length ≤ m → ds.length ≤ n →
      cutWith m ds = cutWith n ds := by
    intro m
    induction m with
    | zero =>
      intro n ds hm hn
      obtain rfl := List.length_eq_zero_iff.1 (Nat.le_zero.1 hm)
      cases n <;> rfl
    | succ m ih =>
      intro n ds hm hn
      cases ds with
      | nil => cases n <;> rfl
      | cons c ds =>
        obtain ⟨n, rfl⟩ : ∃ k, n = k + 1 := ⟨n - 1, by simp at hn; omega⟩
        have hrest := next_rest_length c ds
        simp only [List.length_cons] at hm hn
        rw [cutWith_cons, cutWith_cons, ih (n := n) (by omega) (by omega)]
  exact hagree h (Nat.le_refl _)

@[simp] theorem cut_nil : cut [] = [] := rfl

theorem cut_cons (c : Char) (cs : List Char) :
    cut (c :: cs) = ((next c cs).1, (next c cs).2.1) :: cut (next c cs).2.2 := by
  rw [cut, List.length_cons, cutWith_cons, cutWith_eq_cut (next_rest_length c cs)]

/-- What holds of the empty text, and of a text if it holds of what its first piece leaves, holds of every text. -/
@[elab_as_elim]
theorem cut_induction {P : List Char → Prop} (nil : P [])
    (cons : ∀ c cs, P (next c cs).2.2 → P (c :: cs)) (cs : List Char) : P cs := by
  induction h : cs.length using Nat.strongRecOn generalizing cs with
  | ind n ih =>
    cases cs with
    | nil => exact nil
    | cons c cs =>
      have hrest := next_rest_length c cs
      simp only [List.length_cons] at h
      exact cons c cs (ih _ (by omega) _ rfl)

/-! ### What the pieces make up -/

/-- Pieces make up a text: each has characters, and is what it is said to be with what follows it. -/
inductive MakesUp : List (Piece × List Char) → List Char → Prop
  | nil : MakesUp [] []
  | cons {piece : Piece} {text after : List Char} {ps : List (Piece × List Char)} :
      text ≠ [] → piece.Fits text after → MakesUp ps after → MakesUp ((piece, text) :: ps) (text ++ after)

theorem makesUp_cut (cs : List Char) : MakesUp (cut cs) cs := by
  induction cs using cut_induction with
  | nil => exact .nil
  | cons c cs ih =>
    obtain ⟨happend, hne, hfits⟩ := next_spec c cs
    rw [cut_cons, ← happend]
    exact .cons hne hfits ih

/-- The texts of pieces, put together. -/
def spelling (ps : List (Piece × List Char)) : List Char := ps.flatMap Prod.snd

@[simp] theorem spelling_nil : spelling [] = [] := rfl

@[simp] theorem spelling_cons (p : Piece × List Char) (ps : List (Piece × List Char)) :
    spelling (p :: ps) = p.2 ++ spelling ps := rfl

@[simp] theorem spelling_append (ps qs : List (Piece × List Char)) :
    spelling (ps ++ qs) = spelling ps ++ spelling qs := List.flatMap_append

theorem MakesUp.spelling_eq {ps : List (Piece × List Char)} {cs : List Char} (h : MakesUp ps cs) :
    spelling ps = cs := by
  induction h with
  | nil => rfl
  | cons _ _ _ ih => rw [spelling_cons, ih]

theorem MakesUp.ne_nil {ps : List (Piece × List Char)} {cs : List Char} (h : MakesUp ps cs) {p : Piece × List Char}
    (hp : p ∈ ps) : p.2 ≠ [] := by
  induction h with
  | nil => cases hp
  | cons hne _ _ ih =>
    rcases List.mem_cons.1 hp with rfl | hp
    · exact hne
    · exact ih hp

theorem eq_of_cut {cs : List Char} {p : Piece × List Char} {ps qs : List (Piece × List Char)} (h : cut cs = ps ++ p :: qs) :
    cs = spelling ps ++ (p.2 ++ spelling qs) := by
  rw [← (makesUp_cut cs).spelling_eq, h, spelling_append, spelling_cons]

/-- What stands behind some of the pieces is cut into the pieces that follow them. -/
theorem cut_spelling {cs : List Char} {ps qs : List (Piece × List Char)} (h : cut cs = ps ++ qs) :
    cut (spelling qs) = qs := by
  induction ps generalizing cs with
  | nil =>
    have hspelling := (makesUp_cut cs).spelling_eq
    rw [h, List.nil_append] at hspelling
    rw [hspelling, h, List.nil_append]
  | cons p ps ih =>
    cases cs with
    | nil => cases h
    | cons c cs =>
      rw [cut_cons, List.cons_append] at h
      exact ih (List.cons.inj h).2

theorem cut_behind {cs : List Char} {p : Piece × List Char} {ps qs : List (Piece × List Char)}
    (h : cut cs = ps ++ p :: qs) : cut (spelling qs) = qs := by
  rw [List.append_cons] at h
  exact cut_spelling h

/-- A piece of a text is the one at the beginning of what stands there. -/
theorem exists_next_of_cut {cs text : List Char} {piece : Piece} {ps qs : List (Piece × List Char)}
    (h : cut cs = ps ++ (piece, text) :: qs) :
    ∃ c w, text = c :: w ∧ next c (w ++ spelling qs) = (piece, c :: w, spelling qs) := by
  have hbehind : cut (text ++ spelling qs) = (piece, text) :: qs := cut_spelling h
  have hne : text ≠ [] := (makesUp_cut (text ++ spelling qs)).ne_nil (p := (piece, text)) (by simp [hbehind])
  obtain ⟨c, w, rfl⟩ := List.exists_cons_of_ne_nil hne
  have happend := (next_spec c (w ++ spelling qs)).1
  rw [List.cons_append, cut_cons] at hbehind
  obtain ⟨hpiece, htext⟩ := Prod.mk.inj (List.cons.inj hbehind).1
  rw [htext] at happend
  exact ⟨c, w, rfl, Prod.ext hpiece (Prod.ext htext (by simpa using happend))⟩

/-! ### Texts cut by a line end -/

/-- A text of which a line end behind it becomes no part: it does not end with an unclosed string, and not with the
beginning of a joined line. -/
structure Settled (cs : List Char) : Prop where
  string : ∀ text, (cut cs).getLast? ≠ some (string false, text)
  join : ¬ ['\\'] <:+ cs
  joinReturn : ¬ ['\\', '\r'] <:+ cs

theorem Settled.rest {c : Char} {cs : List Char} (h : Settled (c :: cs)) : Settled (next c cs).2.2 := by
  have hsuffix : (next c cs).2.2 <:+ c :: cs := ⟨_, (next_spec c cs).1⟩
  refine ⟨fun text hlast => h.string text ?_, fun hs => h.join (hs.trans hsuffix),
    fun hs => h.joinReturn (hs.trans hsuffix)⟩
  rw [cut_cons, List.getLast?_cons, hlast]
  rfl

theorem cut_append_newline {a : List Char} (ha : Settled a) (b : List Char) :
    cut (a ++ '\n' :: b) = cut a ++ (layout, ['\n']) :: cut b := by
  induction a using cut_induction with
  | nil =>
    have hnext : next '\n' b = (layout, ['\n'], b) := by
      rw [next, if_pos (by decide)]
    rw [List.nil_append, cut_cons, hnext]
    rfl
  | cons c cs ih =>
    have hstring : (next c cs).1 = string false → (next c cs).2.2 ≠ [] := by
      intro hopen hrest
      apply ha.string (next c cs).2.1
      rw [cut_cons, hrest, hopen]
      rfl
    have hslash : c :: cs ≠ ['\\'] := fun h => ha.join (h ▸ List.suffix_refl _)
    have hreturn : c :: cs ≠ ['\\', '\r'] := fun h => ha.joinReturn (h ▸ List.suffix_refl _)
    rw [List.cons_append, cut_cons, cut_cons, next_carry breaks_newline hslash hreturn (fun _ => rfl) hstring,
      ih ha.rest]
    rfl

end Likeness.Lex.Piece
