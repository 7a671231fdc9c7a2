import Likeness.Grammar.Positions
import Likeness.Proofs.Text.CharSet

/-!
# What a pattern matches

`Pattern.Matches` says which texts are spelt by a pattern. The equations for the patterns that others are made
of (`matches_lit`, `matches_seq`, `matches_alt`, `matches_many_chars`) tell the texts of a given one. Where only the
characters matter, they are found in the sets that the pattern mentions (`Matches.exists_contains`,
`Matches.forall_of_sets`).
-/

namespace Likeness.Grammar

open Likeness.Text (CharSet)

namespace Pattern

/-- A text is spelt by a pattern. -/
inductive Matches : Pattern → List Char → Prop
  | empty : Matches .empty []
  | chars {s : CharSet} {c : Char} : s.contains c = true → Matches (.chars s) [c]
  | seq {a b : Pattern} {x y : List Char} : Matches a x → Matches b y → Matches (.seq a b) (x ++ y)
  | left {a b : Pattern} {x : List Char} : Matches a x → Matches (.alt a b) x
  | right {a b : Pattern} {x : List Char} : Matches b x → Matches (.alt a b) x
  | one {a : Pattern} {x : List Char} : Matches a x → Matches (.many1 a) x
  | more {a : Pattern} {x y : List Char} : Matches a x → Matches (.many1 a) y → Matches (.many1 a) (x ++ y)

/-- Each character of a text is in one of the sets that the pattern mentions. -/
theorem Matches.exists_contains {p : Pattern} {cs : List Char} (h : p.Matches cs) {c : Char} (hc : c ∈ cs) :
    ∃ s ∈ p.sets, s.contains c = true := by
  induction h with
  | empty => cases hc
  | chars hs =>
    obtain rfl := List.mem_singleton.1 hc
    exact ⟨_, List.mem_singleton_self _, hs⟩
  | seq _ _ iha ihb =>
    rcases List.mem_append.1 hc with hc | hc
    · obtain ⟨s, hs, hcontains⟩ := iha hc
      exact ⟨s, List.mem_append_left _ hs, hcontains⟩
    · obtain ⟨s, hs, hcontains⟩ := ihb hc
      exact ⟨s, List.mem_append_right _ hs, hcontains⟩
  | left _ ih =>
    obtain ⟨s, hs, hcontains⟩ := ih hc
    exact ⟨s, List.mem_append_left _ hs, hcontains⟩
  | right _ ih =>
    obtain ⟨s, hs, hcontains⟩ := ih hc
    exact ⟨s, List.mem_append_right _ hs, hcontains⟩
  | one _ ih => exact ih hc
  | more _ _ iha ihb => exact (List.mem_append.1 hc).elim iha ihb

/-- What holds of the characters of the sets holds of those of a text. -/
theorem Matches.forall_of_sets {p : Pattern} (ts : List String) (hsets : p.sets = ts.map .ofString) {f : Char → Bool}
    (hall : ts.all (fun t => t.toList.all f) = true) {cs : List Char} (h : p.Matches cs) : ∀ c ∈ cs, f c = true := by
  intro c hc
  obtain ⟨s, hs, hcontains⟩ := h.exists_contains hc
  rw [hsets] at hs
  obtain ⟨t, ht, rfl⟩ := List.mem_map.1 hs
  exact List.all_eq_true.1 (List.all_eq_true.1 hall t ht) c (CharSet.contains_ofString.1 hcontains)

/-! ### The texts of single patterns -/

section

variable {cs : List Char}

@[simp] theorem matches_empty : empty.Matches cs ↔ cs = [] := by
  constructor
  · rintro ⟨⟩
    rfl
  · rintro rfl
    exact .empty

@[simp] theorem matches_chars {s : CharSet} : (chars s).Matches cs ↔ ∃ c, cs = [c] ∧ s.contains c = true := by
  constructor
  · rintro (_ | hs)
    exact ⟨_, rfl, hs⟩
  · rintro ⟨c, rfl, hs⟩
    exact .chars hs

@[simp] theorem matches_seq {a b : Pattern} :
    (seq a b).Matches cs ↔ ∃ x y, cs = x ++ y ∧ a.Matches x ∧ b.Matches y := by
  constructor
  · intro h
    cases h with
    | seq ha hb => exact ⟨_, _, rfl, ha, hb⟩
  · rintro ⟨x, y, rfl, ha, hb⟩
    exact .seq ha hb

@[simp] theorem matches_alt {a b : Pattern} : (alt a b).Matches cs ↔ a.Matches cs ∨ b.Matches cs := by
  constructor
  · intro h
    cases h with
    | left h => exact .inl h
    | right h => exact .inr h
  · exact (Or.elim · .left .right)

@[simp] theorem matches_opt {a : Pattern} : (opt a).Matches cs ↔ a.Matches cs ∨ cs = [] := by
  rw [opt, matches_alt, matches_empty]

theorem matches_ofList {l : List Char} : (ofList l).Matches cs ↔ cs = l := by
  induction l generalizing cs with
  | nil => simp [ofList]
  | cons c l ih =>
    cases l with
    | nil =>
      simp only [ofList, matches_chars, CharSet.contains_single]
      constructor
      · rintro ⟨_, rfl, rfl⟩
        rfl
      · intro hcs
        exact ⟨c, hcs, rfl⟩
    | cons d l =>
      simp only [ofList, matches_seq, matches_chars, CharSet.contains_single, ih]
      constructor
      · rintro ⟨_, _, rfl, ⟨_, rfl, rfl⟩, rfl⟩
        rfl
      · rintro rfl
        exact ⟨[c], _, rfl, ⟨c, rfl, rfl⟩, rfl⟩

@[simp] theorem matches_lit {s : String} : (lit s).Matches cs ↔ cs = s.toList := matches_ofList

@[simp] theorem matches_oneOf {s : String} : (oneOf s).Matches cs ↔ ∃ c, cs = [c] ∧ c ∈ s.toList := by
  simp [oneOf]

theorem matches_many1_chars {s : CharSet} :
    (many1 (chars s)).Matches cs ↔ cs ≠ [] ∧ ∀ c ∈ cs, s.contains c = true := by
  constructor
  · intro h
    generalize hp : many1 (chars s) = p at h
    induction h with
    | one h =>
      obtain rfl := Pattern.many1.inj hp
      obtain ⟨c, rfl, hs⟩ := matches_chars.1 h
      simpa using hs
    | more h _ _ ih =>
      obtain rfl := Pattern.many1.inj hp
      obtain ⟨c, rfl, hs⟩ := matches_chars.1 h
      obtain ⟨-, hrest⟩ := ih rfl
      simpa using ⟨hs, hrest⟩
    | _ => cases hp
  · rintro ⟨hne, hall⟩
    induction cs with
    | nil => exact absurd rfl hne
    | cons c cs ih =>
      obtain ⟨hc, hrest⟩ := List.forall_mem_cons.1 hall
      cases cs with
      | nil => exact .one (.chars hc)
      | cons d cs => exact .more (.chars hc) (ih (List.cons_ne_nil _ _) hrest)

@[simp] theorem matches_many_chars {s : CharSet} : (many (chars s)).Matches cs ↔ ∀ c ∈ cs, s.contains c = true := by
  rw [many, matches_alt, matches_empty, matches_many1_chars]
  constructor
  · rintro (⟨-, hall⟩ | rfl)
    · exact hall
    · simp
  · intro hall
    by_cases hcs : cs = []
    · exact .inr hcs
    · exact .inl ⟨hcs, hall⟩

end

end Pattern
end Likeness.Grammar
