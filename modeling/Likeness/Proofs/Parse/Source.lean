import Mathlib.Tactic.Common
import Likeness.Parse.Source

/-!
# Why a source has no tree

Under options that are accepted a source has no tree because of its syntax or its depth
(`cause_of_normalTree`), and never because of the options.
-/

namespace Likeness.Parse

/-- What a source itself can be at fault for: its syntax, or the depth of its tree. -/
inductive Cause.OfSource (limit : Nat) : Cause → Prop
  | unexpectedSyntax : OfSource limit .unexpectedSyntax
  | missing {expected : String} : OfSource limit (.missing expected)
  | tooDeep : OfSource limit (.tooDeep limit)

/-- A tree that is turned into a syntax tree can only be too deep. -/
theorem cause_of_lower (limit fuel : Nat) :
    (∀ depth c e, lowerNode limit fuel depth c = .error e → e.cause = .tooDeep limit) ∧
      ∀ depth c e, lowerSiblings limit fuel depth c = .error e → e.cause = .tooDeep limit := by
  induction fuel with
  | zero =>
    refine ⟨fun depth c e h => ?_, fun depth c e h => ?_⟩
    · simp [lowerNode] at h
    · simp [lowerSiblings] at h
  | succ fuel ih =>
    obtain ⟨ihNode, ihSiblings⟩ := ih
    refine ⟨fun depth c e h => ?_, fun depth c e h => ?_⟩
    · unfold lowerNode at h
      split at h
      · cases h
        rfl
      · split at h
        · cases h
        · rename_i child _
          cases hchildren : lowerSiblings limit fuel (depth + 1) child with
          | error e' =>
            rw [hchildren] at h
            cases h
            exact ihSiblings _ _ _ hchildren
          | ok r =>
            rw [hchildren] at h
            cases h
    · unfold lowerSiblings at h
      cases hfirst : lowerNode limit fuel depth c with
      | error e' =>
        rw [hfirst] at h
        cases h
        exact ihNode _ _ _ hfirst
      | ok r =>
        rw [hfirst] at h
        obtain ⟨t, c'⟩ := r
        simp only [bind, Except.bind] at h
        split at h
        · cases h
        · rename_i next _
          cases hrest : lowerSiblings limit fuel depth next with
          | error e' =>
            rw [hrest] at h
            cases h
            exact ihSiblings _ _ _ hrest
          | ok r =>
            rw [hrest] at h
            cases h

theorem cause_of_describeError (limit : Nat) (t : ConcreteTree) : Cause.OfSource limit (describeError t).cause := by
  unfold describeError
  split
  · rename_i v _
    cases hmissing : v.missing
    · exact .unexpectedSyntax
    · exact .missing
  · exact .unexpectedSyntax

theorem cause_of_syntaxTreeOf {limit : Nat} {t : ConcreteTree} {e : Error} (h : syntaxTreeOf limit t = .error e) :
    Cause.OfSource limit e.cause := by
  unfold syntaxTreeOf at h
  split at h
  · cases h
    exact cause_of_describeError limit t
  · cases hlower : lowerNode limit (2 * t.size + 1) 0 (.ofTree t) with
    | error e' =>
      rw [lower, hlower] at h
      cases h
      rw [(cause_of_lower limit _).1 _ _ _ hlower]
      exact .tooDeep
    | ok r =>
      rw [lower, hlower] at h
      cases h

theorem ok_bind {ε β γ : Type} (b : β) (next : β → Except ε γ) : (Except.ok b >>= next) = next b := rfl

-- the table of the grammar must stay closed here: opening it would build it
theorem syntaxTree_eq {source : String} {o : Options} (ho : o.check = .ok ()) :
    syntaxTree source o = syntaxTreeOf o.maxDepth (.ofText table source) := by
  rw [syntaxTree, ho, ok_bind]

/-- Under options that are accepted a source without a tree is itself at fault. -/
theorem cause_of_normalTree {source : String} {o : Options} (ho : o.check = .ok ()) {e : Error}
    (h : normalTree source o = .error e) : Cause.OfSource o.maxDepth e.cause := by
  rw [normalTree, syntaxTree_eq ho] at h
  generalize ConcreteTree.ofText table source = t at h
  cases htree : syntaxTreeOf o.maxDepth t with
  | error e' =>
    rw [htree] at h
    cases h
    exact cause_of_syntaxTreeOf htree
  | ok tree =>
    rw [htree] at h
    cases h

end Likeness.Parse
