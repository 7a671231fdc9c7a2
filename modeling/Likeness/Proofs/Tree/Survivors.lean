import Mathlib.Data.List.Basic
import Mathlib.Tactic.Common
import Likeness.Proofs.Tree.Places
import Likeness.Proofs.Tree.Symbols

/-!
# Which nodes stay in a normalized tree

The nodes of a normalized tree are the survivors among the nodes of the syntax tree, each once and in the same order
(`normalize_keeps_survivors`).  A node survives if it stays by itself and all nodes above it open.
-/

namespace Likeness.Tree

open NormalTree

/-! ### Nodes that take those below along -/

mutual
theorem above_subset_of_mem_placesFrom {above : List Node} {root : Node} {p : Place} : ∀ {t : SyntaxTree},
    p ∈ t.placesFrom above root → ∀ a ∈ above, a ∈ p.above
  | .node kind field named children, hp, a, ha => by
    rw [SyntaxTree.placesFrom] at hp
    rcases List.mem_cons.1 hp with rfl | hp
    · exact ha
    · exact above_subset_of_mem_placesAll hp a (List.mem_cons_of_mem _ ha)

theorem above_subset_of_mem_placesAll {above : List Node} {root : Node} {p : Place} : ∀ {ts : List SyntaxTree},
    p ∈ SyntaxTree.placesAll above root ts → ∀ a ∈ above, a ∈ p.above
  | [], hp, _, _ => by cases hp
  | t :: ts, hp, a, ha => by
    rw [SyntaxTree.placesAll] at hp
    rcases List.mem_append.1 hp with hp | hp
    · exact above_subset_of_mem_placesFrom hp a ha
    · exact above_subset_of_mem_placesAll hp a ha
end

/-- Nothing survives below a node that does not open. -/
theorem filter_placesAll_of_not_opens {a : Node} (ha : ¬a.Opens) (above : List Node) (root : Node)
    (ts : List SyntaxTree) : (SyntaxTree.placesAll (a :: above) root ts).filter (·.Survives) = [] := by
  rw [List.filter_eq_nil_iff]
  intro p hp hsurvives
  have hopens := (of_decide_eq_true hsurvives).1
  exact ha (hopens a (above_subset_of_mem_placesAll hp a List.mem_cons_self))

/-! ### Labels -/

mutual
theorem labels_normalAt {above : List Node} {root : Node} (habove : ∀ a ∈ above, a.Opens) : ∀ t : SyntaxTree,
    (outlineAll (normalAt above root t)).map (·.1) =
      ((t.placesFrom above root).filter (·.Survives)).map Place.label
  | .node kind field named children => by
    let p : Place := ⟨⟨kind, field, named⟩, above, root⟩
    let below := if p.node.Opens then children.flatMap (normalAt (p.node :: above) root) else []
    let placesBelow := SyntaxTree.placesAll (p.node :: above) root children
    have hbelow : (outlineAll below).map (·.1) = (placesBelow.filter (·.Survives)).map Place.label := by
      by_cases hopens : p.node.Opens
      · rw [show below = _ from if_pos hopens]
        exact labels_flatMap_normalAt (List.forall_mem_cons.2 ⟨hopens, habove⟩) children
      · rw [show below = _ from if_neg hopens, filter_placesAll_of_not_opens hopens]
        rfl
    have hsurvives : p.Survives ↔ p.Stays := and_iff_right habove
    rw [normalAt_node, SyntaxTree.placesFrom]
    change (outlineAll (if p.Stays then [.node p.label below] else below)).map (·.1) =
      ((p :: placesBelow).filter (·.Survives)).map Place.label
    by_cases hstays : p.Stays
    · rw [if_pos hstays, List.filter_cons, if_pos (decide_eq_true (hsurvives.2 hstays)), List.map_cons, ← hbelow]
      simp only [outlineAll, outline, List.append_nil, List.map_cons]
    · rw [if_neg hstays, List.filter_cons, if_neg (by simpa [hsurvives] using hstays), hbelow]

theorem labels_flatMap_normalAt {above : List Node} {root : Node} (habove : ∀ a ∈ above, a.Opens) :
    ∀ ts : List SyntaxTree, (outlineAll (ts.flatMap (normalAt above root))).map (·.1) =
      ((SyntaxTree.placesAll above root ts).filter (·.Survives)).map Place.label
  | [] => rfl
  | t :: ts => by
    rw [List.flatMap_cons, outlineAll_append, List.map_append, labels_normalAt habove t,
      labels_flatMap_normalAt habove ts, SyntaxTree.placesAll, List.filter_append, List.map_append]
end

/-- The labels of a normalized tree in document order are those of the nodes that survive, each once. A name that does
not play a part of its own is a parameter exactly if it stands among declared parameters. There is an end mark for
each node of the normalized tree that has children. -/
theorem normalize_keeps_survivors (m : SyntaxTree) :
    let t := normalize m
    t.symbols.filterMap Symbol.label? = (m.places.filter (·.Survives)).map Place.label ∧
    (∀ p ∈ m.places, p.node.IsName → p.part? = none → (p.label = .name .parameter ↔ p.InParameters)) ∧
    t.symbols.count .close = t.leafMarks.count false := by
  intro t
  refine ⟨?_, fun p _ hname hpart => ?_, ?_⟩
  · have hchildren : t.children = m.children.flatMap (normalAt [] m.top) := congrArg NormalTree.children (normalize_node m)
    rw [symbols, labels_serializeAll, hchildren, labels_flatMap_normalAt (by simp), SyntaxTree.places]
  · rw [Place.label, if_pos hname, Place.role, hpart]
    by_cases hparameters : p.InParameters <;> simp [hparameters]
  · rw [symbols, leafMarks, count_close_serializeAll]

/-! ### Tokens with children -/

/-- A statement below a token goes with the token, though nothing above it is a comment, a name or a literal. -/
theorem token_takes_statement_along :
    let statement : SyntaxTree := .node "pass_statement" none true []
    let m : SyntaxTree := .node "module" none true [.node "else" none false [statement]]
    (normalize m).symbols.filterMap Symbol.label? ≠
      (m.places.filter fun p => p.Stays ∧ ∀ a ∈ p.above, ¬a.IsComment ∧ ¬a.IsName ∧ ¬a.IsLiteral).map Place.label := by
  decide

end Likeness.Tree
