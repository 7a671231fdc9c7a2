import Mathlib.Data.List.Basic
import Mathlib.Tactic.Common
import Likeness.Parse.Cursor

/-!
# The nodes of a tree, and where a cursor stands

* `ConcreteTree.nodes` : the nodes of a tree in document order, each with its depth and the tree below it;
* `Cursor.row` : the tree below a cursor and those of the siblings after it;
* `Cursor.parent?_firstChild`, `Cursor.parent?_nextSibling` : the way back up from a child leads to where the cursor came
  from, whichever of the siblings it has got to.
-/

namespace Likeness.Parse

/-! ### Nodes -/

namespace ConcreteTree

mutual
/-- The nodes of a tree in document order, if its root is at the given depth: their depths and the trees below them. -/
def nodesFrom (depth : Nat) : ConcreteTree → List (Nat × ConcreteTree)
  | node v cs => (depth, node v cs) :: nodesAll (depth + 1) cs

def nodesAll (depth : Nat) : List ConcreteTree → List (Nat × ConcreteTree)
  | [] => []
  | t :: ts => nodesFrom depth t ++ nodesAll depth ts
end

/-- The nodes of a tree in document order: their depths and the trees below them. -/
def nodes (t : ConcreteTree) : List (Nat × ConcreteTree) := t.nodesFrom 0

theorem size_pos (t : ConcreteTree) : 0 < t.size := by
  cases t
  rw [size]
  omega

end ConcreteTree

/-! ### Moves -/

namespace Cursor

variable {c d : Cursor}

/-- The trees below the siblings after a cursor. -/
def after (c : Cursor) : List ConcreteTree :=
  match c.path with
  | [] => []
  | k :: _ => k.after

/-- The trees below a cursor and below the siblings after it. -/
def row (c : Cursor) : List ConcreteTree := c.focus :: c.after

theorem parent?_firstChild (h : c.firstChild? = some d) : d.parent? = some c := by
  obtain ⟨⟨v, _ | ⟨t, ts⟩⟩, path⟩ := c
  · cases h
  · cases h
    rfl

theorem row_firstChild (h : c.firstChild? = some d) : d.row = c.focus.children := by
  obtain ⟨⟨v, _ | ⟨t, ts⟩⟩, path⟩ := c
  · cases h
  · cases h
    rfl

theorem children_of_firstChild?_eq_none (h : c.firstChild? = none) : c.focus.children = [] := by
  obtain ⟨⟨v, _ | ⟨t, ts⟩⟩, path⟩ := c
  · rfl
  · cases h

theorem parent?_nextSibling (h : c.nextSibling? = some d) : d.parent? = c.parent? := by
  obtain ⟨focus, _ | ⟨⟨v, before, _ | ⟨t, rest⟩⟩, path⟩⟩ := c
  · cases h
  · cases h
  · cases h
    rfl

theorem row_nextSibling (h : c.nextSibling? = some d) : d.row = c.after := by
  obtain ⟨focus, _ | ⟨⟨v, before, _ | ⟨t, rest⟩⟩, path⟩⟩ := c
  · cases h
  · cases h
  · cases h
    rfl

theorem after_of_nextSibling?_eq_none (h : c.nextSibling? = none) : c.after = [] := by
  obtain ⟨focus, _ | ⟨⟨v, before, _ | ⟨t, rest⟩⟩, path⟩⟩ := c
  · rfl
  · rfl
  · cases h

end Cursor
end Likeness.Parse
