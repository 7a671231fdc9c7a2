import Likeness.Parse.Tree

/-!
# Walking over a tree

A cursor stands on a node of a tree and remembers what lies around it, so that it can go to the
first child, to the next sibling and back to the parent.
-/

namespace Likeness.Parse

/-- One step of the way down: a node without the child that the way leads to, whose earlier siblings
are kept nearest first. -/
structure Crumb where
  view : NodeView
  before : List ConcreteTree
  after : List ConcreteTree
deriving Inhabited

/-- A place in a tree: the tree below it, and the way up, innermost first. -/
structure Cursor where
  focus : ConcreteTree
  path : List Crumb
deriving Inhabited

namespace Cursor

/-- The root of a tree. -/
def ofTree (t : ConcreteTree) : Cursor := ⟨t, []⟩

def view (c : Cursor) : NodeView := c.focus.view

def firstChild? (c : Cursor) : Option Cursor :=
  match c.focus with
  | .node _ [] => none
  | .node v (t :: ts) => some ⟨t, ⟨v, [], ts⟩ :: c.path⟩

def nextSibling? (c : Cursor) : Option Cursor :=
  match c.path with
  | ⟨v, before, t :: after⟩ :: path => some ⟨t, ⟨v, c.focus :: before, after⟩ :: path⟩
  | _ => none

def parent? (c : Cursor) : Option Cursor :=
  match c.path with
  | ⟨v, before, after⟩ :: path => some ⟨.node v (before.reverseAux (c.focus :: after)), path⟩
  | [] => none

end Cursor
end Likeness.Parse
