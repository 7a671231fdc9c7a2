import Likeness.Parse.Run

/-!
# Concrete trees

What a parse shows: the visible nodes, each with its kind, the field that it fills in its parent,
and where it begins. Hidden nodes are passed over, and their children take their place.
-/

namespace Likeness.Parse

open Likeness.Grammar

/-- What is shown of a node. `row` and `column` count from 0, the column in bytes. `broken` tells
that there is an error in the node or below it. -/
structure NodeView where
  kind : String
  field : Option String := none
  named : Bool := true
  error : Bool := false
  missing : Bool := false
  broken : Bool := false
  row : Nat := 0
  column : Nat := 0
deriving BEq, DecidableEq, Inhabited

/-- A tree of visible nodes. -/
inductive ConcreteTree where
  | node (view : NodeView) (children : List ConcreteTree)
deriving Inhabited

namespace ConcreteTree

def view : ConcreteTree → NodeView
  | node v _ => v

def children : ConcreteTree → List ConcreteTree
  | node _ cs => cs

mutual

/-- How many nodes a tree has. -/
def size : ConcreteTree → Nat
  | node _ cs => 1 + sizeAll cs

def sizeAll : List ConcreteTree → Nat
  | [] => 0
  | t :: ts => size t + sizeAll ts

end
end ConcreteTree

/-- How a tree stands in its parent: where it begins, its alias there, and its field. -/
structure Site where
  start : Extent
  alias? : Option Alias := none
  field : Option String := none

mutual

/-- The visible nodes of a tree, before those that follow it. -/
def showTree (tbl : Table) : Subtree → Site → List ConcreteTree → List ConcreteTree
  | .node h ⟨cs⟩, p, after =>
    let info := tbl.infos.getD h.info default
    let shown := h.visible || p.alias?.isSome
    if shown then
      let (kind, named) := match p.alias? with
        | some a => (a.name, a.named)
        | none => ((symbolInfo tbl h.sym).name, h.named)
      let inner := showAll tbl info none cs 0 none p.start []
      .node { kind, field := p.field, named, error := p.alias?.isNone && h.sym == errorSym
              missing := h.missing, broken := (Subtree.node h #[]).cost > 0
              row := p.start.row, column := p.start.column } inner :: after
    else if h.shownChildren > 0 then showAll tbl info p.field cs 0 none p.start after
    else after

/-- The visible nodes of a row of children. `place` counts the children that are not extras, and
`last` is where the child before ends. -/
def showAll (tbl : Table) (info : NodeInfo) (field : Option String) : List Subtree → (place : Nat) →
    (last : Option Extent) → (start : Extent) → List ConcreteTree → List ConcreteTree
  | [], _, _, _, after => after
  | t :: ts, place, last, start, after =>
    let here := match last with
      | some e => e.add t.head.padding
      | none => start
    let p : Site := if t.extra then { start := here }
      else
        { start := here
          alias? := (info.aliases[place]?).bind id
          field := (info.fields.lookup place) <|> field }
    let place' := if t.extra then place else place + 1
    showTree tbl t p (showAll tbl info field ts place' (some (here.add t.head.size)) start after)

end

/-- The visible tree of a parse. -/
def Subtree.toConcrete (tbl : Table) (t : Subtree) : ConcreteTree :=
  (showTree tbl t { start := t.head.padding } []).headD (.node { kind := "ERROR" } [])

/-- The visible tree of a text. -/
def ConcreteTree.ofText (tbl : Table) (text : String) : ConcreteTree :=
  match parseText tbl text with
  | some t => t.toConcrete tbl
  | none => .node { kind := "ERROR", error := true, broken := true } []

end Likeness.Parse
