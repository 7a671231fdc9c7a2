import Likeness.Grammar.Table
import Likeness.Parse.Layout

/-!
# Trees under construction

While a text is being parsed its trees carry sums over their nodes: how much text they cover, what
their errors cost, how far readings of them are preferred, how many nodes they show. A tree is built
from its children with `Subtree.ofChildren`, which forms the sums.
-/

namespace Likeness.Parse

open Likeness.Grammar (Table NodeInfo SymbolInfo)

/-! ### What errors cost -/

def costPerRecovery : Nat := 500
def costPerMissingTree : Nat := 110
def costPerSkippedTree : Nat := 100
def costPerSkippedChar : Nat := 1
def costPerSkippedLine : Nat := 30

/-- The symbol of text that fits nowhere. -/
def errorSym : Nat := 65535

/-- The symbol of a stretch of such text that is still growing. -/
def errorPartSym : Nat := 65534

/-- What is known of a tree besides its children. `padding` is the blank text before it. -/
structure Head where
  sym : Nat
  padding : Extent := {}
  size : Extent := {}
  visible : Bool := false
  named : Bool := false
  extra : Bool := false
  missing : Bool := false
  keyword : Bool := false
  info : Nat := 0
  cost : Nat := 0
  weight : Int := 0
  shownChildren : Nat := 0
  shownDescendants : Nat := 0
  /-- The state that a token was read in. -/
  state : Nat := 0
  /-- The layout after a token of the outer scanner. -/
  layout : Option Layout := none
  layoutChanged : Bool := false
deriving Inhabited

/-- A tree under construction. -/
inductive Subtree where
  | node (head : Head) (children : Array Subtree)
deriving Inhabited

namespace Subtree

def head : Subtree → Head
  | node h _ => h

def children : Subtree → Array Subtree
  | node _ cs => cs

def withHead (t : Subtree) (f : Head → Head) : Subtree :=
  match t with
  | node h cs => node (f h) cs

def sym (t : Subtree) : Nat := t.head.sym
def isError (t : Subtree) : Bool := t.sym == errorSym
def extra (t : Subtree) : Bool := t.head.extra
def isEnd (t : Subtree) : Bool := t.sym == 0
def total (t : Subtree) : Extent := t.head.padding.add t.head.size

def cost (t : Subtree) : Nat :=
  if t.head.missing then costPerMissingTree + costPerRecovery else t.head.cost

/-- How many nodes a tree shows, and one for text that fits nowhere. -/
def nodeCount (t : Subtree) : Nat :=
  t.head.shownDescendants + (if t.head.visible then 1 else 0) +
    (if t.sym == errorPartSym then 1 else 0)

end Subtree

/-- How a symbol shows. -/
def symbolInfo (tbl : Table) (sym : Nat) : SymbolInfo :=
  if sym == errorSym then ⟨"ERROR", true, true⟩
  else if sym == errorPartSym then ⟨"_ERROR", false, false⟩
  else tbl.symbols.getD sym default

/-- A token. -/
def Subtree.leaf (tbl : Table) (sym : Nat) (padding size : Extent) (state : Nat) (keyword : Bool)
    (layout : Option Layout) (layoutChanged : Bool) : Subtree :=
  let i := symbolInfo tbl sym
  .node { sym, padding, size, visible := i.visible, named := i.named, extra := sym == 0, keyword,
          state, layout, layoutChanged } #[]

/-- A token that is not in the text but would mend it. -/
def Subtree.missingLeaf (tbl : Table) (sym : Nat) (padding : Extent) : Subtree :=
  (leaf tbl sym padding {} 0 false none false).withHead fun h => { h with missing := true }

/-- Adds what one child brings to its parent. `place` counts the children that are not extras. -/
def Head.addChild (aliases : List (Option Grammar.Alias)) (first : Bool)
    (place : Nat) (c : Subtree) (h : Head) : Head :=
  let err := h.sym == errorSym || h.sym == errorPartSym
  let leaf := c.children.isEmpty
  let skipped :=
    if err && !c.extra && !(c.isError && leaf) then
      if c.head.visible then costPerSkippedTree
      else if !leaf then costPerSkippedTree * c.head.shownChildren else 0
    else 0
  let own := if c.sym == errorPartSym then 0 else c.cost
  let shown := (!c.extra && ((aliases[place]?).bind id).isSome) || c.head.visible
  { h with
    padding := if first then c.head.padding else h.padding
    size := if first then c.head.size else h.size.add c.total
    cost := h.cost + own + skipped
    weight := h.weight + c.head.weight
    shownDescendants := h.shownDescendants + c.head.shownDescendants + (if shown then 1 else 0)
    shownChildren := h.shownChildren + (if shown then 1 else if leaf then 0 else
      c.head.shownChildren)
    layoutChanged := h.layoutChanged || c.head.layoutChanged }

/-- The tree of a symbol over the given children. -/
def Subtree.ofChildren (tbl : Table) (sym : Nat) (children : Array Subtree) (info : Nat) :
    Subtree :=
  let i := symbolInfo tbl sym
  let aliases := (tbl.infos.getD info default).aliases
  let start : Head := { sym, visible := i.visible, named := i.named, info }
  let (h, _, _) := children.foldl (fun (acc : Head × Bool × Nat) c =>
    let (h, first, place) := acc
    (h.addChild aliases first place c, false, if c.extra then place else place + 1))
    (start, true, 0)
  let h :=
    if sym == errorSym || sym == errorPartSym then
      { h with cost := h.cost + costPerRecovery + costPerSkippedChar * h.size.bytes +
          costPerSkippedLine * h.size.row }
    else h
  .node h children

/-- Text that fits nowhere, over the given trees. -/
def Subtree.error (tbl : Table) (children : Array Subtree) (extra : Bool) : Subtree :=
  (ofChildren tbl errorSym children 0).withHead fun h => { h with extra }

/-- Separates the extras at the end of a row of trees. -/
def splitTrailing (ts : Array Subtree) : Array Subtree × Array Subtree :=
  let n := (ts.toList.reverse.takeWhile (·.extra)).length
  (ts.extract 0 (ts.size - n), ts.extract (ts.size - n) ts.size)

/-- Compares trees by symbols and numbers of children, from the root down and from the left. -/
def compareTrees : Nat → List (Subtree × Subtree) → Ordering
  | 0, _ => .eq
  | _, [] => .eq
  | fuel + 1, (a, b) :: rest =>
    match compare a.sym b.sym with
    | .eq =>
      match compare a.children.size b.children.size with
      | .eq => compareTrees fuel ((a.children.zip b.children).toList ++ rest)
      | o => o
    | o => o

/-- Whether the second of two readings is to be taken. -/
def preferSecond (a b : Subtree) : Bool :=
  if b.cost < a.cost then true
  else if a.cost < b.cost then false
  else if b.head.weight > a.head.weight then true
  else if a.head.weight > b.head.weight then false
  else if a.cost > 0 then true
  else compareTrees 1000000000 [(a, b)] == .gt

end Likeness.Parse
