import Likeness.Parse.Subtree
import Std.Data.TreeMap.Basic

/-!
# Stacks with several versions

A parser that follows several readings keeps a stack for each. The stacks share what they have in
common: a stack is the top node of a graph, whose links lead down to the nodes before, each over a
tree. Two versions in the same state at the same place are merged into one with several links, and
taking trees off such a stack gives a version for each way down.
-/

namespace Likeness.Parse

/-- A way down from a node. A link without a tree marks where an error was met. -/
structure Link where
  node : Nat
  tree : Option Subtree
deriving Inhabited

/-- A node of the graph, with sums over the way down to the bottom. -/
structure StackNode where
  state : Nat
  pos : Extent := {}
  links : Array Link := #[]
  cost : Nat := 0
  nodeCount : Nat := 0
  weight : Int := 0
deriving Inhabited

/-- A state that a stack went through, and how many trees lie above it. -/
structure SummaryEntry where
  pos : Extent
  depth : Nat
  state : Nat
deriving Inhabited

inductive Status where
  | active
  | paused
  | halted
deriving BEq, DecidableEq, Inhabited

/-- A version of the stack. `lookahead` is the token at which a paused version met an error. -/
structure Version where
  node : Nat
  status : Status := .active
  countAtError : Nat := 0
  layout : Option Layout := none
  lookahead : Option Subtree := none
  summary : Option (Array SummaryEntry) := none
deriving Inhabited

/-- The nodes have numbers in the order in which they are made. -/
structure Stack where
  nodes : Std.TreeMap Nat StackNode
  versions : Array Version
deriving Inhabited

/-- The trees taken off one way down, and the version that is left. -/
structure Slice where
  trees : Array Subtree
  version : Nat
deriving Inhabited

namespace Stack

def maxLinks : Nat := 8
def maxIterators : Nat := 64

/-- The stack that holds nothing, in state 1. -/
def initial : Stack :=
  let bottom : StackNode := { state := 1 }
  ⟨.ofList [(0, bottom)], #[{ node := 0 }]⟩

variable (s : Stack)

def node (n : Nat) : StackNode := s.nodes.getD n default
def version (v : Nat) : Version := s.versions.getD v default
def top (v : Nat) : StackNode := s.node (s.version v).node
def size : Nat := s.versions.size
def state (v : Nat) : Nat := (s.top v).state
def pos (v : Nat) : Extent := (s.top v).pos
def weight (v : Nat) : Int := (s.top v).weight
def layout (v : Nat) : Option Layout := (s.version v).layout
def isActive (v : Nat) : Bool := (s.version v).status == .active
def isPaused (v : Nat) : Bool := (s.version v).status == .paused
def isHalted (v : Nat) : Bool := (s.version v).status == .halted

def modifyVersion (v : Nat) (f : Version → Version) : Stack :=
  { s with versions := s.versions.modify v f }

/-- The cost of the errors of a version, with that of the error that it is about to mend. -/
def cost (v : Nat) : Nat :=
  let n := s.top v
  let open' := match n.links[0]? with
    | some l => n.state == 0 && l.tree.isNone
    | none => false
  n.cost + (if s.isPaused v || open' then costPerRecovery else 0)

/-- Lowers the number of nodes at the last error to the number of nodes there are. -/
def clampCount (v : Nat) : Stack :=
  let n := (s.top v).nodeCount
  s.modifyVersion v fun h => if n < h.countAtError then { h with countAtError := n } else h

/-- How many nodes a version has gained since its last error. -/
def countSinceError (v : Nat) : Nat := (s.top v).nodeCount - (s.version v).countAtError

/-- Whether a version has taken in text since its last error. -/
def hasAdvanced (v : Nat) : Bool :=
  (s.top v).cost == 0 || go s.nodes.size (s.version v).node
where
  go : Nat → Nat → Bool
    | 0, _ => false
    | fuel + 1, n =>
      let x := s.node n
      let l := x.links.getD 0 default
      match l.tree with
      | some t =>
        if t.total.bytes > 0 then true
        else if x.nodeCount > (s.version v).countAtError && t.cost == 0 then go fuel l.node
        else false
      | none => false

/-- Puts a tree on a version, or with none the mark of an error. -/
def push (v : Nat) (tree : Option Subtree) (state : Nat) : Stack :=
  let n := (s.version v).node
  let x := s.node n
  let y : StackNode := match tree with
    | none => { x with state, links := #[⟨n, none⟩] }
    | some t =>
      { state, links := #[⟨n, some t⟩], pos := x.pos.add t.total, cost := x.cost + t.cost
        nodeCount := x.nodeCount + t.nodeCount, weight := x.weight + t.head.weight }
  { nodes := s.nodes.insert s.nodes.size y
    versions := s.versions.modify v fun h =>
      { h with
        node := s.nodes.size
        countAtError := if tree.isNone then y.nodeCount else h.countAtError } }

/-- The version of a node that comes from another version. -/
def addVersion (base node : Nat) : Nat × Stack :=
  let h := s.version base
  let new : Version := { node, countAtError := h.countAtError, layout := h.layout }
  (s.versions.size, { s with versions := s.versions.push new })

def remove (v : Nat) : Stack := { s with versions := s.versions.eraseIdxIfInBounds v }

/-- Puts version `v` in the place of the earlier version `w`, which goes. -/
def renumber (v w : Nat) : Stack :=
  if v == w then s
  else
    let src := s.version v
    let old := s.version w
    let src := { src with summary := src.summary <|> old.summary }
    { s with versions := (s.versions.setIfInBounds w src).eraseIdxIfInBounds v }

def swap (v w : Nat) : Stack :=
  { s with versions := s.versions.swapIfInBounds v w }

def copy (v : Nat) : Nat × Stack :=
  (s.versions.size, { s with versions := s.versions.push { s.version v with summary := none } })

def halt (v : Nat) : Stack := s.modifyVersion v fun h => { h with status := .halted }

def pause (v : Nat) (lookahead : Subtree) : Stack :=
  let n := (s.top v).nodeCount
  s.modifyVersion v fun h =>
    { h with status := .paused, lookahead := some lookahead, countAtError := n }

def resume (v : Nat) : Stack :=
  s.modifyVersion v fun h => { h with status := .active, lookahead := none }

/-! ### Merging -/

/-- Whether two trees between the same places are as good as one. -/
def equivalent : Option Subtree → Option Subtree → Bool
  | none, none => true
  | some a, some b =>
    a.sym == b.sym && ((a.cost > 0 && b.cost > 0) ||
      (a.head.padding.bytes == b.head.padding.bytes && a.head.size.bytes == b.head.size.bytes &&
        a.children.size == b.children.size && a.extra == b.extra &&
        a.head.layout == b.head.layout))
  | _, _ => false

def Link.weight (s : Stack) (l : Link) : Int :=
  (s.node l.node).weight + (match l.tree with
    | some t => t.head.weight
    | none => 0)

/-- The first link of a node that can stand for the given one too, and whether it leads to the same
node. -/
def sameLink? (n : Nat) (l : Link) : Option (Nat × Bool) :=
  (s.node n).links.toList.zipIdx.findSome? fun (e, i) =>
    if equivalent e.tree l.tree then
      if e.node == l.node then some (i, true)
      else
        let a := s.node e.node
        let b := s.node l.node
        if a.state == b.state && a.pos.bytes == b.pos.bytes && a.cost == b.cost
        then some (i, false) else none
    else none

/-- Adds a link to a node. A link that another can stand for is joined to it, with the nodes below
if these differ. -/
def addLink : Nat → Nat → Link → Stack → Stack
  | 0, _, _, s => s
  | fuel + 1, n, l, s =>
    if l.node == n then s
    else
      let w := Link.weight s l
      match s.sameLink? n l with
      | some (i, true) =>
        let e := (s.node n).links.getD i default
        let better : Bool := match e.tree, l.tree with
          | some a, some b => b.head.weight > a.head.weight
          | _, _ => false
        if better then
          { s with nodes := s.nodes.modify n fun x =>
              { x with links := x.links.setIfInBounds i l, weight := w } }
        else s
      | some (i, false) =>
        let e := (s.node n).links.getD i default
        let s := (s.node l.node).links.foldl (fun s k => addLink fuel e.node k s) s
        { s with nodes := s.nodes.modify n fun x => { x with weight := max x.weight w } }
      | none =>
        if (s.node n).links.size ≥ maxLinks then s
        else
          let count := (s.node l.node).nodeCount + (match l.tree with
            | some t => t.nodeCount
            | none => 0)
          { s with nodes := s.nodes.modify n fun x =>
              { x with
                links := x.links.push l
                nodeCount := max x.nodeCount count
                weight := max x.weight w } }

def canMerge (v w : Nat) : Bool :=
  let a := s.top v
  let b := s.top w
  s.isActive v && s.isActive w && a.state == b.state && a.pos.bytes == b.pos.bytes &&
    a.cost == b.cost && s.layout v == s.layout w

/-- Merges version `w` into version `v` if both are at the same point. -/
def merge? (v w : Nat) : Option Stack :=
  if s.canMerge v w then
    let n := (s.version v).node
    let s' := (s.top w).links.foldl (fun s' l => addLink s.nodes.size n l s') s
    let top := s'.node n
    let s' := if top.state == 0 then
        s'.modifyVersion v fun h => { h with countAtError := top.nodeCount }
      else s'
    some (s'.remove w)
  else none

/-! ### Taking trees off -/

/-- A way down that is being followed: the trees on it from the top, and how many of them count. -/
structure Iter where
  node : Nat
  trees : List Subtree
  count : Nat
deriving Inhabited

/-- What to do at a node: whether the trees so far are a slice, and whether to end the way. -/
structure Choice where
  take : Bool
  stop : Bool

/-- Adds a slice. Slices that end at the same node share a version. -/
def addSlice (base node : Nat) (trees : Array Subtree) (slices : Array Slice) :
    Array Slice × Stack :=
  let same := slices.toList.zipIdx.reverse.find? fun (x, _) =>
    (s.version x.version).node == node
  match same with
  | some (x, i) => (slices.insertIdxIfInBounds (i + 1) ⟨trees, x.version⟩, s)
  | none =>
    let (v, s) := s.addVersion base node
    (slices.push ⟨trees, v⟩, s)

/-- The walk over all ways down from a version. `σ` is what the walk gathers. -/
structure Walk (σ : Type) where
  stack : Stack
  slices : Array Slice
  iters : Array Iter
  data : σ

/-- Goes one step down from iterator `i` by a link. -/
def Iter.down (it : Iter) (l : Link) : Iter :=
  match l.tree with
  | some t => ⟨l.node, t :: it.trees, if t.extra then it.count else it.count + 1⟩
  | none => ⟨l.node, it.trees, it.count + 1⟩

/-- One round over the iterators from number `i` on, of which `size` are to be gone over. -/
def Walk.round {σ : Type} (base : Nat) (visit : Stack → Iter → σ → Choice × σ) :
    (fuel i size : Nat) → Walk σ → Walk σ
  | 0, _, _, w => w
  | fuel + 1, i, size, w =>
    if i < size then
      let it := w.iters.getD i default
      let links := (w.stack.node it.node).links
      let (c, data) := visit w.stack it w.data
      let stop := c.stop || links.isEmpty
      let (slices, stack) :=
        if c.take then w.stack.addSlice base it.node it.trees.toArray w.slices
        else (w.slices, w.stack)
      if stop then
        round base visit fuel i (size - 1)
          { stack, slices, data, iters := w.iters.eraseIdxIfInBounds i }
      else
        let iters := (links.extract 1 links.size).foldl (fun iters l =>
          if iters.size ≥ maxIterators then iters else iters.push (it.down l)) w.iters
        let iters := iters.setIfInBounds i (it.down (links.getD 0 default))
        round base visit fuel (i + 1) size { stack, slices, data, iters }
    else w

/-- Goes over all ways down. -/
def Walk.run {σ : Type} (base : Nat) (visit : Stack → Iter → σ → Choice × σ) :
    Nat → Walk σ → Walk σ
  | 0, w => w
  | fuel + 1, w =>
    if w.iters.isEmpty then w
    else run base visit fuel (w.round base visit 1000 0 w.iters.size)

/-- Goes over all ways down from a version. -/
def walk {σ : Type} (v : Nat) (visit : Stack → Iter → σ → Choice × σ) (data : σ) : Walk σ :=
  Walk.run v visit (s.nodes.size + 1)
    ⟨s, #[], #[⟨(s.version v).node, [], 0⟩], data⟩

/-- Takes `n` trees off a version, extras not counted. -/
def pop (v n : Nat) : Array Slice × Stack :=
  let w := s.walk v (fun _ it (_ : Unit) => (⟨it.count == n, it.count == n⟩, ())) ()
  (w.slices, w.stack)

/-- Takes all trees off a version. -/
def popAll (v : Nat) : Array Slice × Stack :=
  let w := s.walk v (fun s it (_ : Unit) => (⟨(s.node it.node).links.isEmpty, false⟩, ())) ()
  (w.slices, w.stack)

/-- Takes a tree of misfit text off the top of a version, if there is one. -/
def popError (v : Nat) : Option Subtree × Stack :=
  let isError (l : Link) : Bool := match l.tree with
    | some t => t.isError
    | none => false
  if (s.top v).links.any isError then
    let w := s.walk v (fun _ it (found : Bool) =>
      match it.trees.head? with
      | some t => if !found && t.isError then (⟨true, true⟩, true) else (⟨false, true⟩, found)
      | none => (⟨false, false⟩, found)) false
    match w.slices[0]? with
    | some x => (x.trees[0]?, w.stack.renumber x.version v)
    | none => (none, w.stack)
  else (none, s)

/-- Whether an entry of the given depth and state is among the last of a summary. -/
def summaryHas (depth state : Nat) : List SummaryEntry → Bool
  | [] => false
  | e :: es =>
    if e.depth < depth then false
    else (e.depth == depth && e.state == state) || summaryHas depth state es

/-- Records the states that a version went through, down to a depth. -/
def recordSummary (v maxDepth : Nat) : Stack :=
  let w := s.walk v (fun s it (sum : List SummaryEntry) =>
    let n := s.node it.node
    if it.count > maxDepth then (⟨false, true⟩, sum)
    else if summaryHas it.count n.state sum then (⟨false, false⟩, sum)
    else (⟨false, false⟩, ⟨n.pos, it.count, n.state⟩ :: sum)) []
  s.modifyVersion v fun h => { h with summary := some w.data.reverse.toArray }

end Stack
end Likeness.Parse
