import Likeness.Grammar.Items

/-!
# The states of a grammar

A state is a set of places with the tokens that may follow each. Starting from the empty set, which
is the state for repairing errors, and from the beginning of the grammar, the states are all that
stepping over a symbol leads to. In each state a token has a list of actions: several where the
grammar leaves the choice open, one where ranks and sides decide.
-/

namespace Likeness.Grammar

open Std (HashMap)

/-- What the parser may do on a token. -/
inductive Action where
  /-- Go on to a state; `again` where this goes on with a repetition that may as well end. -/
  | shift (state : Nat) (again : Bool)
  /-- Take the token in without a change of state. -/
  | extra
  /-- Put the last `count` trees under a node. -/
  | reduce (sym count : Nat) (weight : Int) (info : Nat)
  | accept
  /-- Repair an error. -/
  | recover
deriving BEq, Hashable, DecidableEq, Inhabited

/-- A state: its actions for each token, and the state after each rule, 0 where there is none.
States with the same places have the same `core`. -/
structure State where
  core : Nat
  keys : TokenSet
  actions : Array (List Action)
  gotos : Array Nat
deriving Inhabited

/-! ### Sets of tokens by number -/

/-- The sets of tokens in use, with the unions that were formed. Set 0 is empty. -/
structure SetTable where
  sets : Array TokenSet := #[0]
  ids : HashMap Nat Nat := ({} : HashMap Nat Nat).insert 0 0
  unions : HashMap Nat Nat := {}

namespace SetTable

def get (t : SetTable) (i : Nat) : TokenSet := t.sets.getD i 0

def intern (t : SetTable) (s : TokenSet) : Nat × SetTable :=
  match t.ids[s]? with
  | some i => (i, t)
  | none =>
    let i := t.sets.size
    (i, { t with sets := t.sets.push s, ids := t.ids.insert s i })

def union (t : SetTable) (a b : Nat) : Nat × SetTable :=
  if a == b || b == 0 then (a, t)
  else if a == 0 then (b, t)
  else
    let key := if a < b then a * 65536 + b else b * 65536 + a
    match t.unions[key]? with
    | some i => (i, t)
    | none =>
      let (i, t) := t.intern (t.get a ||| t.get b)
      (i, { t with unions := t.unions.insert key i })

end SetTable

/-! ### Item sets -/

/-- An item, packed: the place, and the number of the set of tokens that may follow. -/
abbrev Item := Nat

namespace Item

def mk (place ahead : Nat) : Item := place * 65536 + ahead
def place (i : Item) : Nat := i / 65536
def ahead (i : Item) : Nat := i % 65536

end Item

/-- Joins the items of one place in a sorted array. -/
def mergeItems (items : Array Item) (t : SetTable) : Array Item × SetTable :=
  items.foldl (fun (acc : Array Item × SetTable) i =>
    match acc.1.back? with
    | some j =>
      if Item.place j == Item.place i then
        let (u, t) := acc.2.union (Item.ahead j) (Item.ahead i)
        (acc.1.pop.push (Item.mk (Item.place i) u), t)
      else (acc.1.push i, acc.2)
    | none => (acc.1.push i, acc.2)) (#[], t)

/-- The spreads of a grammar with numbers for the sets. -/
abbrev SpreadTable := Array (Array (Nat × Nat × Bool))

/-- For each rule the tokens that may follow it where a dot stands before it in the state, as a
number, 0 if no dot does. -/
def followers (g : Prepared) (it : Items) (spreads : SpreadTable) (firstIds : Array Nat)
    (kernel : Array Item) (t : SetTable) : Array Nat × SetTable :=
  kernel.foldl (fun (acc : Array Nat × SetTable) i =>
    let p := it.places.getD (Item.place i) default
    if p.next < g.tokenCount then acc
    else
      let f := if p.after == 0 then Item.ahead i else firstIds.getD p.after 0
      (spreads.getD (p.next - g.tokenCount) #[]).foldl (fun (acc : Array Nat × SetTable) s =>
        let (add, t) := if s.2.2 then acc.2.union s.2.1 f else (s.2.1, acc.2)
        let (u, t) := t.union (acc.1.getD s.1 0) add
        (acc.1.setIfInBounds s.1 u, t)) acc)
    (Array.replicate g.rules.size 0, t)

/-- The items after each symbol, not yet sorted. -/
def successors (g : Prepared) (it : Items) (kernel : Array Item) (follow : Array Nat) :
    Array (Array Item) :=
  let none' := Array.replicate g.symbols.size (#[] : Array Item)
  let own := kernel.foldl (fun acc i =>
    let p := it.places.getD (Item.place i) default
    if p.next == 0 then acc
    else acc.modify p.next fun a => a.push (Item.mk p.succ (Item.ahead i))) none'
  (List.range g.rules.size).foldl (fun acc r =>
    let f := follow.getD r 0
    if f == 0 then acc
    else (it.openings.getD r #[]).foldl (fun acc (s, p) =>
      acc.modify s fun a => a.push (Item.mk p f)) acc) own

/-! ### Choosing among actions -/

/-- What is known of the reductions on one token. -/
structure Reductions where
  actions : List Action := []
  rank : Int := 0
  left : Bool := false
  right : Bool := false
  neither : Bool := false
deriving Inhabited

/-- Adds a reduction. A higher rank replaces those before it, a lower one is dropped. -/
def Reductions.add (r : Reductions) (a : Action) (p : Place) : Reductions :=
  let rank := p.rank.getD 0
  let base : Reductions :=
    if r.actions.isEmpty || r.rank < rank then { actions := [a], rank }
    else { r with actions := r.actions ++ [a] }
  if !r.actions.isEmpty && rank < r.rank then r
  else match p.side with
    | some .left => { base with left := true }
    | some .right => { base with right := true }
    | none => { base with neither := true }

/-- The finished items of a state in the order in which their reductions are tried. -/
def finished (g : Prepared) (it : Items) (kernel : Array Item) (follow : Array Nat) :
    List (Place × Nat) :=
  let own := kernel.toList.filterMap fun i =>
    let p := it.places.getD (Item.place i) default
    if p.next == 0 then some (p, Item.ahead i) else none
  let empty := (List.range g.rules.size).filterMap fun r =>
    match follow.getD r 0, it.empties.getD r none with
    | 0, _ => none
    | _, none => none
    | f, some k => some (it.places.getD k default, f)
  (own ++ empty).mergeSort fun (p, _) (q, _) =>
    p.dot < q.dot || (p.dot == q.dot &&
      (p.rule < q.rule || (p.rule == q.rule && p.weight ≤ q.weight)))

/-- The action of a finished place. -/
def Place.reduction (g : Prepared) (p : Place) : Action :=
  if p.rule == g.rules.size then .accept
  else .reduce (g.tokenCount + p.rule) p.dot p.weight p.info

/-- Decides between going on with a token and the reductions on it. -/
def decide' (g : Prepared) (it : Items) (t : SetTable) (kernel : Array Item) (token : Nat)
    (state : Nat) (r : Reductions) : List Action :=
  let places := kernel.toList.map fun i =>
    (it.places.getD (Item.place i) default, Item.ahead i)
  let going := places.filter fun (p, _) =>
    p.dot > 0 && p.next != 0 && Nat.testBit (it.firsts.getD p.next 0) token
  let done := places.filter fun (p, f) => p.next == 0 && Nat.testBit (t.get f) token
  let rules := (going ++ done).filterMap fun (p, _) =>
    if p.rule < g.rules.size then some p.rule else none
  let repetition := match rules with
    | [] => false
    | x :: xs => (g.rules.getD x default).helper && xs.all (· == x)
  let ranks := going.map fun (p, _) => p.rank.getD 0
  let more := ranks.any (r.rank < ·)
  let less := ranks.any (· < r.rank)
  if repetition then r.actions ++ [.shift state true]
  else if more && !less then [.shift state false]
  else if less && !more then r.actions
  else if more && less then r.actions ++ [.shift state false]
  else if r.left && !r.right && !r.neither then r.actions
  else if r.right && !r.left && !r.neither then [.shift state false]
  else r.actions ++ [.shift state false]

/-! ### All states -/

/-- The states found so far. The kernel of each state is kept until the state is worked out. -/
structure Builder where
  sets : SetTable
  kernels : Array (Array Item) := #[]
  known : HashMap (Array Item) Nat := {}
  cores : HashMap (Array Nat) Nat := {}
  coreOf : Array Nat := #[]
  states : Array State := #[]

/-- The number of the state with a given kernel. -/
def Builder.intern (b : Builder) (kernel : Array Item) : Nat × Builder :=
  match b.known[kernel]? with
  | some i => (i, b)
  | none =>
    let core := kernel.map Item.place
    let (c, cores) := match b.cores[core]? with
      | some c => (c, b.cores)
      | none => (b.cores.size, b.cores.insert core b.cores.size)
    let i := b.kernels.size
    (i, { b with
      kernels := b.kernels.push kernel
      known := b.known.insert kernel i
      cores
      coreOf := b.coreOf.push c })

/-- The order in which the symbols after a state are followed: tokens of the outer scanner, the end,
the other tokens, the rules. -/
def followOrder (g : Prepared) : List Nat :=
  let inner := g.lexemes.toList.map (·.1)
  let outer := (List.range g.tokenCount).filter fun s => s != 0 && !inner.contains s
  outer ++ [0] ++ inner ++ (List.range g.rules.size).map (· + g.tokenCount)

/-- Works out state `n`. -/
def Builder.expand (g : Prepared) (it : Items) (spreads : SpreadTable) (firstIds : Array Nat)
    (order : List Nat) (n : Nat) (b : Builder) : Builder :=
  let kernel := b.kernels.getD n #[]
  let core := b.coreOf.getD n 0
  let (follow, sets) := followers g it spreads firstIds kernel b.sets
  let b := { b with sets }
  let succs := successors g it kernel follow
  -- reductions
  let reductions := (finished g it kernel follow).foldl
    (fun (acc : Array Reductions) (p, f) =>
      let tokens := b.sets.get f
      (List.range g.tokenCount).foldl (fun acc k =>
        if Nat.testBit tokens k then acc.modify k fun r => r.add (p.reduction g) p else acc) acc)
    (Array.replicate g.tokenCount {})
  -- steps over symbols
  let (b, targets) := order.foldl (fun (acc : Builder × Array Nat) s =>
    let items := succs.getD s #[]
    if items.isEmpty then acc
    else
      let (items, sets) := mergeItems (items.qsort (· < ·)) acc.1.sets
      let (m, b) := Builder.intern { acc.1 with sets } items
      (b, acc.2.setIfInBounds s m)) (b, Array.replicate g.symbols.size 0)
  let actions := (List.range g.tokenCount).toArray.map fun k =>
    let r := reductions.getD k {}
    let m := targets.getD k 0
    if m == 0 then
      if r.actions.isEmpty && g.extras.contains k then [.extra] else r.actions
    else if r.actions.isEmpty then [.shift m false]
    else decide' g it b.sets kernel k m r
  let keys := (List.range g.tokenCount).foldl (fun s k =>
    if (actions.getD k []).isEmpty then s else s ||| TokenSet.single k) 0
  let state : State := ⟨core, keys, actions, targets.extract g.tokenCount g.symbols.size⟩
  { b with states := b.states.push state }

/-- Works out all states from number `n` on, with a bound on their number. -/
def Builder.run (g : Prepared) (it : Items) (spreads : SpreadTable) (firstIds : Array Nat)
    (order : List Nat) : (fuel n : Nat) → Builder → Builder
  | 0, _, b => b
  | fuel + 1, n, b =>
    if n < b.kernels.size then
      run g it spreads firstIds order fuel (n + 1) (b.expand g it spreads firstIds order n)
    else b

/-- All states of a grammar. State 0 is for repairing errors and state 1 is the first. -/
def allStates (g : Prepared) (it : Items) : Array State :=
  let (spreads, sets) := it.spreads.foldl (fun (acc : SpreadTable × SetTable) ss =>
    let (row, sets) := ss.foldl (fun (acc : Array (Nat × Nat × Bool) × SetTable) s =>
      let (k, sets) := acc.2.intern s.fixed
      (acc.1.push (s.rule, k, s.passes), sets)) (#[], acc.2)
    (acc.1.push row, sets)) (#[], {})
  let (firstIds, sets) := it.firsts.foldl (fun (acc : Array Nat × SetTable) s =>
    let (k, sets) := acc.2.intern s
    (acc.1.push k, sets)) (#[], sets)
  let (ending, sets) := sets.intern (TokenSet.single 0)
  let b : Builder := { sets }
  let (_, b) := b.intern #[]
  let (_, b) := b.intern #[Item.mk it.start ending]
  (b.run g it spreads firstIds (followOrder g) 100000 0).states

end Likeness.Grammar
