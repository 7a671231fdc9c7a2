import Likeness.Grammar.Prepared

/-!
# Places in productions

A place is a dot in a production. Two places count as one when they lead to the same continuations
and build the same node. For each rule the table of places holds what the rule can begin with, and
how a dot before it spreads to the rules at whose beginning it then stands too.
-/

namespace Likeness.Grammar

open Std (HashMap)

/-- A set of tokens, as the bits of a number. -/
abbrev TokenSet := Nat

/-- The tokens below `n` in a set. -/
def TokenSet.toList (s : TokenSet) (n : Nat) : List Nat :=
  (List.range n).filter fun i => Nat.testBit s i

def TokenSet.single (i : Nat) : TokenSet := 1 <<< i

/-- How a finished production shapes the node it builds: the aliases of its children, the fields it
gives them, and the fields that hidden children bring along. -/
structure NodeInfo where
  aliases : List (Option Alias)
  fields : List (Nat × String)
  inherited : List (Nat × List String)
deriving BEq, Hashable, Inhabited

/-- A dot in a production of the rule numbered `rule`. `next` is the symbol after the dot and
`after` the one after that; both are 0 where there is none. `succ` is the place one step on. -/
structure Place where
  rule : Nat
  dot : Nat
  weight : Int
  rank : Option Int
  side : Option Side
  next : Nat
  after : Nat
  succ : Nat
  info : Nat
deriving Inhabited

/-- What a place must have in common with another to count as the same one. -/
structure PlaceKey where
  rule : Nat
  dot : Nat
  weight : Int
  rank : Option Int
  side : Option Side
  before : List (Option Alias × Option String × Nat)
  rest : List (Step Nat)
deriving BEq, Hashable

/-- How a dot before one rule spreads to another: tokens that always follow it there, and whether
what follows the first rule may follow it too. -/
structure Spread where
  rule : Nat
  fixed : TokenSet
  passes : Bool
deriving Inhabited

/-- All places of a grammar. The rule numbered one past the last is the start, whose one
production is the grammar's first rule. -/
structure Items where
  places : Array Place
  infos : Array NodeInfo
  /-- For each rule the symbols it can begin with, each with the place after it. -/
  openings : Array (Array (Nat × Nat))
  /-- For each rule its finished place, if it has an empty production. -/
  empties : Array (Option Nat)
  /-- For each symbol the tokens it can begin with. -/
  firsts : Array TokenSet
  /-- For each symbol the tokens it can end with. -/
  lasts : Array TokenSet
  spreads : Array (Array Spread)
  start : Nat
deriving Inhabited

/-- The tokens at one end of each symbol, from those known so far. -/
def growEnds (g : Prepared) (pick : List (Step Nat) → Option (Step Nat))
    (known : Array TokenSet) : Array TokenSet :=
  g.rules.zipIdx.foldl (fun known (r, i) =>
    let s := r.productions.foldl (fun s p => match pick p.steps with
      | some x => s ||| known.getD x.sym 0
      | none => s) (known.getD (g.tokenCount + i) 0)
    known.setIfInBounds (g.tokenCount + i) s) known

/-- Repeats `f` until the value stays the same, at most `n` times. -/
def stabilize {α : Type} [BEq α] (f : α → α) : Nat → α → α
  | 0, a => a
  | n + 1, a => let b := f a; if a == b then a else stabilize f n b

def endTokens (g : Prepared) (pick : List (Step Nat) → Option (Step Nat)) : Array TokenSet :=
  stabilize (growEnds g pick) g.rules.size <|
    (List.range g.symbols.size).toArray.map fun s =>
      if s < g.tokenCount then TokenSet.single s else 0

/-- One round of spreading from what is reached so far, which holds for each rule its tokens and
whether it passes on what follows. -/
def growSpread (g : Prepared) (firsts : Array TokenSet) (known : Array (Option (TokenSet × Bool))) :
    Array (Option (TokenSet × Bool)) :=
  g.rules.zipIdx.foldl (fun known (r, i) =>
    match known.getD i none with
    | none => known
    | some (fixed, passes) =>
      r.productions.foldl (fun known p =>
        match p.steps with
        | s :: rest =>
          if s.sym < g.tokenCount then known
          else
            let add : TokenSet × Bool := match rest with
              | [] => (fixed, passes)
              | t :: _ => (firsts.getD t.sym 0, false)
            known.modify (s.sym - g.tokenCount) fun old =>
              let o := old.getD (0, false)
              some (o.1 ||| add.1, o.2 || add.2)
        | [] => known) known) known

/-- Where a dot before rule `i` spreads to. -/
def spreadOf (g : Prepared) (firsts : Array TokenSet) (i : Nat) : Array Spread :=
  let start := (Array.replicate g.rules.size none).setIfInBounds i (some (0, true))
  let all := stabilize (growSpread g firsts) g.rules.size start
  all.zipIdx.filterMap fun (x, r) => x.map fun (fixed, passes) => ⟨r, fixed, passes⟩

/-- How a production of rule `r` shapes its node. -/
def nodeInfo (g : Prepared) (p : Production Nat) : NodeInfo :=
  let aliases := (p.steps.map (·.alias?)).reverse.dropWhile (·.isNone) |>.reverse
  let fields := p.steps.zipIdx.filterMap fun (s, i) => s.field.map fun f => (i, f)
  let inherited := p.steps.zipIdx.filterMap fun (s, i) =>
    if s.sym < g.tokenCount then none
    else
      let r := g.rules.getD (s.sym - g.tokenCount) default
      if r.hidden && !r.fields.isEmpty then some (i, r.fields) else none
  ⟨aliases, fields, inherited⟩

/-- What makes the place after `dot` steps of a production of rule `r`. -/
def placeKey (g : Prepared) (r : Nat) (p : Production Nat) (dot : Nat) : PlaceKey :=
  let before := p.steps.take dot
  let bringsFields (s : Step Nat) : Bool :=
    s.sym ≥ g.tokenCount &&
      let q := g.rules.getD (s.sym - g.tokenCount) default
      q.hidden && !q.fields.isEmpty
  let exact := before.any bringsFields
  let last := before.getLast?
  { rule := r, dot, weight := p.weight, rank := last.bind (·.rank), side := last.bind (·.side)
    before := before.map fun s => (s.alias?, s.field, if exact then s.sym else 0)
    rest := p.steps.drop dot }

/-- The places and node shapes found so far. -/
structure PlaceTable where
  places : Array Place := #[]
  known : HashMap PlaceKey Nat := {}
  infos : Array NodeInfo := #[⟨[], [], []⟩]
  infoIds : HashMap NodeInfo Nat := ({} : HashMap NodeInfo Nat).insert ⟨[], [], []⟩ 0

/-- Adds the places of a production from its end up to dot `dot`; returns the last one added. -/
def addPlaces (g : Prepared) (r : Nat) (p : Production Nat) (info : Nat) (succ : Nat) :
    Nat → PlaceTable → Nat × PlaceTable
  | back, t =>
    let dot := p.steps.length - back
    let key := placeKey g r p dot
    let (here, t) := match t.known[key]? with
      | some i => (i, t)
      | none =>
        let symAt (i : Nat) : Nat := ((p.steps[i]?).map (·.sym)).getD 0
        let i := t.places.size
        (i, { t with
          places := t.places.push ⟨r, dot, p.weight, key.rank, key.side, symAt dot,
            symAt (dot + 1), succ, info⟩
          known := t.known.insert key i })
    (here, t)

/-- Adds all places of a production; returns its first place. -/
def addProduction (g : Prepared) (r : Nat) (p : Production Nat) (t : PlaceTable) :
    Nat × PlaceTable :=
  let shape := nodeInfo g p
  let (info, t) := match t.infoIds[shape]? with
    | some i => (i, t)
    | none => (t.infos.size, { t with
        infos := t.infos.push shape, infoIds := t.infoIds.insert shape t.infos.size })
  (List.range (p.steps.length + 1)).foldl (fun (succ, t) back => addPlaces g r p info succ back t)
    (0, t)

def Items.ofGrammar (g : Prepared) : Items :=
  let firsts := endTokens g List.head?
  let lasts := endTokens g List.getLast?
  let (table, firstsOf) := g.rules.zipIdx.foldl
    (fun (acc : PlaceTable × Array (Array Nat)) (r, i) =>
      let (t, here) := r.productions.foldl (fun (acc : PlaceTable × Array Nat) p =>
        let (k, t) := addProduction g i p acc.1
        (t, acc.2.push k)) (acc.1, #[])
      (t, acc.2.push here)) ({}, #[])
  let (start, table) := addProduction g g.rules.size
    ⟨[⟨g.tokenCount, none, none, none, none⟩], 0⟩ table
  let place (k : Nat) : Place := table.places.getD k default
  { places := table.places, infos := table.infos, firsts, lasts, start
    openings := firstsOf.map fun ks => (ks.foldl (fun (acc : Array (Nat × Nat)) k =>
      let p := place k
      if p.next == 0 || acc.contains (p.next, p.succ) then acc else acc.push (p.next, p.succ)) #[])
    empties := firstsOf.map fun ks => ks.find? fun k => (place k).next == 0
    spreads := (List.range g.rules.size).toArray.map (spreadOf g firsts) }

end Likeness.Grammar
