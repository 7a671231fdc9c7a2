import Likeness.Grammar.LexTable

/-!
# Parse tables

The table that a parser runs on: the states of a grammar after merging, each with its lexical mode,
and what the parser must know of symbols and productions to build trees.
-/

namespace Likeness.Grammar

/-- A state of a parse table. `outer` tells which tokens of the outer scanner are wanted, and
`outerMode` numbers these choices. -/
structure ParseState where
  actions : Array (List Action)
  gotos : Array Nat
  lexMode : Nat
  outerMode : Nat
  outer : Array Bool
deriving Inhabited

structure Table where
  symbols : Array SymbolInfo
  tokenCount : Nat
  word : Nat
  /-- The symbols that the outer scanner reads, in its order. -/
  outer : Array Nat
  infos : Array NodeInfo
  states : Array ParseState
  lexer : LexTable
deriving Inhabited

/-- The table of a grammar. -/
def Table.ofSource (src : Source) : Table :=
  let g := src.prepare
  let it := Items.ofGrammar g
  let states := allStates g it
  let x := Lexicon.ofGrammar g it states
  let states := states.modify 0 fun s => s.repairing (repairTokens g x)
  let states := orderStates (removeRenamings g (mergeStates g x states))
  let (modeOf, modes) := lexModes g x states
  let wanted (s : State) : Array Bool := g.outer.map fun k => Nat.testBit s.keys k
  let choices := states.foldl (fun (acc : List (Array Bool)) s =>
    let w := wanted s
    if acc.contains w then acc else acc ++ [w]) []
  { symbols := g.symbols, tokenCount := g.tokenCount, word := g.word, outer := g.outer
    infos := it.infos
    states := states.mapIdx fun i s =>
      let w := wanted s
      ⟨s.actions, s.gotos, modeOf.getD i 0, (choices.idxOf? w).getD 0, w⟩
    lexer := LexTable.ofModes x modes }

end Likeness.Grammar
