import Likeness.Grammar.Automaton
import Likeness.Grammar.Clash

/-!
# Keywords and the state for repairing errors

A keyword is a token all of whose texts the word token reads too. It is read as a word first and
recognised after, which is possible where this brings no new clash with other tokens. The state for
repairing errors takes in every token, save those that would get in the way of a token that clashes
with nothing.
-/

namespace Likeness.Grammar

open Std (HashMap HashSet)

/-- What the choice of lexical states depends on: the tokens by place in the list of patterns, their
clashes, and which of them meet in a state. -/
structure Lexicon where
  positions : Positions
  clashes : Clashes
  /-- The symbol of each pattern. -/
  symbols : Array Nat
  /-- The pattern of each symbol, if it has one. -/
  indices : Array (Option Nat)
  /-- Whether two patterns are wanted in one state. -/
  together : Array Bool
  /-- Whether two patterns are wanted in one state that does not want the word token. -/
  apart : Array Bool
  keywords : List Nat
deriving Inhabited

namespace Lexicon

variable (x : Lexicon)

def size : Nat := x.symbols.size

/-- Whether two patterns are wanted in one state. -/
def meet (i j : Nat) : Bool := x.together.getD (i * x.size + j) false

def meetApart (i j : Nat) : Bool := x.apart.getD (i * x.size + j) false

end Lexicon

/-- For each token the classes that may begin what follows it. -/
def followClasses (g : Prepared) (it : Items) (t : Positions) : Array (Array Bool) :=
  let n := g.lexemes.size
  let indexOf : HashMap Nat Nat := .ofList (g.lexemes.toList.map (·.1)).zipIdx
  let none' : Array TokenSet := Array.replicate n 0
  let pairs (steps : List (Step Nat)) : List (Nat × Nat) :=
    (steps.zip steps.tail).map fun (a, b) => (a.sym, b.sym)
  let after := g.rules.foldl (fun acc r => r.productions.foldl (fun acc p =>
    (pairs p.steps).foldl (fun acc (a, b) =>
      let right := it.firsts.getD b 0
      (TokenSet.toList (it.lasts.getD a 0) g.tokenCount).foldl (fun acc k =>
        match indexOf[k]? with
        | some i => acc.modify i (· ||| right)
        | none => acc) acc) acc) acc) none'
  let all := g.lexemes.foldl (fun s (k, _) => s ||| TokenSet.single k) 0
  let after := g.extras.foldl (fun acc e =>
    let acc := acc.map (· ||| TokenSet.single e)
    match indexOf[e]? with
    | some i => acc.setIfInBounds i all
    | none => acc) after
  let openings := t.starts.map t.opening
  after.map fun s =>
    (TokenSet.toList s g.tokenCount).foldl (fun acc k => match indexOf[k]? with
      | some i => acc.zipWith (· || ·) (openings.getD i #[])
      | none => acc) (Array.replicate t.alphabet.count false)

/-- Which patterns meet, over all states, and which do so without the word token. -/
def meetings (g : Prepared) (indices : Array (Option Nat)) (states : Array State) :
    Array Bool × Array Bool :=
  let n := g.lexemes.size
  let keys := (states.foldl (fun (s : HashSet Nat) st => s.insert st.keys) {}).toList
  keys.foldl (fun (acc : Array Bool × Array Bool) k =>
    let own := (TokenSet.toList k g.tokenCount).filterMap fun s => indices.getD s none
    let hasWord := Nat.testBit k g.word
    own.foldl (fun acc i => own.foldl (fun (acc : Array Bool × Array Bool) j =>
      (acc.1.setIfInBounds (i * n + j) true,
        if hasWord then acc.2 else acc.2.setIfInBounds (i * n + j) true)) acc) acc)
    (Array.replicate (n * n) false, Array.replicate (n * n) false)

/-- The tokens that can be read as words first. -/
def findKeywords (x : Lexicon) (word : Nat) : List Nat :=
  let all := List.range x.size
  let candidates := all.filter fun i =>
    (x.clashes.get i word).sameText && !(x.clashes.get i word).ownText
  let single := candidates.filter fun i =>
    candidates.all fun j => j == i || !(x.clashes.get j i).sameText
  single.filter fun i => all.all fun j =>
    candidates.contains j || !x.meetApart i j || x.clashes.get i j == x.clashes.get word j

def Lexicon.ofGrammar (g : Prepared) (it : Items) (states : Array State) : Lexicon :=
  let positions := Positions.ofGrammar g
  let clashes := Clashes.find positions (followClasses g it positions)
  let symbols := g.lexemes.map (·.1)
  let indices := symbols.toList.zipIdx.foldl (fun (acc : Array (Option Nat)) (s, i) =>
    acc.setIfInBounds s (some i)) (Array.replicate g.tokenCount none)
  let (together, apart) := meetings g indices states
  let x : Lexicon := ⟨positions, clashes, symbols, indices, together, apart, []⟩
  { x with keywords := findKeywords x ((indices.getD g.word none).getD 0) }

/-- The tokens that the state for repairing errors takes in. -/
def repairTokens (g : Prepared) (x : Lexicon) : List Nat :=
  let all := List.range x.size
  let word := (x.indices.getD g.word none).getD 0
  let free := all.filter fun i =>
    all.all fun j => j == i || x.meet i j || !x.clashes.differsInLength i j
  let inner := all.filter fun i =>
    free.contains i || x.keywords.contains i || i == word ||
      free.all fun f => x.meet i f || !(x.clashes.get i f).conflicts
  let outer := (g.outer.zip g.shared).toList.filterMap fun (s, shared) =>
    if shared then none else some s
  0 :: inner.map (x.symbols.getD · 0) ++ outer

/-- Lets a state repair errors on the given tokens, where it has no other action. -/
def State.repairing (s : State) (tokens : List Nat) : State :=
  tokens.foldl (fun s k =>
    if (s.actions.getD k []).isEmpty || k == 0 then
      { s with actions := s.actions.setIfInBounds k [.recover]
               keys := s.keys ||| TokenSet.single k }
    else s) s

end Likeness.Grammar
