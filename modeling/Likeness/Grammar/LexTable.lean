import Likeness.Grammar.Merge

/-!
# Lexical states

Each state of the grammar reads its tokens in a lexical state. States whose tokens can be read
together without a clash share one. A lexical state reads characters one by one, some of them as
blanks before the token, and remembers the token that was complete last.
-/

namespace Likeness.Grammar

open Std (HashMap)

/-- A lexical state. `moves` holds for each class of characters 0 for no move, or one more than
twice the next state, and one more again if the character is a blank before the token. `atEnd` is
one more than the state after the end of the text, or 0. -/
structure LexState where
  token : Option Nat
  moves : Array Nat
  atEnd : Nat
deriving Inhabited

/-- The lexical states, with the one that each mode begins in and the one that tells keywords. -/
structure LexTable where
  alphabet : Alphabet
  states : Array LexState
  starts : Array Nat
  keywordStart : Nat
deriving Inhabited

/-! ### Modes -/

/-- The tokens that a lexical state must read for a state: keywords are read as words. -/
def lexTokens (g : Prepared) (x : Lexicon) (s : State) : TokenSet :=
  let inner := (List.range x.size).foldl (fun acc i =>
    let k := x.symbols.getD i 0
    if Nat.testBit s.keys k then
      acc ||| TokenSet.single (if x.keywords.contains i then g.word else k)
    else acc) 0
  if Nat.testBit s.keys 0 then inner ||| TokenSet.single 0 else inner

/-- Whether two sets of tokens can be read in one lexical state. -/
def canJoin (x : Lexicon) (a b : TokenSet) : Bool :=
  (List.range x.size).all fun i =>
    let k := x.symbols.getD i 0
    let without := match Nat.testBit a k, Nat.testBit b k with
      | true, false => some b
      | false, true => some a
      | _, _ => none
    match without with
    | none => true
    | some w => (List.range x.size).all fun j =>
        if Nat.testBit w (x.symbols.getD j 0) then
          let c := x.clashes.get i j
          !(c.conflicts || c.stopsEarly) &&
            (x.meet i j || !(c.overlaps || (x.clashes.get j i).overlaps))
        else true

/-- Puts a set of tokens into the first mode that can take it. -/
def joinMode (x : Lexicon) (s : TokenSet) : Nat → List TokenSet → Nat × List TokenSet
  | i, [] => (i, [s])
  | i, m :: ms =>
    if canJoin x m s then (i, (m ||| s) :: ms)
    else
      let (k, ms) := joinMode x s (i + 1) ms
      (k, m :: ms)

/-- The mode of each state, and the tokens of each mode. -/
def lexModes (g : Prepared) (x : Lexicon) (states : Array State) : Array Nat × List TokenSet :=
  states.foldl (fun (acc : Array Nat × List TokenSet) s =>
    let (k, ms) := joinMode x (lexTokens g x s) 0 acc.2
    (acc.1.push k, ms)) (#[], [])

/-! ### States -/

/-- The lexical states found so far, by the positions that may come next and whether the end of the
text may. -/
structure LexBuilder where
  known : HashMap (List Nat × Bool) Nat := {}
  sources : Array (List Nat × Bool) := #[]
  states : Array LexState := #[]

def LexBuilder.intern (b : LexBuilder) (s : List Nat × Bool) : Nat × LexBuilder :=
  match b.known[s]? with
  | some i => (i, b)
  | none =>
    let i := b.sources.size
    (i, { b with known := b.known.insert s i, sources := b.sources.push s })

/-- Works out one lexical state. -/
def LexBuilder.expand (x : Lexicon) (n : Nat) (b : LexBuilder) : LexBuilder :=
  let t := x.positions
  let (s, ending) := b.sources.getD n ([], false)
  let done := (t.completions s).foldl (fun (best : Option (Nat × Int)) c =>
    match best with
    | none => some c
    | some d => if t.prefersToken d c then some d else some c) none
  let blank := t.atBlank s
  let (atEnd, b) :=
    if ending then
      let (i, b) := b.intern ([], false)
      (i + 1, b)
    else (0, b)
  let (moves, b) := (List.range t.alphabet.count).foldl
    (fun (acc : Array Nat × LexBuilder) k =>
      match t.move? s k with
      | none => (acc.1.push 0, acc.2)
      | some m =>
        let goes := match done with
          | none => true
          | some d => t.prefersMove m d blank
        if goes then
          let (i, b) := acc.2.intern (m.target, ending && m.blank)
          (acc.1.push (2 * i + 1 + (if m.blank then 1 else 0)), b)
        else (acc.1.push 0, acc.2)) (#[], b)
  let token := match done with
    | some d => some (x.symbols.getD d.1 0)
    | none => if s.isEmpty then some 0 else none
  { b with states := b.states.push ⟨token, moves, atEnd⟩ }

def LexBuilder.run (x : Lexicon) : (fuel n : Nat) → LexBuilder → LexBuilder
  | 0, _, b => b
  | fuel + 1, n, b => if n < b.sources.size then run x fuel (n + 1) (b.expand x n) else b

/-- The beginning of a set of tokens: the positions that may come next, and whether the end may. -/
def lexStart (x : Lexicon) (s : TokenSet) : List Nat × Bool :=
  ((List.range x.size).foldl (fun acc i =>
    if Nat.testBit s (x.symbols.getD i 0) then insertAll acc (x.positions.starts.getD i [])
    else acc) [], Nat.testBit s 0)

/-- The table of lexical states for the given modes. -/
def LexTable.ofModes (x : Lexicon) (modes : List TokenSet) : LexTable :=
  let keywords := x.keywords.foldl (fun s i => s ||| TokenSet.single (x.symbols.getD i 0)) 0
  let (starts, b) := (modes ++ [keywords]).foldl (fun (acc : Array Nat × LexBuilder) m =>
    let (i, b) := acc.2.intern (lexStart x m)
    (acc.1.push i, b)) (#[], {})
  let b := b.run x 100000 0
  { alphabet := x.positions.alphabet, states := b.states
    starts := starts.pop, keywordStart := starts.back?.getD 0 }

end Likeness.Grammar
