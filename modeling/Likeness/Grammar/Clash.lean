import Likeness.Grammar.Positions

/-!
# How two tokens interfere

Reading two tokens side by side shows in which ways they interfere: whether they read the same text,
whether one is preferred where it only begins what the other reads, and whether one goes on after
the other is complete. Which tokens can stand next to each other decides whether going on can be
wrong.
-/

namespace Likeness.Grammar

open Std (HashSet)

/-- What one token does to another. -/
structure Clash where
  /-- It is preferred on a text that the other only begins with. -/
  stopsEarly : Bool := false
  /-- It goes on where the other is complete. -/
  goesOn : Bool := false
  /-- It goes on with a character that may begin what follows the other. -/
  goesOnWrongly : Bool := false
  /-- It is complete where blanks of the other can be read. -/
  readsBlanks : Bool := false
  /-- It is preferred on a text that both read. -/
  sameText : Bool := false
  /-- It reads a text that the other does not. -/
  ownText : Bool := false
deriving BEq, Inhabited

namespace Clash

def conflicts (c : Clash) : Bool := c.goesOnWrongly || c.readsBlanks || c.sameText

def overlaps (c : Clash) : Bool := c.readsBlanks || c.stopsEarly || c.sameText || c.goesOn

end Clash

/-- The clashes of all pairs of tokens. -/
structure Clashes where
  size : Nat
  table : Array Clash
deriving Inhabited

namespace Clashes

def get (m : Clashes) (i j : Nat) : Clash := m.table.getD (i * m.size + j) {}

/-- Whether token `i` reads a text that is shorter or longer than one that `j` reads, and the
blanks do not decide between them. -/
def differsInLength (m : Clashes) (i j : Nat) : Bool :=
  let a := m.get i j
  (a.goesOnWrongly || a.readsBlanks) && !(m.get j i).readsBlanks

end Clashes

/-- The clash of tokens `i` and `j`, and of `j` and `i`, while it is being found. -/
structure PairState where
  one : Clash := {}
  two : Clash := {}
  seen : HashSet (List Nat) := {}
  queue : List (List Nat) := []

namespace PairState

/-- Records a fact about the token `k` of the pair `i`, `j`. -/
def note (st : PairState) (i k : Nat) (f : Clash → Clash) : PairState :=
  if k == i then { st with one := f st.one } else { st with two := f st.two }

end PairState

variable (t : Positions) (follow : Array (Array Bool))

/-- Whether a class may begin what follows token `k`. -/
def mayFollow (k c : Nat) : Bool := (follow.getD k #[]).getD c false

/-- Records which tokens are complete in a set; returns the preferred one. -/
def noteCompletions (i : Nat) (s : List Nat) (st : PairState) : Option (Nat × Int) × PairState :=
  let blank := t.atBlank s
  (t.completions s).foldl (fun (best, st) c =>
    let st := if blank then st.note i c.1 fun x => { x with readsBlanks := true } else st
    match best with
    | none => (some c, st)
    | some b =>
      if t.prefersToken b c then (best, st.note i b.1 fun x => { x with sameText := true })
      else (some c, st.note i c.1 fun x => { x with sameText := true })) (none, st)

/-- Records what one class of characters leads to. -/
def noteMove (i j : Nat) (s : List Nat) (done : Option (Nat × Int)) (st : PairState) (c : Nat) :
    PairState :=
  match t.move? s c with
  | none => st
  | some m =>
    let owners := t.owners m.target
    let (st, go) := match done with
      | none => (st, true)
      | some d =>
        if owners.contains d.1 then (st, true)
        else match owners.getLast? with
          | none => (st, true)
          | some other =>
            if t.prefersMove m d (t.atBlank s) then
              let rival := if other == i then j else i
              (st.note i other fun x => { x with
                goesOn := true
                goesOnWrongly := x.goesOnWrongly || mayFollow follow rival c }, true)
            else (st.note i d.1 fun x => { x with stopsEarly := true }, false)
    if go && !st.seen.contains m.target then
      { st with seen := st.seen.insert m.target, queue := m.target :: st.queue }
    else st

/-- Follows all texts that both tokens can still read. -/
def explorePair (i j : Nat) : Nat → PairState → PairState
  | 0, st => st
  | fuel + 1, st =>
    match st.queue with
    | [] => st
    | s :: rest =>
      let st := { st with queue := rest }
      match t.owners s with
      | [k] => explorePair i j fuel (st.note i k fun x => { x with ownText := true })
      | _ =>
        let (done, st) := noteCompletions t i s st
        let st := (List.range t.alphabet.count).foldl (noteMove t follow i j s done) st
        explorePair i j fuel st

/-- All clashes, given the classes that may begin what follows each token. -/
def Clashes.find : Clashes :=
  let n := t.starts.size
  let pairs := (List.range n).flatMap fun i => (List.range i).map fun j => (i, j)
  let table := pairs.foldl (fun (table : Array Clash) (i, j) =>
    let start := insertAll (t.starts.getD i []) (t.starts.getD j [])
    let st := explorePair t follow i j 100000 { queue := [start] }
    (table.setIfInBounds (i * n + j) st.one).setIfInBounds (j * n + i) st.two)
    (Array.replicate (n * n) {})
  ⟨n, table⟩

end Likeness.Grammar
