import Likeness.Parse.Stack

/-!
# Reading the next token

A token is read by the outer scanner if that wants to, and else by the lexical states of the table.
Where neither knows the text, all tokens are allowed; where that does not help either, characters
are passed over until a token begins, and become a token of misfit text.
-/

namespace Likeness.Parse

open Likeness.Grammar

/-! ### The actions of a table -/

/-- The actions of a state on a token. -/
def actionsOf (tbl : Table) (state sym : Nat) : List Action :=
  match tbl.states[state]? with
  | some s => s.actions.getD sym []
  | none => []

/-- The state after a symbol, 0 if there is none. -/
def nextState (tbl : Table) (state sym : Nat) : Nat :=
  if sym == errorSym || sym == errorPartSym then 0
  else if sym < tbl.tokenCount then
    match (actionsOf tbl state sym).getLast? with
    | some (.shift t _) => t
    | some .extra => state
    | _ => 0
  else match tbl.states[state]? with
    | some s => s.gotos.getD (sym - tbl.tokenCount) 0
    | none => 0

def hasActions (tbl : Table) (state sym : Nat) : Bool := !(actionsOf tbl state sym).isEmpty

def startsByReducing (tbl : Table) (state sym : Nat) : Bool :=
  match actionsOf tbl state sym with
  | .reduce .. :: _ => true
  | _ => false

/-! ### Reading -/

/-- Runs the lexical states; returns the token that was complete last. -/
def runLexer (lx : LexTable) : (fuel state : Nat) → Option Nat → Reader → Option Nat × Reader
  | 0, _, best, r => (best, r)
  | fuel + 1, state, best, r =>
    let x := lx.states.getD state default
    let (best, r) := match x.token with
      | some t => (some t, r.markEnd)
      | none => (best, r)
    if r.atEnd then
      if x.atEnd == 0 then (best, r) else runLexer lx fuel (x.atEnd - 1) best r
    else
      match x.moves.getD (lx.alphabet.classOf r.look.toNat) 0 with
      | 0 => (best, r)
      | m + 1 => runLexer lx fuel (m / 2) best (if m % 2 == 1 then r.skip else r.advance)

/-- The tokens of the outer scanner that a state wants. -/
def wants (tbl : Table) (state : Nat) (t : LayoutToken) : Bool :=
  match tbl.states[state]? with
  | some s => s.outer.getD t.index false
  | none => false

/-- A token as it was read: its symbol, where it begins and ends, and the layout after it if the
outer scanner read it. -/
structure Reading where
  sym : Nat
  start : Extent
  stop : Extent
  layout : Option Layout := none
  changed : Bool := false

/-- Lets the outer scanner read a token, as state `mode` allows. A token without text is refused
where it would change nothing and could come again without end. -/
def readOuter (tbl : Table) (s : Stack) (v state mode : Nat) (layout : Option Layout)
    (r : Reader) : Option Reading :=
  match Layout.scan (wants tbl mode) r.begin (layout.getD {}) with
  | none => none
  | some (t, r', l) =>
    let r' := r'.finish
    let l := l.kept
    let sym := tbl.outer.getD t.index 0
    let changed := layout != some l
    let extra := nextState tbl state sym == state
    if r'.ending.bytes ≤ r.pos.bytes && !changed && (mode == 0 || !s.hasAdvanced v || extra)
    then none
    else some ⟨sym, r'.start, r'.ending, some l, changed⟩

/-- Where text that no token fits begins and ends so far. -/
abbrev Misfit := Option (Extent × Extent)

/-- Reads on until a token or the end of the text is found. -/
def readToken (tbl : Table) (s : Stack) (v state : Nat) (origin : Reader)
    (layout : Option Layout) : (fuel : Nat) → (mode : Nat) → Misfit → Reader → Reading × Misfit
  | 0, _, misfit, r => (⟨errorSym, r.pos, r.pos, none, false⟩, misfit)
  | fuel + 1, mode, misfit, r =>
    match readOuter tbl s v state mode layout r with
    | some x => (x, misfit)
    | none =>
      let start := tbl.lexer.starts.getD ((tbl.states.getD mode default).lexMode) 0
      let (found, q) := runLexer tbl.lexer (r.left + 3) start none r.begin
      match found with
      | some sym =>
        let q := q.finish
        (⟨sym, q.start, q.ending, none, false⟩, misfit)
      | none =>
        if mode != 0 then readToken tbl s v state origin layout fuel 0 misfit origin
        else
          let (from', upto) := misfit.getD (q.start, q.start)
          if q.pos.bytes == upto.bytes then
            if q.atEnd then (⟨errorSym, q.pos, q.pos, none, false⟩, some (from', upto))
            else
              let q := q.advance
              readToken tbl s v state origin layout fuel 0 (some (from', q.pos)) q
          else readToken tbl s v state origin layout fuel 0 (some (from', q.pos)) q

/-- The keyword that a word spells, where the state has a use for it, and whether it spells one at
all. -/
def readKeyword (tbl : Table) (text : Array Char) (state : Nat) (x : Reading) : Nat × Bool :=
  if x.layout.isNone && x.sym == tbl.word then
    let r := (Reader.at' text x.start).begin
    let (found, q) := runLexer tbl.lexer (r.left + 3) tbl.lexer.keywordStart none r
    match found with
    | some k =>
      if q.finish.ending.bytes == x.stop.bytes && hasActions tbl state k then (k, true)
      else (x.sym, true)
    | none => (x.sym, false)
  else (x.sym, false)

/-- The next token of a version, read in a state. -/
def lexToken (tbl : Table) (text : Array Char) (s : Stack) (v state : Nat) : Subtree :=
  let pos := s.pos v
  let r := Reader.at' text pos
  match readToken tbl s v state r (s.layout v) (2 * r.left + 10) state none r with
  | (_, some (a, b)) =>
    Subtree.leaf tbl errorSym (a.sub pos) (b.sub a) state false none false
  | (x, none) =>
    let (sym, keyword) := readKeyword tbl text state x
    Subtree.leaf tbl sym (x.start.sub pos) (x.stop.sub x.start) state keyword x.layout x.changed

end Likeness.Parse
