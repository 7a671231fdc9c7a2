import Likeness.Parse.Machine

/-!
# Running the parser

The versions of the stack take turns until one has read the whole text and no other can do better.
After each turn versions that are clearly worse than others are dropped.
-/

namespace Likeness.Parse

open Likeness.Grammar

namespace Machine

/-! ### Taking a token -/

/-- Whether a token that was read in one state may be taken over in another. -/
def canReuse (tbl : Table) (state : Nat) (t : Subtree) : Bool :=
  let here := tbl.states.getD state default
  let there := tbl.states.getD t.head.state default
  hasActions tbl state t.sym && here.lexMode == there.lexMode &&
    here.outerMode == there.outerMode &&
    (t.sym != tbl.word || (!t.head.keyword && t.head.state == state))

/-- The next token of a version. -/
def nextToken (tbl : Table) (m : Machine) (v : Nat) : Subtree × Machine :=
  let state := m.stack.state v
  let bytes := (m.stack.pos v).bytes
  let layout := m.stack.layout v
  let again := match m.cache with
    | some c =>
      if c.bytes == bytes && c.layout == layout && canReuse tbl state c.token then some c.token
      else none
    | none => none
  match again with
  | some t => (t, m)
  | none =>
    let token := lexToken tbl m.text m.stack v state
    (token, { m with cache := some ⟨token, bytes, layout⟩ })

/-- What became of a version after the actions on a token. -/
inductive Outcome where
  /-- The token was taken, or the version ended. -/
  | done
  /-- A reduction made the version of this number. -/
  | reduced (v : Nat)
  /-- There was no action. -/
  | stuck

def shift (s : Stack) (v state : Nat) (token : Subtree) (extra : Bool) : Stack :=
  let token := if token.extra == extra then token else token.withHead fun h => { h with extra }
  let s := s.push v (some token) state
  match token.head.layout with
  | some l => s.modifyVersion v fun h => { h with layout := some l }
  | none => s

/-- Carries out the actions of a state on a token, in turn. -/
def act (tbl : Table) (v state : Nat) (token : Subtree) : List Action → Outcome → Machine →
    Outcome × Machine
  | [], o, m => (o, m)
  | .shift _ true :: as, o, m => act tbl v state token as o m
  | .shift t false :: _, _, m => (.done, { m with stack := shift m.stack v t token false })
  | .extra :: _, _, m => (.done, { m with stack := shift m.stack v state token true })
  | .reduce sym count weight info :: as, o, m =>
    match reduce tbl m.stack v sym count weight info with
    | (some w, stack) => act tbl v state token as (.reduced w) { m with stack }
    | (none, stack) => act tbl v state token as o { m with stack }
  | .accept :: _, _, m => (.done, accept tbl m v token)
  | .recover :: _, _, m => (.done, recover tbl m v token)

/-- Takes a token on a version, after the reductions that it calls for. -/
def take (tbl : Table) (v : Nat) : (fuel : Nat) → (state : Nat) → Subtree → List Action →
    Machine → Machine
  | 0, _, _, _, m => m
  | fuel + 1, state, token, actions, m =>
    match act tbl v state token actions .stuck m with
    | (.done, m) => m
    | (.reduced w, m) =>
      let stack := m.stack.renumber w v
      let state := stack.state v
      take tbl v fuel state token (actionsOf tbl state token.sym) { m with stack }
    | (.stuck, m) =>
      let asWord := if token.head.keyword && token.sym != tbl.word
        then actionsOf tbl state tbl.word else []
      if asWord.isEmpty then
        if state == 0 then recover tbl m v token
        else { m with stack := m.stack.pause v token }
      else
        let i := symbolInfo tbl tbl.word
        let token := token.withHead fun h =>
          { h with sym := tbl.word, visible := i.visible, named := i.named }
        take tbl v fuel state token asWord m

/-- Lets a version read and take a token. -/
def advance (tbl : Table) (m : Machine) (v : Nat) : Machine :=
  let state := m.stack.state v
  let (token, m) := nextToken tbl m v
  take tbl v manySteps state token (actionsOf tbl state token.sym) m

/-! ### Choosing between versions -/

/-- Compares version `i`, which stands as given, with the earlier versions from `j` on. Returns the
number of the version to go on with. -/
def settle (given : Standing) : (fuel j i : Nat) → Stack → Nat × Stack
  | 0, _, i, s => (i + 1, s)
  | fuel + 1, j, i, s =>
    if j ≥ i then (i + 1, s)
    else
      let (other, s) := standing s j
      match other.compare given with
      | .takeLeft => (i, s.remove i)
      | .preferLeft | .none =>
        match s.merge? j i with
        | some s => (i, s)
        | none => settle given fuel (j + 1) i s
      | .preferRight =>
        match s.merge? j i with
        | some s => (i, s)
        | none => settle given fuel (j + 1) i (s.swap i j)
      | .takeRight => settle given fuel j (i - 1) (s.remove j)

/-- Goes over the versions from number `i` on: drops the ended ones, and merges or drops those that
others make needless. Gathers the least cost of a version that is not in error. -/
def settleAll : (fuel i : Nat) → Option Nat → Stack → Option Nat × Stack
  | 0, _, best, s => (best, s)
  | fuel + 1, i, best, s =>
    if i ≥ s.size then (best, s)
    else if s.isHalted i then settleAll fuel i best (s.remove i)
    else
      let (given, s) := standing s i
      let best := if given.inError then best
        else some ((best.map (min given.cost)).getD given.cost)
      let (next, s) := settle given (i + 1) 0 i s
      settleAll fuel next best s

/-- Goes over the versions below `count` from number `i` on. The first one is resumed if it is
paused; paused ones after another are dropped. -/
def resumeBest (tbl : Table) : (fuel i count : Nat) → (running : Bool) → Option Nat → Machine →
    Option Nat × Machine
  | 0, _, _, _, best, m => (best, m)
  | fuel + 1, i, count, running, best, m =>
    if i ≥ count then (best, m)
    else if m.stack.isPaused i then
      if !running && m.accepted < maxVersions then
        let cost := m.stack.cost i
        match (m.stack.version i).lookahead with
        | some token =>
          let m := handleError tbl { m with stack := m.stack.resume i } i token
          resumeBest tbl fuel (i + 1) count true (some cost) m
        | none => resumeBest tbl fuel (i + 1) count true (some cost) m
      else resumeBest tbl fuel i (count - 1) running best { m with stack := m.stack.remove i }
    else resumeBest tbl fuel (i + 1) count true best m

/-- Tidies the versions up. Returns the least cost that one of them can have, if it is known. -/
def condense (tbl : Table) (m : Machine) : Option Nat × Machine :=
  let (best, s) := settleAll (m.stack.size + 1) 0 none m.stack
  let s := { s with versions := s.versions.extract 0 maxVersions }
  resumeBest tbl (s.size + 1) 0 s.size false best { m with stack := s }

/-! ### The run -/

/-- Lets one version advance until it has taken in text, or is no longer active. -/
def advanceOne (tbl : Table) (v : Nat) : (fuel last : Nat) → Machine → Nat × Machine
  | 0, last, m => (last, m)
  | fuel + 1, last, m =>
    if m.stack.isActive v then
      let m := advance tbl m v
      let pos := (m.stack.pos v).bytes
      if pos > last || (v > 0 && pos == last) then (pos, m) else advanceOne tbl v fuel last m
    else (last, m)

/-- Lets the versions from number `v` on advance, also those that arise meanwhile. -/
def advanceAll (tbl : Table) : (fuel v last : Nat) → Machine → Nat × Machine
  | 0, _, last, m => (last, m)
  | fuel + 1, v, last, m =>
    if v < m.stack.size then
      let (last, m) := advanceOne tbl v manySteps last m
      advanceAll tbl fuel (v + 1) last m
    else (last, m)

def run (tbl : Table) : (fuel last : Nat) → Machine → Machine
  | 0, _, m => m
  | fuel + 1, last, m =>
    let (last, m) := advanceAll tbl manySteps 0 last m
    let count := m.stack.size
    let (best, m) := condense tbl m
    let done := match m.finished, best with
      | some t, some b => t.cost < b
      | some _, none => true
      | none, _ => false
    if done || count == 0 then m else run tbl fuel last m

end Machine

/-- The tree of a text. -/
def parseText (tbl : Table) (text : String) : Option Subtree :=
  (Machine.run tbl manySteps 0 { text := text.toList.toArray, stack := .initial }).finished

end Likeness.Parse
