import Likeness.Parse.Lexer

/-!
# Parsing with repair of errors

The machine follows all readings of a text at once, each as a version of its stack. A version that
meets a token it has no action for is paused. When the best version is paused, its error is mended:
by putting in a token that is missing, by going back to a state that has a use for the token, or by
passing over the token. The costs of errors decide which versions are followed further.
-/

namespace Likeness.Parse

open Likeness.Grammar

def maxVersions : Nat := 6
def maxOverflow : Nat := 4
def maxSummaryDepth : Nat := 16
def maxCostDifference : Nat := 16 * costPerSkippedTree

/-- A bound on the number of steps that no text reaches. -/
def manySteps : Nat := 1000000000000000

/-- The token read last, with the place and layout it was read at. -/
structure TokenCache where
  token : Subtree
  bytes : Nat
  layout : Option Layout

structure Machine where
  text : Array Char
  stack : Stack
  cache : Option TokenCache := none
  finished : Option Subtree := none
  accepted : Nat := 0

namespace Machine

/-! ### Comparing versions -/

/-- What versions are compared by. -/
structure Standing where
  cost : Nat
  nodeCount : Nat
  weight : Int
  inError : Bool

inductive Verdict where
  | takeLeft
  | preferLeft
  | none
  | preferRight
  | takeRight
deriving BEq, DecidableEq

def Standing.compare (a b : Standing) : Verdict :=
  if !a.inError && b.inError then if a.cost < b.cost then .takeLeft else .preferLeft
  else if a.inError && !b.inError then if b.cost < a.cost then .takeRight else .preferRight
  else if a.cost < b.cost then
    if (b.cost - a.cost) * (1 + a.nodeCount) > maxCostDifference then .takeLeft else .preferLeft
  else if b.cost < a.cost then
    if (a.cost - b.cost) * (1 + b.nodeCount) > maxCostDifference then .takeRight
    else .preferRight
  else if a.weight > b.weight then .preferLeft
  else if b.weight > a.weight then .preferRight
  else .none

/-- How a version stands. -/
def standing (s : Stack) (v : Nat) : Standing × Stack :=
  let paused := s.isPaused v
  let s := s.clampCount v
  (⟨s.cost v + (if paused then costPerSkippedTree else 0), s.countSinceError v, s.weight v,
    paused || s.state v == 0⟩, s)

/-- Whether another version makes one of the given cost pointless. -/
def betterExists (m : Machine) (v : Nat) (inError : Bool) (cost : Nat) : Bool × Machine :=
  if m.finished.any fun t => t.cost ≤ cost then (true, m)
  else
    let stack := m.stack.clampCount v
    let own : Standing := ⟨cost, stack.countSinceError v, stack.weight v, inError⟩
    let pos := (stack.pos v).bytes
    let (found, stack) := (List.range stack.size).foldl (fun (acc : Bool × Stack) i =>
      let (found, s) := acc
      if found || i == v || !s.isActive i || (s.pos i).bytes < pos then acc
      else
        let (other, s) := standing s i
        match own.compare other with
        | .takeRight => (true, s)
        | .preferRight => (s.canMerge i v, s)
        | _ => (false, s)) (false, stack)
    (found, { m with stack })

/-! ### Reducing -/

/-- The slices of one version, which are readings of the same text. -/
def groupSlices : List Slice → List (Nat × List (Array Subtree))
  | [] => []
  | x :: xs =>
    match groupSlices xs with
    | (v, ts) :: rest =>
      if v == x.version then (v, x.trees :: ts) :: rest
      else (x.version, [x.trees]) :: (v, ts) :: rest
    | [] => [(x.version, [x.trees])]

/-- The best node over one of several rows of children, with the extras that end its row. -/
def bestParent (tbl : Table) (sym info : Nat) : List (Array Subtree) → Subtree × Array Subtree
  | [] => (Subtree.ofChildren tbl sym #[] info, #[])
  | row :: rows =>
    let (children, extras) := splitTrailing row
    rows.foldl (fun best row =>
      let (children, extras) := splitTrailing row
      if preferSecond best.1 (Subtree.ofChildren tbl sym children 0)
      then (Subtree.ofChildren tbl sym children info, extras) else best)
      (Subtree.ofChildren tbl sym children info, extras)

/-- Merges a version into an earlier one other than `except`, if it can be. -/
def mergeBack (s : Stack) (except' v : Nat) : Option Stack :=
  (List.range v).findSome? fun j => if j == except' then none else s.merge? j v

/-- Puts the last `count` trees of a version under a node. Returns the first version that this
makes. -/
def reduce (tbl : Table) (s : Stack) (v sym count : Nat) (weight : Int) (info : Nat) :
    Option Nat × Stack :=
  let before := s.size
  let (slices, s) := s.pop v count
  let (s, _) := (groupSlices slices.toList).foldl (fun (acc : Stack × Nat) (sv, rows) =>
    let (s, removed) := acc
    let sv := sv - removed
    if sv > maxVersions + maxOverflow then (s.remove sv, removed + 1)
    else
      let (parent, extras) := bestParent tbl sym info rows
      let parent := parent.withHead fun h => { h with weight := h.weight + weight }
      let next := nextState tbl (s.state sv) sym
      let s := s.push sv (some parent) next
      let s := extras.foldl (fun s t => s.push sv (some t) next) s
      match mergeBack s v sv with
      | some s => (s, removed + 1)
      | none => (s, removed)) (s, 0)
  (if s.size > before then some before else none, s)

/-- The reductions of a state on any of the given tokens, each symbol and count once, and whether
one of the tokens can be taken. -/
def reductionsOn (tbl : Table) (state : Nat) (tokens : List Nat) :
    List (Nat × Nat × Int × Nat) × Bool :=
  let (rs, shifts) := tokens.foldl (fun acc k =>
    (actionsOf tbl state k).foldl (fun (acc : List (Nat × Nat × Int × Nat) × Bool) a =>
      match a with
      | .shift _ false => (acc.1, true)
      | .recover => (acc.1, true)
      | .reduce sym count weight info =>
        if count > 0 && !acc.1.any (fun r => r.1 == sym && r.2.1 == count)
        then ((sym, count, weight, info) :: acc.1, acc.2) else acc
      | _ => acc) acc) ([], false)
  (rs.reverse, shifts)

/-- Makes all reductions that a token allows, starting from one version; token 0 stands for any.
Tells whether the token can be taken then. Versions from number `before` on are new. -/
def reduceAll (tbl : Table) (start before token : Nat) :
    (fuel round v : Nat) → Bool → Stack → Bool × Stack
  | 0, _, _, can, s => (can, s)
  | fuel + 1, round, v, can, s =>
    let count := s.size
    if v ≥ count then (can, s)
    else
      match (List.range' before (v - before)).findSome? fun j => s.merge? j v with
      | some s => reduceAll tbl start before token fuel (round + 1) v can s
      | none =>
        let tokens := if token == 0 then (List.range tbl.tokenCount).tail else [token]
        let (rs, shifts) := reductionsOn tbl (s.state v) tokens
        let (last, s) := rs.foldl (fun (acc : Option Nat × Stack) r =>
          reduce tbl acc.2 v r.1 r.2.1 r.2.2.1 r.2.2.2) (none, s)
        let onward (can : Bool) (s : Stack) :=
          reduceAll tbl start before token fuel (round + 1) (if v == start then count else v + 1)
            can s
        if shifts then onward true s
        else match last with
          | some r =>
            if round < maxVersions then
              reduceAll tbl start before token fuel (round + 1) v can (s.renumber r v)
            else onward can (if token == 0 then s else s.remove v)
          | none => onward can (if token == 0 then s else s.remove v)

/-! ### Finishing -/

/-- Replaces the last tree that is no extra by its children, under a root of its kind. -/
def rootOf (tbl : Table) (trees : Array Subtree) : Subtree :=
  let (front, extras) := splitTrailing trees
  match front.back? with
  | some t =>
    Subtree.ofChildren tbl t.sym (front.pop ++ t.children ++ extras) t.head.info
  | none => Subtree.ofChildren tbl errorSym trees 0

/-- Ends a version at the end of the text. -/
def accept (tbl : Table) (m : Machine) (v : Nat) (lookahead : Subtree) : Machine :=
  let (slices, s) := (m.stack.push v (some lookahead) 1).popAll v
  let m := slices.foldl (fun (m : Machine) x =>
    let root := rootOf tbl x.trees
    let finished := match m.finished with
      | some t => if preferSecond t root then root else t
      | none => root
    { m with finished := some finished, accepted := m.accepted + 1 }) m
  let s := match slices[0]? with
    | some x => s.remove x.version
    | none => s
  { m with stack := s.halt v }

/-! ### Mending errors -/

/-- Goes back to a state that lies under the top `depth` trees of a version. -/
def recoverTo (tbl : Table) (s : Stack) (v depth goal : Nat) : Bool × Stack :=
  let (slices, s) := s.pop v depth
  let (previous, s) := slices.foldl (fun (acc : Option Nat × Stack) x =>
    let (previous, s) := acc
    if previous == some x.version then acc
    else if s.state x.version != goal then (previous, s.halt x.version)
    else
      let (err, s) := s.popError x.version
      let trees := match err with
        | some t => t.children ++ x.trees
        | none => x.trees
      let (trees, extras) := splitTrailing trees
      let s := if trees.isEmpty then s
        else s.push x.version (some (Subtree.error tbl trees true)) goal
      let s := extras.foldl (fun s t => s.push x.version (some t) goal) s
      (some x.version, s)) (none, s)
  (previous.isSome, s)

/-- Goes through the states that a version went through before its error, and goes back to the first
one that has a use for the token. -/
def recoverBySummary (tbl : Table) (v : Nat) (lookahead : Subtree) (count cost before : Nat)
    (pos : Extent) : List SummaryEntry → Machine → Bool × Machine
  | [], m => (false, m)
  | e :: es, m =>
    if e.state == 0 || e.pos.bytes == pos.bytes then
      recoverBySummary tbl v lookahead count cost before pos es m
    else
      let depth := if count > 0 then e.depth + 1 else e.depth
      let again := (List.range before).any fun j =>
        m.stack.state j == e.state && (m.stack.pos j).bytes == pos.bytes
      if again then recoverBySummary tbl v lookahead count cost before pos es m
      else
        let newCost := cost + e.depth * costPerSkippedTree +
          (pos.bytes - e.pos.bytes) * costPerSkippedChar +
          (pos.row - e.pos.row) * costPerSkippedLine
        let (better, m) := m.betterExists v false newCost
        if better then (false, m)
        else if hasActions tbl e.state lookahead.sym then
          match recoverTo tbl m.stack v depth e.state with
          | (true, stack) => (true, { m with stack })
          | (false, stack) =>
            recoverBySummary tbl v lookahead count cost before pos es { m with stack }
        else recoverBySummary tbl v lookahead count cost before pos es m

/-- Drops the versions from number `i` on that are not active. -/
def dropInactive : (fuel i : Nat) → Stack → Stack
  | 0, _, s => s
  | fuel + 1, i, s =>
    if i ≥ s.size then s
    else if s.isActive i then dropInactive fuel (i + 1) s
    else dropInactive fuel i (s.remove i)

/-- Passes over a token: it joins the misfit text on top of the version. -/
def skipToken (tbl : Table) (s : Stack) (v count : Nat) (lookahead : Subtree) : Stack :=
  let extra := match (actionsOf tbl 1 lookahead.sym).getLast? with
    | some .extra => true
    | _ => false
  let lookahead := if extra then lookahead.withHead fun h => { h with extra := true }
    else lookahead
  let part := Subtree.ofChildren tbl errorPartSym #[lookahead] 0
  let (part, s) :=
    if count > 0 then
      let (slices, s) := s.pop v 1
      match slices[0]? with
      | some x =>
        let s := if slices.size > 1 then
            { s with versions := s.versions.extract 0 (x.version + 1) }
          else s
        (Subtree.ofChildren tbl errorPartSym (x.trees.push part) 0, s.renumber x.version v)
      | none => (part, s)
    else (part, s)
  let s := s.push v (some part) 0
  match lookahead.head.layout with
  | some l => s.modifyVersion v fun h => { h with layout := some l }
  | none => s

/-- Mends the error of a version at a token. -/
def recover (tbl : Table) (m : Machine) (v : Nat) (lookahead : Subtree) : Machine :=
  let before := m.stack.size
  let pos := m.stack.pos v
  let summary := (m.stack.version v).summary
  let stack := m.stack.clampCount v
  let count := stack.countSinceError v
  let cost := stack.cost v
  let m := { m with stack }
  let (did, m) := match summary with
    | some sum =>
      if lookahead.isError then (false, m)
      else recoverBySummary tbl v lookahead count cost before pos sum.toList m
    | none => (false, m)
  let m := { m with stack := dropInactive (m.stack.size + 1) before m.stack }
  if did && (m.stack.size > maxVersions || lookahead.head.layoutChanged) then
    { m with stack := m.stack.halt v }
  else if lookahead.isEnd then
    let m := { m with stack := m.stack.push v (some (Subtree.error tbl #[] false)) 1 }
    accept tbl m v lookahead
  else
    let newCost := cost + costPerSkippedTree + lookahead.total.bytes * costPerSkippedChar +
      lookahead.total.row * costPerSkippedLine
    let (better, m) := m.betterExists v false newCost
    if better then { m with stack := m.stack.halt v }
    else { m with stack := skipToken tbl m.stack v count lookahead }

/-- Puts in a token that is missing: of the tokens from `k` on, the first one after which the token
read leads on from a copy of the version. Tells whether there is one. -/
def insertMissing (tbl : Table) (v : Nat) (lookahead : Subtree) : (count k : Nat) → Stack →
    Bool × Stack
  | 0, _, s => (false, s)
  | count + 1, k, s =>
    let state := s.state v
    let after := nextState tbl state k
    if after == 0 || after == state || !startsByReducing tbl after lookahead.sym then
      insertMissing tbl v lookahead count (k + 1) s
    else
      let (w, s) := s.copy v
      let s := s.push w (some (Subtree.missingLeaf tbl k {})) after
      match reduceAll tbl w s.size lookahead.sym manySteps 0 w false s with
      | (true, s) => (true, s)
      | (false, s) => insertMissing tbl v lookahead count (k + 1) s

/-- Marks the error on a version and on the versions from `first` up to `last`, after trying to put
in a missing token on one of them. -/
def markErrors (tbl : Table) (v first last : Nat) (lookahead : Subtree) (s : Stack) : Stack :=
  let (_, s) := (v :: List.range' first (last - first)).foldl (fun (acc : Bool × Stack) w =>
    let (done, s) := acc
    let (done, s) := if done then (done, s)
      else insertMissing tbl w lookahead (tbl.tokenCount - 1) 1 s
    (done, s.push w none 0)) (false, s)
  s

/-- Begins to mend the error that a version has met at a token. -/
def handleError (tbl : Table) (m : Machine) (v : Nat) (lookahead : Subtree) : Machine :=
  let before := m.stack.size
  let (_, s) := reduceAll tbl v before 0 manySteps 0 v false m.stack
  let count := s.size
  let s := markErrors tbl v before count lookahead s
  let s := (List.range (count - before)).foldl (fun s _ => (s.merge? v before).getD s) s
  recover tbl { m with stack := s.recordSummary v maxSummaryDepth } v lookahead

end Machine
end Likeness.Parse
