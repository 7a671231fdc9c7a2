import Likeness.Grammar.Keywords

/-!
# Merging states

States with the same places differ in the tokens that may follow. Two of them can be one state
unless their actions disagree, or a token that one of them lacks would be read where the other now
reads something else. Steps that only rename a tree are left out, and the states that remain are
put in order of size.
-/

namespace Likeness.Grammar

open Std (HashMap)

/-- A division of the states into groups. -/
structure Grouping where
  groups : Array (Array Nat)
  groupOf : Array Nat
deriving Inhabited

namespace Grouping

/-- The members of a group that clash with a member before them that stays. -/
def misfits (clash : Nat → Nat → Bool) (ids : Array Nat) : Array Nat :=
  (ids.foldl (fun (acc : Array Nat × Array Nat) j =>
    if acc.1.any fun i => clash i j then (acc.1, acc.2.push j) else (acc.1.push j, acc.2))
    (#[], #[])).2

/-- Takes out of each group the members that clash with one that stays, as a new group, which is
gone through in its turn. The test sees the division as it is by then. -/
def split (clash : Array Nat → Nat → Nat → Bool) : (fuel i : Nat) → Grouping × Bool →
    Grouping × Bool
  | 0, _, r => r
  | fuel + 1, i, (d, changed) =>
    if i < d.groups.size then
      let ids := d.groups.getD i #[]
      let out := if ids.size ≤ 1 then #[] else misfits (clash d.groupOf) ids
      if out.isEmpty then split clash fuel (i + 1) (d, changed)
      else
        let g := d.groups.size
        let groupOf := out.foldl (fun acc s => acc.setIfInBounds s g) d.groupOf
        let stay := ids.filter fun s => groupOf.getD s 0 != g
        split clash fuel (i + 1) (⟨(d.groups.setIfInBounds i stay).push out, groupOf⟩, true)
    else (d, changed)

/-- Splits until nothing changes. -/
def refine (clash : Array Nat → Nat → Nat → Bool) : Nat → Grouping → Grouping
  | 0, d => d
  | fuel + 1, d =>
    match split clash 1000000 0 (d, false) with
    | (d, true) => refine clash fuel d
    | (d, false) => d

end Grouping

/-- What decides whether a state can gain a token: the tokens it can never gain, and for each other
token those that it may not join. -/
structure Barriers where
  fixed : TokenSet
  rivals : Array TokenSet
deriving Inhabited

def Barriers.ofLexicon (g : Prepared) (x : Lexicon) : Barriers :=
  let inner := x.symbols.foldl (fun s k => s ||| TokenSet.single k) 0
  let all := (List.range g.tokenCount).foldl (fun s k => s ||| TokenSet.single k) 0
  let outer := g.outer.foldl (fun s k => s ||| TokenSet.single k) 0
  let fixed := ((all ^^^ inner) ||| outer) &&& (all ^^^ TokenSet.single 0)
  let word := (x.indices.getD g.word none).getD 0
  let rivals := (List.range g.tokenCount).toArray.map fun k =>
    match x.indices.getD k none with
    | none => 0
    | some i => (List.range x.size).foldl (fun s j =>
        let keyword := (j == word && x.keywords.contains i) || (i == word && x.keywords.contains j)
        if !keyword && (x.clashes.get i j).conflicts then
          s ||| TokenSet.single (x.symbols.getD j 0)
        else s) 0
  ⟨fixed, rivals⟩

/-- Whether a state with the tokens `keys` cannot gain one of `news`. -/
def Barriers.forbid (b : Barriers) (n : Nat) (keys news : TokenSet) : Bool :=
  if news == 0 then false
  else if news &&& b.fixed != 0 then true
  else (List.range n).any fun k => Nat.testBit news k && (b.rivals.getD k 0 &&& keys) != 0

/-- Whether two lists of actions differ, where going on to states of one group is the same. -/
def actionsDiffer (groupOf : Array Nat) : List Action → List Action → Bool
  | [], [] => false
  | .shift s a :: xs, .shift t b :: ys =>
    groupOf.getD s 0 != groupOf.getD t 0 || a != b || actionsDiffer groupOf xs ys
  | x :: xs, y :: ys => x != y || actionsDiffer groupOf xs ys
  | _, _ => true

/-- The state that a list of actions ends by going on to. -/
def shiftTarget? (as : List Action) : Option Nat :=
  match as.getLast? with
  | some (.shift s _) => some s
  | _ => none

/-- Whether two states cannot be merged. -/
def statesClash (g : Prepared) (b : Barriers) (states : Array State) (groupOf : Array Nat)
    (i j : Nat) : Bool :=
  let s := states.getD i default
  let t := states.getD j default
  let common := s.keys &&& t.keys
  b.forbid g.tokenCount t.keys (s.keys ^^^ common) ||
    b.forbid g.tokenCount s.keys (t.keys ^^^ common) ||
    (List.range g.tokenCount).any fun k =>
      Nat.testBit common k &&
        actionsDiffer groupOf (s.actions.getD k []) (t.actions.getD k [])

/-- Whether two states lead to different groups by a symbol that both have. -/
def targetsDiffer (g : Prepared) (states : Array State) (groupOf : Array Nat) (i j : Nat) :
    Bool :=
  let s := states.getD i default
  let t := states.getD j default
  let common := s.keys &&& t.keys
  ((List.range g.tokenCount).any fun k => Nat.testBit common k &&
    match shiftTarget? (s.actions.getD k []), shiftTarget? (t.actions.getD k []) with
    | some a, some b => groupOf.getD a 0 != groupOf.getD b 0
    | _, _ => false) ||
  (List.range g.rules.size).any fun r =>
    let a := s.gotos.getD r 0
    let b := t.gotos.getD r 0
    a != 0 && b != 0 && groupOf.getD a 0 != groupOf.getD b 0

/-- Exchanges two groups. -/
def Grouping.swap (d : Grouping) (i j : Nat) : Grouping :=
  if i == j then d
  else
    let a := d.groups.getD i #[]
    let b := d.groups.getD j #[]
    let groupOf := a.foldl (fun acc s => acc.setIfInBounds s j) d.groupOf
    let groupOf := b.foldl (fun acc s => acc.setIfInBounds s i) groupOf
    ⟨(d.groups.setIfInBounds i b).setIfInBounds j a, groupOf⟩

/-- Changes the states that an action leads to. -/
def Action.retarget (f : Nat → Nat) : Action → Action
  | .shift s a => .shift (f s) a
  | a => a

/-- Changes the states that a state leads to. State 0 is never led to by a rule. -/
def State.retarget (f : Nat → Nat) (s : State) : State :=
  { s with
    actions := s.actions.map (·.map (·.retarget f))
    gotos := s.gotos.map fun t => if t == 0 then 0 else f t }

/-- The state of a group: what its members have, a later one before an earlier one. -/
def State.join (s t : State) : State :=
  { s with
    keys := s.keys ||| t.keys
    actions := s.actions.zipWith (fun a b => if b.isEmpty then a else b) t.actions
    gotos := s.gotos.zipWith (fun a b => if b == 0 then a else b) t.gotos }

/-- Merges the states that can be one. -/
def mergeStates (g : Prepared) (x : Lexicon) (states : Array State) : Array State :=
  let b := Barriers.ofLexicon g x
  let cores := states.foldl (fun m s => max m (s.core + 1)) 0
  let groups := states.toList.zipIdx.foldl (fun (acc : Array (Array Nat)) (s, i) =>
    acc.modify s.core (·.push i)) (Array.replicate cores #[])
  let d : Grouping := ⟨groups, states.map (·.core)⟩
  let (d, _) := Grouping.split (statesClash g b states) 1000000 0 (d, false)
  let d := Grouping.refine (targetsDiffer g states) 1000 d
  let d := d.swap 0 (d.groupOf.getD 0 0)
  let d := d.swap 1 (d.groupOf.getD 1 0)
  d.groups.map fun ids =>
    let s := match ids.toList.map fun i => states.getD i default with
      | [] => default
      | s :: ss => ss.foldl State.join s
    s.retarget fun t => d.groupOf.getD t 0

/-! ### Steps that only rename -/

/-- The rule that every action of a state reduces a single tree to, if they all do and the tree
stays as it is. -/
def renamingOf (plain : Nat → Bool) (s : State) : Option Nat :=
  let all := s.actions.toList.flatten.filter (· != .extra)
  match all with
  | .reduce sym 1 0 0 :: rest =>
    if plain sym && rest.all (· == .reduce sym 1 0 0) then some sym else none
  | _ => none

/-- Follows renames states from `target` as seen from a state with the given gotos. -/
def skipRenamings (tokenCount : Nat) (renames : Array (Option Nat)) (gotos : Array Nat) :
    Nat → Nat → Nat
  | 0, target => target
  | fuel + 1, target =>
    match renames.getD target none with
    | none => target
    | some sym =>
      match gotos.getD (sym - tokenCount) 0 with
      | 0 => target
      | next => skipRenamings tokenCount renames gotos fuel next

/-- Goes past states that only rename a tree. -/
def removeRenamings (g : Prepared) (states : Array State) : Array State :=
  let aliased := g.rules.foldl (fun (acc : List Nat) r => r.productions.foldl (fun acc p =>
    p.steps.foldl (fun acc s => if s.alias?.isSome then s.sym :: acc else acc) acc) acc) []
  let plain (sym : Nat) : Bool :=
    let info := g.symbols.getD sym default
    let r := g.rules.getD (sym - g.tokenCount) default
    !info.visible && r.hidden && !r.supertype && !aliased.contains sym
  let renames := states.map (renamingOf plain)
  states.map fun s => s.retarget (skipRenamings g.tokenCount renames s.gotos 100)

/-- The states that a state leads to. -/
def State.targets (s : State) : List Nat :=
  s.actions.toList.flatMap (·.filterMap fun a => match a with
    | .shift t _ => some t
    | _ => none) ++ s.gotos.toList.filter (· != 0)

def State.size (s : State) : Nat :=
  s.actions.foldl (fun n a => if a.isEmpty then n else n + 1) 0 +
    s.gotos.foldl (fun n t => if t == 0 then n else n + 1) 0

/-- Keeps the states with the given numbers, in that order. -/
def renumber (states : Array State) (order : List Nat) : Array State :=
  let place := order.zipIdx.foldl (fun (acc : Array Nat) (s, i) => acc.setIfInBounds s i)
    (Array.replicate states.size 0)
  (order.map fun s => (states.getD s default).retarget fun t => place.getD t 0).toArray

/-- Drops the states that none leads to, and puts the others in order of size, the two first ones
apart. -/
def orderStates (states : Array State) : Array State :=
  let used := states.foldl (fun (acc : Array Bool) s =>
    s.targets.foldl (fun acc t => acc.setIfInBounds t true) acc)
    (((Array.replicate states.size false).setIfInBounds 0 true).setIfInBounds 1 true)
  let kept := (List.range states.size).filter fun i => used.getD i false
  let states := renumber states kept
  let sized := (List.range states.size).map fun i => (i, (states.getD i default).size)
  let order := sized.mergeSort fun (i, a) (j, b) =>
    if i ≤ 1 then true else if j ≤ 1 then false else b ≤ a
  renumber states (order.map (·.1))

end Likeness.Grammar
