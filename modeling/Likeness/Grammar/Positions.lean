import Likeness.Grammar.Prepared

/-!
# Reading tokens by positions

The characters fall into classes that no pattern of the grammar tells apart. Every place of a
pattern where a character is read is a position; what has been read so far of a token is a set of
positions that may come next. A token may be preceded by blanks, which have positions of their own.
-/

namespace Likeness.Grammar

open Std (HashMap)
open Likeness.Text (CharSet)

/-! ### Classes of characters -/

/-- A division of all characters into classes. Interval `i` begins at `cuts[i]`. -/
structure Alphabet where
  cuts : Array Nat
  classes : Array Nat
  /-- The classes of the first 128 characters. -/
  ascii : Array Nat
  count : Nat
deriving Inhabited

namespace Alphabet

/-- The interval of a code point, between the intervals `lo` and `hi`. -/
def search (cuts : Array Nat) (c : Nat) (lo hi : Nat) : Nat :=
  if _h : lo + 1 < hi then
    let mid := (lo + hi) / 2
    if cuts.getD mid 0 ≤ c then search cuts c mid hi else search cuts c lo mid
  else lo
termination_by hi - lo

def lookup (cuts classes : Array Nat) (c : Nat) : Nat :=
  classes.getD (search cuts c 0 cuts.size) 0

def classOf (a : Alphabet) (c : Nat) : Nat :=
  if c < 128 then a.ascii.getD c 0 else lookup a.cuts a.classes c

/-- The number of a signature among those seen. -/
def intern (seen : HashMap Nat Nat) (sig : Nat) : Nat × HashMap Nat Nat :=
  match seen[sig]? with
  | some k => (k, seen)
  | none => (seen.size, seen.insert sig seen.size)

/-- The coarsest division that the given sets respect. -/
def ofSets (sets : List CharSet) : Alphabet :=
  let cuts := (sets.flatMap fun s => s.ranges.flatMap fun r => [r.1, r.2 + 1])
  let cuts := ((0 :: cuts).mergeSort (· ≤ ·)).foldl (fun (acc : Array Nat) c =>
    if acc.back? == some c then acc else acc.push c) #[]
  let signature (c : Nat) : Nat := sets.foldl (fun sig s =>
    2 * sig + (if s.ranges.any fun r => r.1 ≤ c && c ≤ r.2 then 1 else 0)) 1
  let (classes, seen) := cuts.foldl (fun (acc : Array Nat × HashMap Nat Nat) c =>
    let (k, seen) := intern acc.2 (signature c)
    (acc.1.push k, seen)) (#[], {})
  { cuts, classes, count := seen.size
    ascii := (List.range 128).toArray.map (lookup cuts classes) }

/-- The classes that make up a set that the division respects. -/
def members (a : Alphabet) (s : CharSet) : Array Bool :=
  (a.cuts.zip a.classes).foldl (fun acc (c, k) =>
    if s.ranges.any fun r => r.1 ≤ c && c ≤ r.2 then acc.setIfInBounds k true else acc)
    (Array.replicate a.count false)

end Alphabet

/-- The sets of characters that a pattern mentions. -/
def Pattern.sets : Pattern → List CharSet
  | .empty => []
  | .chars s => [s]
  | .seq a b => a.sets ++ b.sets
  | .alt a b => a.sets ++ b.sets
  | .many1 a => a.sets

/-! ### Positions -/

/-- A place of a pattern. `final` positions read nothing: their token is complete. -/
structure Position where
  owner : Nat
  reads : Array Bool
  next : List Nat
  blank : Bool
  rank : Int
  final : Bool
deriving Inhabited

/-- What is known of a part of a pattern: whether it may be empty, and the positions that it may
begin and end with. -/
structure Part where
  nullable : Bool
  first : List Nat
  last : List Nat
deriving Inhabited

/-- Adds numbers to an increasing list. -/
def insertAll (xs : List Nat) (ys : List Nat) : List Nat :=
  ys.foldl (fun acc y => insert y acc) xs
where
  insert (y : Nat) : List Nat → List Nat
    | [] => [y]
    | x :: xs => if y < x then y :: x :: xs else if y == x then x :: xs else x :: insert y xs

/-- Lets `targets` come after each of `sources`. -/
def link (sources targets : List Nat) (ps : Array Position) : Array Position :=
  sources.foldl (fun ps s => ps.modify s fun p => { p with next := insertAll p.next targets }) ps

def Part.seq (a b : Part) : Part :=
  ⟨a.nullable && b.nullable, if a.nullable then insertAll a.first b.first else a.first,
    if b.nullable then insertAll b.last a.last else b.last⟩

/-- Adds the positions of a pattern. -/
def addPattern (al : Alphabet) (owner : Nat) (blank : Bool) (rank : Int) :
    Pattern → Array Position → Part × Array Position
  | .empty, ps => (⟨true, [], []⟩, ps)
  | .chars s, ps =>
    (⟨false, [ps.size], [ps.size]⟩, ps.push ⟨owner, al.members s, [], blank, rank, false⟩)
  | .seq a b, ps =>
    let (x, ps) := addPattern al owner blank rank a ps
    let (y, ps) := addPattern al owner blank rank b ps
    (x.seq y, link x.last y.first ps)
  | .alt a b, ps =>
    let (x, ps) := addPattern al owner blank rank a ps
    let (y, ps) := addPattern al owner blank rank b ps
    (⟨x.nullable || y.nullable, insertAll x.first y.first, insertAll x.last y.last⟩, ps)
  | .many1 a, ps =>
    let (x, ps) := addPattern al owner blank rank a ps
    (x, link x.last x.first ps)

/-- The positions of all tokens of a grammar. `starts[i]` is where token `i` begins, with the blanks
before it, and `opening[i]` is the classes it may begin with, those of the blanks included. -/
structure Positions where
  alphabet : Alphabet
  nodes : Array Position
  starts : Array (List Nat)
  standing : Array Nat
deriving Inhabited

namespace Positions

def ofGrammar (g : Prepared) : Positions :=
  let lexemes := g.lexemes.toList.map (·.2)
  let sets := (lexemes.flatMap (·.pattern.sets) ++ g.separators.sets).foldl
    (fun acc s => if acc.contains s then acc else s :: acc) ([] : List CharSet)
  let al := Alphabet.ofSets sets
  let (nodes, starts) := lexemes.zipIdx.foldl
    (fun (acc : Array Position × Array (List Nat)) (l, i) =>
      let ps := acc.1
      let (gap, ps) :=
        if l.immediate then ((⟨true, [], []⟩ : Part), ps)
        else addPattern al i true 0 (.many g.separators) ps
      let (body, ps) := addPattern al i false l.rank l.pattern ps
      let all := gap.seq body
      let ps := link gap.last body.first ps
      let final := ps.size
      let ps := link body.last [final] (ps.push ⟨i, #[], [], false, l.rank, true⟩)
      (ps, acc.2.push (if all.nullable then insertAll all.first [final] else all.first)))
    (#[], #[])
  { alphabet := al, nodes, starts, standing := (lexemes.map (·.standing)).toArray }

variable (t : Positions)

def node (i : Nat) : Position := t.nodes.getD i default

/-- The classes of characters that can be read next. -/
def opening (s : List Nat) : Array Bool :=
  s.foldl (fun acc i => (t.node i).reads.zipIdx.foldl (fun acc (b, k) =>
    if b then acc.setIfInBounds k true else acc) acc)
    (Array.replicate t.alphabet.count false)

/-- The tokens whose positions a set holds, in increasing order. -/
def owners (s : List Nat) : List Nat :=
  s.foldl (fun acc i => insertAll acc [(t.node i).owner]) []

/-- The tokens that are complete in a set, with their ranks. -/
def completions (s : List Nat) : List (Nat × Int) :=
  s.filterMap fun i => let p := t.node i; if p.final then some (p.owner, p.rank) else none

/-- Whether a blank can be read next. -/
def atBlank (s : List Nat) : Bool := s.any fun i => (t.node i).blank

/-- What reading one character leads to: the positions after it, whether it can only have been a
blank, and the highest rank of the positions that read it. -/
structure Move where
  target : List Nat
  blank : Bool
  rank : Int
deriving Inhabited

/-- The move from a set by a class of characters. -/
def move? (s : List Nat) (k : Nat) : Option Move :=
  s.foldl (fun acc i =>
    let p := t.node i
    if p.reads.getD k false then
      match acc with
      | none => some ⟨p.next, p.blank, p.rank⟩
      | some m => some ⟨insertAll m.target p.next, m.blank && p.blank, max m.rank p.rank⟩
    else acc) none

/-- Of two complete tokens, whether the first is preferred. -/
def prefersToken (a b : Nat × Int) : Bool :=
  if a.2 != b.2 then a.2 > b.2
  else
    let sa := t.standing.getD a.1 0
    let sb := t.standing.getD b.1 0
    if sa != sb then sa > sb else a.1 < b.1

/-- Whether reading on is preferred to stopping at a complete token. -/
def prefersMove (m : Move) (done : Nat × Int) (atBlank : Bool) : Bool :=
  if m.rank < done.2 then false
  else if m.rank == done.2 then
    !m.blank && !(atBlank && (t.owners m.target).any (· != done.1))
  else true

end Positions
end Likeness.Grammar
