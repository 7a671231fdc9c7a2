import Likeness.Comparison.Journal

/-!
# Sessions

A session has some comparators, a spare store, the sources that have been prepared so far, and the
records of what has been done, which are taken down while recording is on. A request changes the
session and is answered.
-/

namespace Likeness

structure Session where
  comparators : List (Comparator Float)
  spare : Store
  units : List Prepared := []
  recording : Bool := false
  records : List String := []

/-- What can be asked for. Comparators and units are known by their numbers. -/
inductive Request where
  /-- The store is that of the comparator with the given number, or else the spare one. -/
  | prepare (file : SourceFile) (store : Option Nat)
  | compare (left right : Nat)
  | scores (left right : Nat)
  | sameArtifacts (left right : Nat)
  | stores
  | lookUp (digest : String)
  | clear
  | batch (files : List SourceFile) (cancelled : Bool)
  | record (on : Bool)
  | records

inductive Answer where
  | prepared (number : Nat) (unit : Prepared)
  | verdict (v : PairVerdict Float)
  | scores (o : Decision.PerDetector (Decision.Outcome Float))
  | same (b : Bool)
  | stores (sizes : List Nat)
  | found (digest : String) (tokens : Option Nat)
  | report (r : BatchReport Float)
  | done
  | records (rs : List String)
  | failed (e : CompareError Float)
  /-- There is no comparator or no unit of a number. -/
  | unknown (what : String)

namespace Session

/-- A session with a comparator for each settings. -/
def ofSettings (all : List (Settings Float)) : Except (Flaw Float) Session := do
  let comparators ← all.zipIdx.mapM fun (s, i) => Comparator.ofSettings s i
  return { comparators, spare := { number := all.length } }

def withRecords (s : Session) (rs : List String) : Session :=
  if s.recording then { s with records := s.records ++ rs } else s

/-- The store of a comparator, or the spare one. -/
def storeAt (s : Session) (i : Nat) : Store := (s.comparators[i]?.map (·.store)).getD s.spare

def setStoreAt (s : Session) (i : Nat) (store : Store) : Session :=
  match s.comparators[i]? with
  | some c => { s with comparators := s.comparators.set i { c with store } }
  | none => { s with spare := store }

def prepare (s : Session) (c : Comparator Float) (f : SourceFile) (place : Nat) :
    Session × Answer × List Note :=
  let result := c.settings.prepare f (s.storeAt place)
  let unit := result.map (·.1)
  let s := s.withRecords [prepareRecord unit]
  let notes := Journal.ofPrepare none unit
  match result with
  | .ok (p, store) =>
    ({ s.setStoreAt place store with units := s.units ++ [p] }, .prepared s.units.length p, notes)
  | .error e => (s, .failed e, notes)

def compare (s : Session) (c : Comparator Float) (l r : Prepared) :
    Session × Answer × List Note :=
  let result := c.compare l r
  let answer : Answer := match result with
    | .ok v => .verdict v
    | .error e => .failed e
  (s.withRecords [pairRecord result], answer, Journal.ofCompare none l r result)

/-- Answers with what two units give. -/
def withUnits (s : Session) (left right : Nat)
    (f : Prepared → Prepared → Session × Answer × List Note) : Session × Answer × List Note :=
  match s.units[left]?, s.units[right]? with
  | some l, some r => f l r
  | _, _ => (s, .unknown "unit index", [])

/-- Answers a request to the comparator with the given number. -/
def step (s : Session) (number : Nat) (request : Request) : Session × Answer × List Note :=
  match s.comparators[number]? with
  | none => (s, .unknown "comparator index", [])
  | some c =>
    match request with
    | .prepare f store => s.prepare c f (store.getD number)
    | .compare left right => s.withUnits left right (s.compare c)
    | .scores left right =>
      s.withUnits left right fun l r => (s, .scores (c.settings.outcomes l r), [])
    | .sameArtifacts left right =>
      s.withUnits left right fun l r => (s, .same (l.shared.stamp == r.shared.stamp), [])
    | .stores => (s, .stores (s.comparators.map (·.store.size) ++ [s.spare.size]), [])
    | .lookUp digest =>
      (s, .found digest ((c.store.get? digest).map (·.value.tokenCount)), [])
    | .clear => (s.setStoreAt number c.store.clear, .done, [])
    | .batch files cancelled =>
      let run := c.runBatch files cancelled
      (s.withRecords (batchRecords run), .report run.report, Journal.ofBatch run)
    | .record on => ({ s with recording := on }, .done, [])
    | .records => (s, .records (s.records.mergeSort fun a b => a ≤ b), [])

end Session
end Likeness
