import Likeness.Source.Artifacts

/-!
# Stores of artifacts

A store keeps artifacts by the digest of their text, so that they are made once. What it hands out
carries a stamp: two values with one stamp come from one derivation.
-/

namespace Likeness

/-- A mark of one derivation: the store that keeps it and its number there. -/
structure Stamp where
  store : Nat
  number : Nat
deriving BEq, DecidableEq, Inhabited, Repr

/-- Artifacts that a store keeps. -/
structure Shared where
  stamp : Stamp
  value : Artifacts
deriving Inhabited

/-- A store, and how many derivations it has kept. Each digest occurs once in `entries`. -/
structure Store where
  number : Nat := 0
  kept : Nat := 0
  entries : List (String × Shared) := []
deriving Inhabited

namespace Store

def size (s : Store) : Nat := s.entries.length

def isEmpty (s : Store) : Bool := s.entries.isEmpty

def get? (s : Store) (digest : String) : Option Shared := s.entries.lookup digest

def clear (s : Store) : Store := { s with entries := [] }

/-- Keeps artifacts unless there are some of their digest already, and hands out those that it then
has. -/
def insertIfAbsent (s : Store) (digest : String) (a : Artifacts) : Shared × Store :=
  match s.get? digest with
  | some kept => (kept, s)
  | none =>
    let new : Shared := ⟨⟨s.number, s.kept⟩, a⟩
    (new, { s with kept := s.kept + 1, entries := s.entries ++ [(digest, new)] })

/-- The artifacts of a text, which are made if the store has none. -/
def getOrDerive (s : Store) (text : String) (o : DeriveOptions) :
    Except Lex.Problem (Shared × Store) :=
  let digest := contentDigest text
  match s.get? digest with
  | some kept => .ok (kept, s)
  | none => do
    let a ← Artifacts.derive text o
    return s.insertIfAbsent digest a

end Store
end Likeness
