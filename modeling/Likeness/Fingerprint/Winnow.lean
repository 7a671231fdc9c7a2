/-!
# Winnowing

Of every window of `w` consecutive hashes the least is selected, the last one of equals. A place
that the window before has selected is not selected again. The candidates for the least hash of the
windows to come are the hashes that are less than all later ones; they are kept from the newest to
the oldest, and their hashes grow towards the newest.
-/

namespace Likeness.Fingerprint

/-- A selected hash and the number of its run. -/
structure Mark where
  hash : UInt64
  position : Nat
deriving BEq, DecidableEq, Inhabited, Repr

/-- Adds a hash to the candidates, from which those that it makes needless are dropped. -/
def addCandidate (m : Mark) (candidates : List Mark) : List Mark :=
  m :: candidates.dropWhile (fun c => m.hash ≤ c.hash)

/-- Selects from the windows that end with the given hashes. `i` is the place of the next hash, and
`last` the place selected before. -/
def selectFrom (w : Nat) : (i : Nat) → (candidates : List Mark) → (last : Option Nat) →
    List UInt64 → List Mark
  | _, _, _, [] => []
  | i, candidates, last, h :: hs =>
    let candidates := addCandidate ⟨h, i⟩ candidates
    if i + 1 < w then selectFrom w (i + 1) candidates last hs
    else
      let candidates := candidates.takeWhile (fun c => i + 1 - w ≤ c.position)
      match candidates.getLast? with
      | some c =>
        if last == some c.position then selectFrom w (i + 1) candidates last hs
        else c :: selectFrom w (i + 1) candidates (some c.position) hs
      | none => selectFrom w (i + 1) candidates last hs

/-- The least hash of a sequence that begins with `best`, the last one of equals. `i` is the place
of the next hash. -/
def leastFrom (best : Mark) : (i : Nat) → List UInt64 → Mark
  | _, [] => best
  | i, h :: hs => leastFrom (if h ≤ best.hash then ⟨h, i⟩ else best) (i + 1) hs

/-- The selected hashes. Fewer hashes than a window has are one window; a window of width 0 has
width one. -/
def winnow (hashes : List UInt64) (w : Nat) : List Mark :=
  match hashes with
  | [] => []
  | h :: hs =>
    if hashes.length ≤ max w 1 then [leastFrom ⟨h, 0⟩ 1 hs]
    else selectFrom (max w 1) 0 [] none hashes

end Likeness.Fingerprint
