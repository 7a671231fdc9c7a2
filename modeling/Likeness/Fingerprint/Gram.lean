import Likeness.Hash.Xxh3

/-!
# Hashes of runs of tokens

Every run of `k` tokens has a hash: a polynomial in a base that depends on the seed, with the hashes
of the tokens as coefficients, modulo 2 ^ 64. The hash of the next run is computed from the one
before by taking out the token that leaves and putting in the one that enters.
-/

namespace Likeness.Fingerprint

/-- Spreads the bits of a seed over a word. -/
def mixSeed (seed : UInt64) : UInt64 :=
  let z := seed + 0x9E3779B97F4A7C15
  let z := (z ^^^ (z >>> 30)) * 0xBF58476D1CE4E5B9
  let z := (z ^^^ (z >>> 27)) * 0x94D049BB133111EB
  z ^^^ (z >>> 31)

/-- The base of the polynomials. -/
def base (seed : UInt64) : UInt64 := 1000003 ^^^ mixSeed seed

def tokenHash (seed : UInt64) (token : String) : UInt64 := Hash.Xxh3.hash token.toUTF8 seed

/-- `b ^ n` modulo 2 ^ 64. -/
def power (b : UInt64) : Nat → UInt64
  | 0 => 1
  | n + 1 => power b n * b

/-- The hash of one run. -/
def gram (b : UInt64) (run : List UInt64) : UInt64 := run.foldl (fun h t => h * b + t) 0

/-- The hashes of a run and of those after it. The pairs hold the token that leaves and the one that
enters; `top` is the factor of the token that leaves. -/
def roll (b top h : UInt64) : List (UInt64 × UInt64) → List UInt64
  | [] => [h]
  | (old, new) :: rest => h :: roll b top ((h - old * top) * b + new) rest

/-- The hashes of all runs of `k` tokens. -/
def gramHashes (tokens : List String) (k : Nat) (seed : UInt64) : List UInt64 :=
  if k == 0 || tokens.length < k then []
  else
    let hashes := tokens.map (tokenHash seed)
    let b := base seed
    roll b (power b (k - 1)) (gram b (hashes.take k)) (hashes.zip (hashes.drop k))

end Likeness.Fingerprint
