import Likeness.Hash.Bytes

/-!
# XXH3

The 64-bit form of the XXH3 hash function, with a seed. Short, middle and long inputs are mixed in
different ways with the words of a fixed secret; for long inputs the seed changes the secret.
-/

namespace Likeness.Hash.Xxh3

def prime32a : UInt64 := 0x9E3779B1
def prime32b : UInt64 := 0x85EBCA77
def prime32c : UInt64 := 0xC2B2AE3D
def prime64a : UInt64 := 0x9E3779B185EBCA87
def prime64b : UInt64 := 0xC2B2AE3D27D4EB4F
def prime64c : UInt64 := 0x165667B19E3779F9
def prime64d : UInt64 := 0x85EBCA77C2B2AE63
def prime64e : UInt64 := 0x27D4EB2F165667C5
def primeMixA : UInt64 := 0x165667919E3779F9
def primeMixB : UInt64 := 0x9FB21C651E98DF25

def secret : ByteArray := ⟨#[
  0xB8, 0xFE, 0x6C, 0x39, 0x23, 0xA4, 0x4B, 0xBE, 0x7C, 0x01, 0x81, 0x2C, 0xF7, 0x21, 0xAD, 0x1C,
  0xDE, 0xD4, 0x6D, 0xE9, 0x83, 0x90, 0x97, 0xDB, 0x72, 0x40, 0xA4, 0xA4, 0xB7, 0xB3, 0x67, 0x1F,
  0xCB, 0x79, 0xE6, 0x4E, 0xCC, 0xC0, 0xE5, 0x78, 0x82, 0x5A, 0xD0, 0x7D, 0xCC, 0xFF, 0x72, 0x21,
  0xB8, 0x08, 0x46, 0x74, 0xF7, 0x43, 0x24, 0x8E, 0xE0, 0x35, 0x90, 0xE6, 0x81, 0x3A, 0x26, 0x4C,
  0x3C, 0x28, 0x52, 0xBB, 0x91, 0xC3, 0x00, 0xCB, 0x88, 0xD0, 0x65, 0x8B, 0x1B, 0x53, 0x2E, 0xA3,
  0x71, 0x64, 0x48, 0x97, 0xA2, 0x0D, 0xF9, 0x4E, 0x38, 0x19, 0xEF, 0x46, 0xA9, 0xDE, 0xAC, 0xD8,
  0xA8, 0xFA, 0x76, 0x3F, 0xE3, 0x9C, 0x34, 0x3F, 0xF9, 0xDC, 0xBB, 0xC7, 0xC7, 0x0B, 0x4F, 0x1D,
  0x8A, 0x51, 0xE0, 0x4B, 0xCD, 0xB4, 0x59, 0x31, 0xC8, 0x9F, 0x7E, 0xC9, 0xD9, 0x78, 0x73, 0x64,
  0xEA, 0xC5, 0xAC, 0x83, 0x34, 0xD3, 0xEB, 0xC3, 0xC5, 0x81, 0xA0, 0xFF, 0xFA, 0x13, 0x63, 0xEB,
  0x17, 0x0D, 0xDD, 0x51, 0xB7, 0xF0, 0xDA, 0x49, 0xD3, 0x16, 0x55, 0x26, 0x29, 0xD4, 0x68, 0x9E,
  0x2B, 0x16, 0xBE, 0x58, 0x7D, 0x47, 0xA1, 0xFC, 0x8F, 0xF8, 0xB8, 0xD1, 0x7A, 0xD0, 0x31, 0xCE,
  0x45, 0xCB, 0x3A, 0x8F, 0x95, 0x16, 0x04, 0x28, 0xAF, 0xD7, 0xFB, 0xCA, 0xBB, 0x4B, 0x40, 0x7E]⟩

/-! ### Final mixing -/

def avalanche (h : UInt64) : UInt64 :=
  let h := (h ^^^ (h >>> 37)) * primeMixA
  h ^^^ (h >>> 32)

def avalancheShort (h : UInt64) : UInt64 :=
  let h := (h ^^^ (h >>> 33)) * prime64b
  let h := (h ^^^ (h >>> 29)) * prime64c
  h ^^^ (h >>> 32)

def avalancheWord (h len : UInt64) : UInt64 :=
  let h := (h ^^^ rotateLeft h 49 ^^^ rotateLeft h 24) * primeMixB
  let h := (h ^^^ ((h >>> 35) + len)) * primeMixB
  h ^^^ (h >>> 28)

/-! ### Short inputs -/

def hashEmpty (seed : UInt64) : UInt64 :=
  avalancheShort (seed ^^^ read64 secret 56 ^^^ read64 secret 64)

/-- One to three bytes. -/
def hashTiny (b : ByteArray) (seed : UInt64) : UInt64 :=
  let n := b.size
  let word := ((byteAt b 0).toUInt64 <<< 16) ||| ((byteAt b (n / 2)).toUInt64 <<< 24) |||
    (byteAt b (n - 1)).toUInt64 ||| (n.toUInt64 <<< 8)
  avalancheShort (word ^^^ ((read32 secret 0 ^^^ read32 secret 4) + seed))

/-- Four to eight bytes. -/
def hashSmall (b : ByteArray) (seed : UInt64) : UInt64 :=
  let n := b.size
  let seed := seed ^^^ (reverseBytes32 seed <<< 32)
  let word := read32 b (n - 4) + (read32 b 0 <<< 32)
  avalancheWord (word ^^^ ((read64 secret 8 ^^^ read64 secret 16) - seed)) n.toUInt64

/-- Nine to sixteen bytes. -/
def hashShort (b : ByteArray) (seed : UInt64) : UInt64 :=
  let n := b.size
  let lo := read64 b 0 ^^^ ((read64 secret 24 ^^^ read64 secret 32) + seed)
  let hi := read64 b (n - 8) ^^^ ((read64 secret 40 ^^^ read64 secret 48) - seed)
  avalanche (n.toUInt64 + reverseBytes64 lo + hi + foldProduct lo hi)

/-! ### Middle inputs -/

/-- Mixes sixteen bytes of the input with sixteen of the secret. -/
def mix16 (b : ByteArray) (seed : UInt64) (i s : Nat) : UInt64 :=
  foldProduct (read64 b i ^^^ (read64 secret s + seed))
    (read64 b (i + 8) ^^^ (read64 secret (s + 8) - seed))

/-- 17 to 128 bytes, from both ends towards the middle. -/
def hashMiddle (b : ByteArray) (seed : UInt64) : UInt64 :=
  let n := b.size
  let rounds := (n - 1) / 32 + 1
  avalanche ((List.range rounds).foldl (fun acc i =>
    acc + mix16 b seed (16 * i) (32 * i) + mix16 b seed (n - 16 * (i + 1)) (32 * i + 16))
    (n.toUInt64 * prime64a))

/-- 129 to 240 bytes. -/
def hashLarge (b : ByteArray) (seed : UInt64) : UInt64 :=
  let n := b.size
  let start := (List.range 8).foldl (fun acc i => acc + mix16 b seed (16 * i) (16 * i))
    (n.toUInt64 * prime64a)
  let rest := (List.range (n / 16 - 8)).foldl (fun acc i =>
    acc + mix16 b seed (16 * (i + 8)) (16 * i + 3)) (avalanche start)
  avalanche (rest + mix16 b seed (n - 16) 119)

/-! ### Long inputs -/

/-- The secret that a seed makes. -/
def seededSecret (seed : UInt64) : ByteArray :=
  if seed == 0 then secret
  else ⟨((List.range 12).flatMap fun i =>
    bytesOf (read64 secret (16 * i) + seed) ++
      bytesOf (read64 secret (16 * i + 8) - seed)).toArray⟩

def startLanes : List UInt64 :=
  [prime32c, prime64a, prime64b, prime64c, prime64d, prime32b, prime64e, prime32a]

/-- Takes a stripe of 64 bytes into the eight lanes. -/
def takeStripe (b key : ByteArray) (i s : Nat) (lanes : List UInt64) : List UInt64 :=
  lanes.mapIdx fun j (lane : UInt64) =>
    let k := read64 b (i + 8 * j) ^^^ read64 key (s + 8 * j)
    let other := if j % 2 == 0 then j + 1 else j - 1
    lane + read64 b (i + 8 * other) + (k &&& (0xFFFFFFFF : UInt64)) * (k >>> 32)

def scramble (key : ByteArray) (lanes : List UInt64) : List UInt64 :=
  lanes.mapIdx fun j (lane : UInt64) =>
    ((lane ^^^ (lane >>> (47 : UInt64))) ^^^ read64 key (128 + 8 * j)) * prime32a

/-- Takes `count` stripes from place `i` on. -/
def takeStripes (b key : ByteArray) (i count : Nat) (lanes : List UInt64) : List UInt64 :=
  (List.range count).foldl (fun lanes n => takeStripe b key (i + 64 * n) (8 * n) lanes) lanes

def mergeLanes (key : ByteArray) (start : UInt64) : Nat → List UInt64 → UInt64
  | s, a :: c :: rest =>
    mergeLanes key (start + foldProduct (a ^^^ read64 key s) (c ^^^ read64 key (s + 8)))
      (s + 16) rest
  | _, _ => avalanche start

/-- More than 240 bytes, in blocks of sixteen stripes. -/
def hashLong (b : ByteArray) (seed : UInt64) : UInt64 :=
  let n := b.size
  let key := seededSecret seed
  let blocks := (n - 1) / 1024
  let lanes := (List.range blocks).foldl (fun lanes i =>
    scramble key (takeStripes b key (1024 * i) 16 lanes)) startLanes
  let lanes := takeStripes b key (1024 * blocks) ((n - 1 - 1024 * blocks) / 64) lanes
  let lanes := takeStripe b key (n - 64) 121 lanes
  mergeLanes key (n.toUInt64 * prime64a) 11 lanes

/-! ### All inputs -/

def hash (b : ByteArray) (seed : UInt64) : UInt64 :=
  let n := b.size
  if n == 0 then hashEmpty seed
  else if n ≤ 3 then hashTiny b seed
  else if n ≤ 8 then hashSmall b seed
  else if n ≤ 16 then hashShort b seed
  else if n ≤ 128 then hashMiddle b seed
  else if n ≤ 240 then hashLarge b seed
  else hashLong b seed

end Likeness.Hash.Xxh3
