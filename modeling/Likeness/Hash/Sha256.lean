import Likeness.Hash.Bytes

/-!
# SHA-256

The hash function SHA-256: the message is padded to blocks of 64 bytes, and each block is mixed into
eight words in 64 rounds.
-/

namespace Likeness.Hash.Sha256

/-- The constants of the rounds. -/
def roundConstants : List UInt32 := [
  0x428A2F98, 0x71374491, 0xB5C0FBCF, 0xE9B5DBA5, 0x3956C25B, 0x59F111F1, 0x923F82A4, 0xAB1C5ED5,
  0xD807AA98, 0x12835B01, 0x243185BE, 0x550C7DC3, 0x72BE5D74, 0x80DEB1FE, 0x9BDC06A7, 0xC19BF174,
  0xE49B69C1, 0xEFBE4786, 0x0FC19DC6, 0x240CA1CC, 0x2DE92C6F, 0x4A7484AA, 0x5CB0A9DC, 0x76F988DA,
  0x983E5152, 0xA831C66D, 0xB00327C8, 0xBF597FC7, 0xC6E00BF3, 0xD5A79147, 0x06CA6351, 0x14292967,
  0x27B70A85, 0x2E1B2138, 0x4D2C6DFC, 0x53380D13, 0x650A7354, 0x766A0ABB, 0x81C2C92E, 0x92722C85,
  0xA2BFE8A1, 0xA81A664B, 0xC24B8B70, 0xC76C51A3, 0xD192E819, 0xD6990624, 0xF40E3585, 0x106AA070,
  0x19A4C116, 0x1E376C08, 0x2748774C, 0x34B0BCB5, 0x391C0CB3, 0x4ED8AA4A, 0x5B9CCA4F, 0x682E6FF3,
  0x748F82EE, 0x78A5636F, 0x84C87814, 0x8CC70208, 0x90BEFFFA, 0xA4506CEB, 0xBEF9A3F7, 0xC67178F2]

/-- The eight words that a hash begins with. -/
def startWords : List UInt32 := [
  0x6A09E667, 0xBB67AE85, 0x3C6EF372, 0xA54FF53A, 0x510E527F, 0x9B05688C, 0x1F83D9AB, 0x5BE0CD19]

def rotateRight (x : UInt32) (n : UInt32) : UInt32 := (x >>> n) ||| (x <<< (32 - n))

/-- The bytes of a number, the highest first. -/
def bigEndian (count n : Nat) : List UInt8 :=
  (List.range count).reverse.map fun i => (n >>> (8 * i)).toUInt8

/-- The message with a bit, zeros and its length in bits, which fill its last block. -/
def pad (b : ByteArray) : ByteArray :=
  let zeros := (119 - b.size % 64) % 64
  b ++ ⟨(0x80 :: List.replicate zeros 0 ++ bigEndian 8 (8 * b.size)).toArray⟩

/-- The word at place `i` of a block, the first byte highest. -/
def wordAt (b : ByteArray) (i : Nat) : UInt32 :=
  (List.range 4).foldl (fun acc j => (acc <<< 8) ||| (byteAt b (i + j)).toUInt32) 0

/-- Continues the words of a block, which are kept last first, by one. -/
def nextWord (ws : List UInt32) : UInt32 :=
  let a := ws.getD 1 0
  let b := ws.getD 14 0
  (rotateRight a 17 ^^^ rotateRight a 19 ^^^ (a >>> 10)) + ws.getD 6 0 +
    (rotateRight b 7 ^^^ rotateRight b 18 ^^^ (b >>> 3)) + ws.getD 15 0

/-- The 64 words of the block at place `i`. -/
def schedule (b : ByteArray) (i : Nat) : List UInt32 :=
  let first := (List.range 16).reverse.map fun j => wordAt b (i + 4 * j)
  ((List.range 48).foldl (fun ws _ => nextWord ws :: ws) first).reverse

/-- The words that are mixed. -/
structure State where
  a : UInt32
  b : UInt32
  c : UInt32
  d : UInt32
  e : UInt32
  f : UInt32
  g : UInt32
  h : UInt32

namespace State

def ofList : List UInt32 → State
  | [a, b, c, d, e, f, g, h] => ⟨a, b, c, d, e, f, g, h⟩
  | _ => ⟨0, 0, 0, 0, 0, 0, 0, 0⟩

def toList (s : State) : List UInt32 := [s.a, s.b, s.c, s.d, s.e, s.f, s.g, s.h]

def round (s : State) (k w : UInt32) : State :=
  let t := s.h + (rotateRight s.e 6 ^^^ rotateRight s.e 11 ^^^ rotateRight s.e 25) +
    ((s.e &&& s.f) ^^^ ((~~~ s.e) &&& s.g)) + k + w
  let u := (rotateRight s.a 2 ^^^ rotateRight s.a 13 ^^^ rotateRight s.a 22) +
    ((s.a &&& s.b) ^^^ (s.a &&& s.c) ^^^ (s.b &&& s.c))
  ⟨t + u, s.a, s.b, s.c, s.d + t, s.e, s.f, s.g⟩

end State

/-- Mixes a block into the words. -/
def mixBlock (b : ByteArray) (words : List UInt32) (i : Nat) : List UInt32 :=
  let s := (roundConstants.zip (schedule b i)).foldl
    (fun (s : State) (k, w) => s.round k w) (State.ofList words)
  List.zipWith (· + ·) words s.toList

/-- The hash of a message, in 32 bytes. -/
def hash (b : ByteArray) : List UInt8 :=
  let m := pad b
  let words := (List.range (m.size / 64)).foldl (fun ws i => mixBlock m ws (64 * i)) startWords
  words.flatMap fun w => bigEndian 4 w.toNat

def hexDigit (n : Nat) : Char := (['0', '1', '2', '3', '4', '5', '6', '7', '8', '9', 'a', 'b', 'c',
  'd', 'e', 'f'])[n]?.getD '0'

/-- Bytes in hexadecimal digits, two for each. -/
def toHex (bs : List UInt8) : String :=
  .ofList (bs.flatMap fun b => [hexDigit (b.toNat / 16), hexDigit (b.toNat % 16)])

end Likeness.Hash.Sha256
