/-!
# Words in bytes

Reading machine words out of a string of bytes, at any place. Bytes outside the string are 0.
-/

namespace Likeness.Hash

def byteAt (b : ByteArray) (i : Nat) : UInt8 := if h : i < b.size then b[i] else 0

/-- The number that `n` bytes from place `i` on give, the last one highest. -/
def littleEndian (b : ByteArray) (i : Nat) : (n : Nat) → UInt64
  | 0 => 0
  | n + 1 => (littleEndian b (i + 1) n <<< 8) ||| (byteAt b i).toUInt64

def read32 (b : ByteArray) (i : Nat) : UInt64 := littleEndian b i 4

def read64 (b : ByteArray) (i : Nat) : UInt64 := littleEndian b i 8

/-- The bytes of a word, the lowest first. -/
def bytesOf (x : UInt64) : List UInt8 :=
  (List.range 8).map fun i => (x >>> (8 * i).toUInt64).toUInt8

def reverseBytes64 (x : UInt64) : UInt64 :=
  (bytesOf x).foldl (fun acc b => (acc <<< 8) ||| b.toUInt64) 0

/-- The lower four bytes in reverse order. -/
def reverseBytes32 (x : UInt64) : UInt64 := reverseBytes64 x >>> 32

def rotateLeft (x : UInt64) (n : UInt64) : UInt64 := (x <<< n) ||| (x >>> (64 - n))

/-- The two halves of a product of words, combined by exclusive or. -/
def foldProduct (a b : UInt64) : UInt64 :=
  let p := a.toNat * b.toNat
  p.toUInt64 ^^^ (p >>> 64).toUInt64

end Likeness.Hash
