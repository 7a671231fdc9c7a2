import Mathlib.Logic.Function.Basic
import Mathlib.Tactic.Common
import Likeness.Hash.Xxh3

/-!
# Short inputs have different hashes

The final mixing of short inputs loses nothing: each of its steps can be undone (`xorShift_injective`,
`mul_injective`). So inputs of one byte have different hashes, whatever the seed (`hash_byte_inj`).
-/

namespace Likeness.Hash.Xxh3

/-! ### The final mixing -/

/-- Mixing the high digits of a word into the low ones loses nothing. -/
theorem xorShift_injective {n : UInt64} (hn : n.toNat % 64 ≠ 0) :
    Function.Injective fun x : UInt64 => x ^^^ (x >>> n) := by
  intro x y h
  have hdiff : x ^^^ y = (x ^^^ y) >>> n := by
    rw [UInt64.shiftRight_xor, ← UInt64.xor_eq_zero_iff]
    calc x ^^^ y ^^^ (x >>> n ^^^ y >>> n) = (x ^^^ x >>> n) ^^^ (y ^^^ y >>> n) := by ac_rfl
      _ = 0 := UInt64.xor_eq_zero_iff.2 h
  -- a word that is its own shift is zero
  have hnat := congrArg UInt64.toNat hdiff
  rw [UInt64.toNat_shiftRight, Nat.shiftRight_eq_div_pow] at hnat
  have hzero : ¬ 0 < (x ^^^ y).toNat := by
    intro hpos
    have hless := Nat.div_lt_self hpos (Nat.one_lt_two_pow hn)
    omega
  exact UInt64.xor_eq_zero_iff.1 (UInt64.toNat_inj.1 (by simpa using hzero))

/-- A factor that has an inverse loses nothing. -/
theorem mul_injective {c d : UInt64} (h : c * d = 1) : Function.Injective fun x : UInt64 => x * c := by
  intro x y hxy
  have hmul : x * c * d = y * c * d := congrArg (· * d) hxy
  simpa [UInt64.mul_assoc, h] using hmul

theorem avalancheShort_injective : Function.Injective avalancheShort := by
  have hb : prime64b * 0x0BA79078168D4BAF = 1 := by decide
  have hc : prime64c * 0xE9E9F4C41D6DF849 = 1 := by decide
  have hfirst := (mul_injective hb).comp (xorShift_injective (n := 33) (by decide))
  have hsecond := (mul_injective hc).comp (xorShift_injective (n := 29) (by decide))
  exact (xorShift_injective (n := 32) (by decide)).comp (hsecond.comp hfirst)

/-! ### Inputs of one byte -/

/-- The word that an input of one byte is read as. -/
def byteWord (x : UInt8) : UInt64 :=
  (x.toUInt64 <<< 16) ||| (x.toUInt64 <<< 24) ||| x.toUInt64 ||| ((1 : UInt64) <<< 8)

/-- What is shifted by a byte or more leaves the lowest byte empty. -/
theorem toUInt8_shiftLeft (x : UInt64) {n : UInt64} (hn : 8 ≤ n.toNat % 64) : (x <<< n).toUInt8 = 0 := by
  apply UInt8.toNat_inj.1
  rw [UInt64.toNat_toUInt8, UInt64.toNat_shiftLeft, Nat.shiftLeft_eq, Nat.mod_mod_of_dvd _ (by decide)]
  exact Nat.mod_eq_zero_of_dvd (Nat.dvd_mul_left_of_dvd (Nat.pow_dvd_pow 2 hn) _)

/-- The byte is the lowest of its word. -/
theorem toUInt8_byteWord (x : UInt8) : (byteWord x).toUInt8 = x := by
  simp only [byteWord, UInt64.toUInt8_or]
  rw [toUInt8_shiftLeft _ (by decide), toUInt8_shiftLeft _ (by decide), toUInt8_shiftLeft _ (by decide)]
  simp

theorem hash_byte (x : UInt8) (seed : UInt64) : hash ⟨#[x]⟩ seed =
    avalancheShort (byteWord x ^^^ ((read32 secret 0 ^^^ read32 secret 4) + seed)) := by
  have hsize : (⟨#[x]⟩ : ByteArray).size = 1 := rfl
  have hbyte : byteAt ⟨#[x]⟩ 0 = x := rfl
  unfold hash hashTiny
  generalize read32 secret 0 ^^^ read32 secret 4 = flip
  simp [hsize, hbyte, byteWord]

theorem hash_byte_inj (x y : UInt8) (seed : UInt64) : hash ⟨#[x]⟩ seed = hash ⟨#[y]⟩ seed ↔ x = y := by
  refine ⟨fun h => ?_, fun h => h ▸ rfl⟩
  rw [hash_byte, hash_byte] at h
  have hword : byteWord x = byteWord y := (UInt64.xor_left_inj _).1 (avalancheShort_injective h)
  rw [← toUInt8_byteWord x, ← toUInt8_byteWord y, hword]

end Likeness.Hash.Xxh3
