import Mathlib.Tactic

/-!
# Arithmetic on words that does not overflow

A signed word that holds a natural number is known by its value. The operations
give the word of the result as long as it is below the limit of the type.
-/

namespace Rpi3Device.IntArithmetic

variable {x y : Int32} {a b : ℕ}

theorem bmod_eq_self {n : ℤ} (hlow : -2 ^ 31 ≤ n) (hhigh : n < 2 ^ 31) : n.bmod (2 ^ 32) = n := by
  apply Int.bmod_eq_of_le
  · norm_num
    omega
  · norm_num
    omega

theorem toInt_mul_of_fits (hlow : -2 ^ 31 ≤ x.toInt * y.toInt)
    (hhigh : x.toInt * y.toInt < 2 ^ 31) : (x * y).toInt = x.toInt * y.toInt := by
  rw [Int32.toInt_mul]
  exact bmod_eq_self hlow hhigh

theorem toInt_mul_natCast (hx : x.toInt = a) (hy : y.toInt = b) (h : a * b < 2 ^ 31) :
    (x * y).toInt = (a * b : ℕ) := by
  rw [Int32.toInt_mul, hx, hy, ← Nat.cast_mul]
  generalize a * b = n at h
  exact bmod_eq_self (by omega) (by omega)

theorem toInt_add_natCast (hx : x.toInt = a) (hy : y.toInt = b) (h : a + b < 2 ^ 31) :
    (x + y).toInt = (a + b : ℕ) := by
  rw [Int32.toInt_add, hx, hy, ← Nat.cast_add]
  exact bmod_eq_self (by omega) (by omega)

theorem toInt_sub_natCast (hx : x.toInt = a) (hy : y.toInt = b) (h : b ≤ a) :
    (x - y).toInt = (a - b : ℕ) := by
  have hlt := x.toInt_lt
  rw [Int32.toInt_sub, hx, hy, ← Nat.cast_sub h]
  exact bmod_eq_self (by omega) (by omega)

theorem toInt_div_natCast (hx : x.toInt = a) (hy : y.toInt = b) :
    (x / y).toInt = (a / b : ℕ) := by
  have hne : y ≠ -1 := by
    intro h
    have hneg : y.toInt = -1 := by
      rw [h]
      rfl
    omega
  rw [Int32.toInt_div_of_ne_right _ _ hne, hx, hy]
  exact (Int.ofNat_tdiv a b).symm

theorem toInt_shiftRight_natCast (hx : x.toInt = a) : (x >>> 1).toInt = (a / 2 : ℕ) := by
  change (x.toBitVec.sshiftRight 1).toInt = _
  rw [BitVec.toInt_sshiftRight, Int.shiftRight_eq_div_pow]
  change x.toInt / 2 ^ 1 = _
  rw [hx]
  rfl

theorem toNatClampNeg_eq (hx : x.toInt = a) : x.toNatClampNeg = a := by
  change x.toInt.toNat = a
  rw [hx, Int.toNat_natCast]

end Rpi3Device.IntArithmetic
