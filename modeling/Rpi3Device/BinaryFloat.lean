import Mathlib.Data.Int.Log
import Mathlib.Data.Rat.Floor
import Mathlib.Tactic

/-!
# Quotients of binary floating-point numbers

A positive rational is rounded to `p` binary digits, half to even, with an exponent
that is never out of range. The rounded value is close enough to its argument that the
ceiling of a rounded quotient of two numbers of at most `p` digits is the ceiling of
the quotient itself.
-/

namespace Rpi3Device.BinaryFloat

def roundEven (x : ℚ) : ℤ :=
  if x - ⌊x⌋ < 1 / 2 then ⌊x⌋
  else if 1 / 2 < x - ⌊x⌋ then ⌊x⌋ + 1
  else if ⌊x⌋ % 2 = 0 then ⌊x⌋
  else ⌊x⌋ + 1

def ulp (p : ℕ) (x : ℚ) : ℚ := 2 ^ (Int.log 2 x - ((p : ℤ) - 1))

def round (p : ℕ) (x : ℚ) : ℚ := roundEven (x / ulp p x) * ulp p x

theorem roundEven_intCast (k : ℤ) : roundEven (k : ℚ) = k := by
  simp [roundEven]

theorem roundEven_error (x : ℚ) : |(roundEven x : ℚ) - x| ≤ 1 / 2 := by
  have hlo := Int.floor_le x
  have hhi := Int.lt_floor_add_one x
  rw [abs_le]
  unfold roundEven
  split_ifs with hlt hgt heven <;> push_cast <;> constructor <;> linarith

section Round
variable {p : ℕ} {x : ℚ}

theorem ulp_pos (p : ℕ) (x : ℚ) : 0 < ulp p x := by
  unfold ulp
  positivity

theorem ulp_mul_le (hp : 0 < p) (hx : 0 < x) : ulp p x * 2 ^ (p - 1) ≤ x := by
  have hdigits : ulp p x * 2 ^ (p - 1) = (2 : ℚ) ^ Int.log 2 x := by
    have hcast : ((p - 1 : ℕ) : ℤ) = (p : ℤ) - 1 := by omega
    rw [ulp, ← zpow_natCast, ← zpow_add₀ (by norm_num), hcast]
    congr 1
    ring
  rw [hdigits]
  exact_mod_cast Int.zpow_log_le_self (by norm_num) hx

theorem round_error (hp : 0 < p) (hx : 0 < x) : |round p x - x| * 2 ^ p ≤ x := by
  have hu := ulp_pos p x
  have hsplit : round p x - x = (roundEven (x / ulp p x) - x / ulp p x) * ulp p x := by
    rw [round, sub_mul, div_mul_cancel₀ x hu.ne']
  have hpow : (2 : ℚ) ^ p = 2 * 2 ^ (p - 1) := by
    rw [← pow_succ', Nat.sub_add_cancel hp]
  calc |round p x - x| * 2 ^ p
      = |(roundEven (x / ulp p x) : ℚ) - x / ulp p x| * (2 * (ulp p x * 2 ^ (p - 1))) := by
        rw [hsplit, abs_mul, abs_of_pos hu, hpow]
        ring
    _ ≤ 1 / 2 * (2 * (ulp p x * 2 ^ (p - 1))) := by
        gcongr
        exact roundEven_error _
    _ = ulp p x * 2 ^ (p - 1) := by ring
    _ ≤ x := ulp_mul_le hp hx

theorem round_pos (hp : 1 < p) (hx : 0 < x) : 0 < round p x := by
  have herror := round_error (zero_lt_one.trans hp) hx
  have hpow : (2 : ℚ) ≤ 2 ^ p := by
    calc (2 : ℚ) = 2 ^ 1 := by norm_num
      _ ≤ 2 ^ p := pow_le_pow_right₀ (by norm_num) hp.le
  by_contra hneg
  have habs : x ≤ |round p x - x| := by
    rw [abs_of_nonpos (by linarith)]
    linarith
  have hdouble : x * 2 ≤ |round p x - x| * 2 ^ p := by gcongr
  linarith

theorem round_natCast {n : ℕ} (hp : 0 < p) (hn : n < 2 ^ p) : round p n = n := by
  by_cases hzero : n = 0
  · subst hzero
    simp [round, roundEven]
  have hlog : Int.log 2 (n : ℚ) = Nat.log 2 n := Int.log_natCast 2 n
  have hdigits : Nat.log 2 n ≤ p - 1 := by
    have hlt := Nat.log_lt_of_lt_pow hzero hn
    omega
  have hulp : ulp p (n : ℚ) * 2 ^ (p - 1 - Nat.log 2 n) = 1 := by
    rw [ulp, hlog, ← zpow_natCast, ← zpow_add₀ (by norm_num), Nat.cast_sub hdigits,
      Nat.cast_sub hp]
    norm_num
  have hscale : (n : ℚ) / ulp p n = ((n * 2 ^ (p - 1 - Nat.log 2 n) : ℕ) : ℤ) := by
    rw [div_eq_iff (ulp_pos p n).ne']
    push_cast
    rw [mul_assoc, mul_comm _ (ulp p n), hulp, mul_one]
  rw [round, hscale, roundEven_intCast]
  push_cast
  rw [mul_assoc, mul_comm _ (ulp p n), hulp, mul_one]

end Round

/-- The ceiling of the quotient of `a` and `b`, each first rounded to `p` digits. -/
def ceilQuotient (p a b : ℕ) : ℕ := ⌈round p (round p a / round p b)⌉₊

section CeilQuotient
variable {p a b : ℕ}

theorem ceilQuotient_pos (hp : 1 < p) (ha : 0 < a) (hb : 0 < b) : 0 < ceilQuotient p a b := by
  have hra : 0 < round p a := round_pos hp (by exact_mod_cast ha)
  have hrb : 0 < round p b := round_pos hp (by exact_mod_cast hb)
  exact Nat.ceil_pos.mpr (round_pos hp (div_pos hra hrb))

theorem ceilQuotient_self (hp : 1 < p) (ha : 0 < a) : ceilQuotient p a a = 1 := by
  have hra : 0 < round p a := round_pos hp (by exact_mod_cast ha)
  have hone : round p 1 = 1 := by
    simpa using round_natCast (p := p) (n := 1) (by omega) (Nat.one_lt_two_pow (by omega))
  simp [ceilQuotient, div_self hra.ne', hone]

theorem ceilQuotient_exact (hp : 0 < p) (ha₀ : 0 < a) (ha : a < 2 ^ p) (hb₀ : 0 < b)
    (hb : b < 2 ^ p) : ceilQuotient p a b = (a + b - 1) / b := by
  rw [ceilQuotient, round_natCast hp ha, round_natCast hp hb]
  have hdivision : a / b * b + a % b = a := Nat.div_add_mod' a b
  have hbq : (0 : ℚ) < b := by exact_mod_cast hb₀
  by_cases hexact : a % b = 0
  · have hquotient : (a : ℚ) / b = (a / b : ℕ) := by
      rw [div_eq_iff hbq.ne']
      exact_mod_cast (by omega : a = a / b * b)
    have hceil : (a + b - 1) / b = a / b :=
      Nat.div_eq_of_lt_le (by omega) (by rw [Nat.succ_mul]; omega)
    rw [hquotient, round_natCast hp ((Nat.div_le_self a b).trans_lt ha), Nat.ceil_natCast, hceil]
  · have hlt := Nat.mod_lt a hb₀
    have hceil : (a + b - 1) / b = a / b + 1 :=
      Nat.div_eq_of_lt_le (by rw [Nat.succ_mul]; omega) (by rw [Nat.succ_mul, Nat.succ_mul]; omega)
    have herror : |round p (a / b : ℚ) - a / b| < 1 / b := by
      have haq : (0 : ℚ) < a := by exact_mod_cast ha₀
      have hround := round_error hp (div_pos haq hbq)
      have hpow : (0 : ℚ) < 2 ^ p := by positivity
      have hsmall : (a : ℚ) < 2 ^ p := by exact_mod_cast ha
      rw [lt_div_iff₀ hbq]
      rw [le_div_iff₀ hbq] at hround
      nlinarith
    -- The quotient is at least one `b`-th away from the whole numbers beside it.
    have hlow : ((a / b : ℕ) : ℚ) + 1 / b ≤ a / b := by
      have hle : a / b * b + 1 ≤ a := by omega
      have hcast : ((a / b : ℕ) : ℚ) * b + 1 ≤ a := by exact_mod_cast hle
      rw [← le_sub_iff_add_le, ← sub_div, le_div_iff₀ hbq]
      linarith
    have hhigh : (a : ℚ) / b + 1 / b ≤ (a / b : ℕ) + 1 := by
      have hle : a + 1 ≤ (a / b + 1) * b := by rw [Nat.succ_mul]; omega
      have hcast : (a : ℚ) + 1 ≤ ((a / b : ℕ) + 1) * b := by exact_mod_cast hle
      rw [← add_div, div_le_iff₀ hbq]
      exact hcast
    obtain ⟨hlo, hhi⟩ := abs_lt.mp herror
    rw [hceil, Nat.ceil_eq_iff (Nat.succ_ne_zero _)]
    push_cast
    constructor <;> linarith

end CeilQuotient
end Rpi3Device.BinaryFloat
