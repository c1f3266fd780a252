import Mathlib.Algebra.Order.Field.Power
import Mathlib.Data.Rat.Floor
import Mathlib.Tactic.FieldSimp
import Mathlib.Tactic.Linarith
import Mathlib.Tactic.Positivity

namespace Rounding

variable {bits n : ℤ} {x y c : ℚ}

/-- The integer nearest to a number, of two the even one. -/
def nearest (y : ℚ) : ℤ :=
  let below := y.floor
  let rest := y - below
  if 1 < 2 * rest ∨ (2 * rest = 1 ∧ below % 2 = 1) then below + 1 else below

/-- The exponent of a positive number: found within one by the sizes of
numerator and denominator. -/
def exponent (x : ℚ) : ℤ :=
  let estimate : ℤ := x.num.natAbs.log2 - x.den.log2
  if (2 : ℚ) ^ estimate ≤ x then estimate else estimate - 1

/-- The distance of the numbers with this many bits around a number. -/
def ulp (bits : ℤ) (x : ℚ) : ℚ := 2 ^ (exponent x + 1 - bits)

/-- Rounding of a positive number to this many bits. -/
def round (bits : ℤ) (x : ℚ) : ℚ := nearest (x / ulp bits x) * ulp bits x

/-- A number that fits into a significand with this many bits. -/
def Fits (bits : ℤ) (c : ℚ) : Prop := ∃ m k : ℤ, c = m * 2 ^ k ∧ (m : ℚ) < 2 ^ bits

theorem le_nearest (h : (n : ℚ) ≤ y) : n ≤ nearest y := by
  have hbelow : n ≤ y.floor := Rat.le_floor_iff.mpr h
  unfold nearest
  dsimp only
  split
  · omega
  · exact hbelow

theorem nearest_le (h : y ≤ n) : nearest y ≤ n := by
  have hfloor : (y.floor : ℚ) ≤ y := Rat.floor_le y
  have hbelow : y.floor ≤ n := by exact_mod_cast hfloor.trans h
  unfold nearest
  dsimp only
  split
  next hup =>
    rcases hbelow.eq_or_lt with heq | hlt
    · rw [heq] at hup hfloor
      have hrest : y - n = 0 := by linarith
      rw [hrest] at hup
      norm_num at hup
    · omega
  next => exact hbelow

theorem estimate_bounds (hx : 0 < x) :
    let estimate : ℤ := x.num.natAbs.log2 - x.den.log2
    2 ^ (estimate - 1) ≤ x ∧ x < 2 ^ (estimate + 1) := by
  intro estimate
  have hnum : 0 < x.num := Rat.num_pos.mpr hx
  have hp : x.num.natAbs ≠ 0 := by omega
  have hplow : (2 : ℚ) ^ (x.num.natAbs.log2 : ℤ) ≤ x.num.natAbs := by
    exact_mod_cast Nat.log2_self_le hp
  have hphigh : (x.num.natAbs : ℚ) < 2 ^ (x.num.natAbs.log2 + 1 : ℤ) := by
    exact_mod_cast Nat.lt_log2_self (n := x.num.natAbs)
  have hqlow : (2 : ℚ) ^ (x.den.log2 : ℤ) ≤ x.den := by
    exact_mod_cast Nat.log2_self_le x.den_nz
  have hqhigh : (x.den : ℚ) < 2 ^ (x.den.log2 + 1 : ℤ) := by
    exact_mod_cast Nat.lt_log2_self (n := x.den)
  have hden : (0 : ℚ) < x.den := by exact_mod_cast x.den_pos
  have hvalue : x * x.den = x.num.natAbs := by
    have habs : ((x.num.natAbs : ℕ) : ℤ) = x.num := Int.natAbs_of_nonneg hnum.le
    rw [Rat.mul_den_eq_num,← Int.cast_natCast,habs]
  have hlow : (2 : ℚ) ^ (estimate - 1) * 2 ^ (x.den.log2 + 1 : ℤ) =
      2 ^ (x.num.natAbs.log2 : ℤ) := by
    rw [← zpow_add₀ two_ne_zero]
    congr 1
    omega
  have hhigh : (2 : ℚ) ^ (estimate + 1) * 2 ^ (x.den.log2 : ℤ) =
      2 ^ (x.num.natAbs.log2 + 1 : ℤ) := by
    rw [← zpow_add₀ two_ne_zero]
    congr 1
    omega
  constructor
  · refine le_of_mul_le_mul_right ?_ hden
    calc (2 : ℚ) ^ (estimate - 1) * x.den
        ≤ 2 ^ (estimate - 1) * 2 ^ (x.den.log2 + 1 : ℤ) := by gcongr
      _ ≤ x * x.den := by rw [hlow,hvalue]; exact hplow
  · refine lt_of_mul_lt_mul_right ?_ hden.le
    calc x * x.den < 2 ^ (estimate + 1) * 2 ^ (x.den.log2 : ℤ) := by
          rw [hhigh,hvalue]; exact hphigh
      _ ≤ 2 ^ (estimate + 1) * x.den := by gcongr

theorem exponent_bounds (hx : 0 < x) : 2 ^ exponent x ≤ x ∧ x < 2 ^ (exponent x + 1) := by
  obtain ⟨hlow,hhigh⟩ := estimate_bounds hx
  unfold exponent
  dsimp only
  split
  next hle => exact ⟨hle,hhigh⟩
  next hlt =>
    refine ⟨hlow,?_⟩
    rw [sub_add_cancel]
    exact not_le.mp hlt

theorem ulp_pos (bits : ℤ) (x : ℚ) : 0 < ulp bits x := by
  unfold ulp
  positivity

/-- Where it is not below the numbers with the exponent of x, it is a whole
number of their distances. -/
theorem Fits.eq_mul_ulp (hc : Fits bits c) (h : 2 ^ exponent x ≤ c) :
    ∃ n : ℤ, c = n * ulp bits x := by
  obtain ⟨m,k,rfl,hm⟩ := hc
  have hk : (0 : ℚ) < 2 ^ k := by positivity
  have hlt : (2 : ℚ) ^ exponent x < 2 ^ (bits + k) := by
    rw [zpow_add₀ two_ne_zero]
    exact h.trans_lt ((mul_lt_mul_iff_of_pos_right hk).mpr hm)
  have hexp : exponent x < bits + k := (zpow_lt_zpow_iff_right₀ one_lt_two).mp hlt
  obtain ⟨d,hd⟩ : ∃ d : ℕ, k = d + (exponent x + 1 - bits) :=
    ⟨(k - (exponent x + 1 - bits)).toNat,by omega⟩
  refine ⟨m * 2 ^ d,?_⟩
  rw [ulp,hd,zpow_add₀ two_ne_zero,zpow_natCast]
  push_cast
  ring

theorem round_le (hc : Fits bits c) (hx : 0 < x) (h : x ≤ c) : round bits x ≤ c := by
  obtain ⟨n,hn⟩ := hc.eq_mul_ulp ((exponent_bounds hx).1.trans h)
  have hulp := ulp_pos bits x
  have hle : x / ulp bits x ≤ n := by
    rw [div_le_iff₀ hulp,← hn]
    exact h
  rw [round,hn]
  exact mul_le_mul_of_nonneg_right (by exact_mod_cast nearest_le hle) hulp.le

theorem le_round_of_whole (h : (n : ℚ) * ulp bits x ≤ x) : n * ulp bits x ≤ round bits x := by
  have hulp := ulp_pos bits x
  have hle : (n : ℚ) ≤ x / ulp bits x := (le_div_iff₀ hulp).mpr h
  exact mul_le_mul_of_nonneg_right (by exact_mod_cast le_nearest hle) hulp.le

theorem le_round (hbits : 1 ≤ bits) (hc : Fits bits c) (hx : 0 < x) (h : c ≤ x) :
    c ≤ round bits x := by
  obtain ⟨hlow,-⟩ := exponent_bounds hx
  by_cases hexp : 2 ^ exponent x ≤ c
  · obtain ⟨n,rfl⟩ := hc.eq_mul_ulp hexp
    exact le_round_of_whole h
  · -- Below the exponent of x: the power of two between them is whole.
    obtain ⟨d,hd⟩ : ∃ d : ℕ, exponent x = d + (exponent x + 1 - bits) :=
      ⟨(bits - 1).toNat,by omega⟩
    have hpower : (2 : ℚ) ^ exponent x = ((2 ^ d : ℤ) : ℚ) * ulp bits x := by
      conv => lhs; rw [hd]
      rw [ulp,zpow_add₀ two_ne_zero,zpow_natCast]
      push_cast
      rfl
    rw [hpower] at hlow
    exact ((not_le.mp hexp).le.trans hpower.le).trans (le_round_of_whole hlow)

/-- A number that fits is its own rounding. -/
theorem round_eq (hbits : 1 ≤ bits) (hx : 0 < x) (h : Fits bits x) : round bits x = x :=
  le_antisymm (round_le h hx le_rfl) (le_round hbits h hx le_rfl)

end Rounding
