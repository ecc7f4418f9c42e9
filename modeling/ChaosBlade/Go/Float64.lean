/-
Go.Float64: rounding to a binary64, over the rationals.

A finite binary64 is read as the rational it denotes. `round` takes a
rational to the nearest one with 53 significant bits, ties to the even
mantissa; Go's operators on `float64` are the exact operation followed by
`round`. Subnormals, overflow and NaN are not modelled: the values here lie
far inside the normal range, or are zero.
-/
import Mathlib.Data.Int.Log
import Mathlib.Data.Rat.Floor
import Mathlib.Tactic.Linarith
import Mathlib.Tactic.FieldSimp

namespace ChaosBlade.Go.Float64

def nearestEven (x : ℚ) : ℤ :=
  if x - ⌊x⌋ < 1 / 2 then ⌊x⌋
  else if 1 / 2 < x - ⌊x⌋ then ⌊x⌋ + 1
  else if ⌊x⌋ % 2 = 0 then ⌊x⌋ else ⌊x⌋ + 1

def exponent (x : ℚ) : ℤ := Int.log 2 x - 52

def roundPos (x : ℚ) : ℚ := nearestEven (x / 2 ^ exponent x) * 2 ^ exponent x

def round (x : ℚ) : ℚ := if x < 0 then -roundPos (-x) else roundPos x

def add (x y : ℚ) : ℚ := round (x + y)

def mul (x y : ℚ) : ℚ := round (x * y)

def div (x y : ℚ) : ℚ := round (x / y)

theorem floor_le_nearestEven (x : ℚ) : ⌊x⌋ ≤ nearestEven x := by
  unfold nearestEven
  split_ifs <;> omega

theorem nearestEven_le_floor_succ (x : ℚ) : nearestEven x ≤ ⌊x⌋ + 1 := by
  unfold nearestEven
  split_ifs <;> omega

@[simp] theorem nearestEven_intCast (n : ℤ) : nearestEven n = n := by simp [nearestEven]

theorem nearestEven_le_ceil (x : ℚ) : nearestEven x ≤ ⌈x⌉ := by
  by_cases hint : x = ⌊x⌋
  · rw [hint]
    simp
  · have hlt : (⌊x⌋ : ℚ) < x := lt_of_le_of_ne (Int.floor_le x) (Ne.symm hint)
    have hceil : ⌊x⌋ + 1 ≤ ⌈x⌉ := Int.add_one_le_of_lt (Int.lt_ceil.mpr hlt)
    exact (nearestEven_le_floor_succ x).trans hceil

/-! ## The integers on the grid -/

variable {x : ℚ}

theorem exponent_nonpos (hlt : x < 2 ^ 53) : exponent x ≤ 0 := by
  by_cases hpos : 0 < x
  · have hlog : (2 : ℚ) ^ Int.log 2 x < 2 ^ (53 : ℤ) := by
      calc (2 : ℚ) ^ Int.log 2 x ≤ x := by
            exact_mod_cast Int.zpow_log_le_self (by norm_num : 1 < 2) hpos
        _ < 2 ^ (53 : ℤ) := by exact_mod_cast hlt
    have := (zpow_lt_zpow_iff_right₀ (by norm_num : (1 : ℚ) < 2)).mp hlog
    unfold exponent
    omega
  · have hzero : Int.log 2 x = 0 := Int.log_of_right_le_zero 2 (not_lt.mp hpos)
    simp [exponent, hzero]

theorem intCast_div_grid {e : ℤ} (he : e ≤ 0) (n : ℤ) :
    ((n * 2 ^ (-e).toNat : ℤ) : ℚ) = n / 2 ^ e := by
  obtain ⟨k, rfl⟩ := Int.exists_eq_neg_ofNat he
  simp

theorem le_roundPos {n : ℤ} (hlt : x < 2 ^ 53) (hn : (n : ℚ) ≤ x) : (n : ℚ) ≤ roundPos x := by
  have hgrid : (0 : ℚ) < 2 ^ exponent x := zpow_pos (by norm_num) _
  have hint := intCast_div_grid (exponent_nonpos hlt) n
  have hfloor : n * 2 ^ (-exponent x).toNat ≤ ⌊x / 2 ^ exponent x⌋ := by
    rw [Int.le_floor, hint]
    gcongr
  have hnear : ((n * 2 ^ (-exponent x).toNat : ℤ) : ℚ) ≤ nearestEven (x / 2 ^ exponent x) := by
    exact_mod_cast hfloor.trans (floor_le_nearestEven _)
  rw [hint] at hnear
  exact (div_le_iff₀ hgrid).mp hnear

theorem roundPos_le {n : ℤ} (hlt : x < 2 ^ 53) (hn : x ≤ n) : roundPos x ≤ n := by
  have hgrid : (0 : ℚ) < 2 ^ exponent x := zpow_pos (by norm_num) _
  have hint := intCast_div_grid (exponent_nonpos hlt) n
  have hceil : ⌈x / 2 ^ exponent x⌉ ≤ n * 2 ^ (-exponent x).toNat := by
    rw [Int.ceil_le, hint]
    gcongr
  have hnear : (nearestEven (x / 2 ^ exponent x) : ℚ) ≤ (n * 2 ^ (-exponent x).toNat : ℤ) := by
    exact_mod_cast (nearestEven_le_ceil _).trans hceil
  rw [hint] at hnear
  exact (le_div_iff₀ hgrid).mp hnear

theorem le_round {n : ℕ} (h0 : 0 ≤ x) (hlt : x < 2 ^ 53) (hn : (n : ℚ) ≤ x) :
    (n : ℚ) ≤ round x := by
  rw [round, if_neg (not_lt.mpr h0)]
  simpa using le_roundPos (n := n) hlt (by simpa using hn)

theorem round_le {n : ℕ} (h0 : 0 ≤ x) (hlt : x < 2 ^ 53) (hn : x ≤ n) : round x ≤ n := by
  rw [round, if_neg (not_lt.mpr h0)]
  simpa using roundPos_le (n := n) hlt (by simpa using hn)

theorem round_natCast {n : ℕ} (hlt : n < 2 ^ 53) : round n = n := by
  have hlt' : (n : ℚ) < 2 ^ 53 := by exact_mod_cast hlt
  exact le_antisymm (round_le n.cast_nonneg hlt' le_rfl) (le_round n.cast_nonneg hlt' le_rfl)

end ChaosBlade.Go.Float64
