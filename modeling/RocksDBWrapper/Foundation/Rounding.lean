import Mathlib.Data.Int.Log
import Mathlib.Data.Rat.Floor
import Mathlib.Tactic.Linarith
import Mathlib.Tactic.Positivity
import Mathlib.Tactic.FieldSimp
import Mathlib.Tactic.Ring

/-!
# Binary rounding of rationals

Rounding to nearest, ties to even, at a fixed number of significant bits. Overflow and
gradual underflow are left out: the results below concern quotients of integers, which lie
far inside the normal range of binary64. The main result is that taking the ceiling after
rounding an integer quotient gives the ceiling of the exact quotient, as long as the
numerator has fewer bits than the format.
-/

namespace RocksDBWrapper.Rounding

/-- The nearest integer; a tie goes to the even one. -/
def nearest (value : ℚ) : ℤ :=
  let below := ⌊value⌋
  if value - below < 1 / 2 then below
  else if 1 / 2 < value - below then below + 1
  else if below % 2 = 0 then below else below + 1

/-- Exponent of the last place of a value written with this many significant bits. -/
def lastPlace (bits : ℕ) (value : ℚ) : ℤ := Int.log 2 |value| + 1 - bits

/-- The nearest value with this many significant bits. -/
def round (bits : ℕ) (value : ℚ) : ℚ :=
  nearest (value / 2 ^ lastPlace bits value) * 2 ^ lastPlace bits value

/-- The nearest integer is at most one half away. -/
theorem nearest_error (value : ℚ) : |(nearest value : ℚ) - value| ≤ 1 / 2 := by
  have lower := Int.floor_le value
  have upper := Int.lt_floor_add_one value
  rw [abs_le]
  unfold nearest
  dsimp only
  split_ifs <;> push_cast <;> constructor <;> linarith

/-- An integer is its own nearest integer. -/
theorem nearest_intCast (whole : ℤ) : nearest (whole : ℚ) = whole := by
  simp [nearest]

/-- Rounding a non-zero value moves it by at most half a unit in the last place. -/
theorem round_error (bits : ℕ) (value : ℚ) :
    |round bits value - value| ≤ 2 ^ lastPlace bits value / 2 := by
  have unit : (0 : ℚ) < 2 ^ lastPlace bits value := zpow_pos two_pos _
  have split : round bits value - value =
      (nearest (value / 2 ^ lastPlace bits value) - value / 2 ^ lastPlace bits value) *
        2 ^ lastPlace bits value := by
    rw [sub_mul, div_mul_cancel₀ _ unit.ne']
    rfl
  rw [split, abs_mul, abs_of_pos unit]
  have error := nearest_error (value / 2 ^ lastPlace bits value)
  calc
    _ ≤ 1 / 2 * (2 : ℚ) ^ lastPlace bits value := mul_le_mul_of_nonneg_right error unit.le
    _ = 2 ^ lastPlace bits value / 2 := by ring

/-- The unit in the last place of a positive value is the value scaled down by the bits. -/
theorem lastPlace_le (bits : ℕ) {value : ℚ} (positive : 0 < value) :
    (2 : ℚ) ^ lastPlace bits value ≤ 2 * value / 2 ^ bits := by
  have magnitude := Int.zpow_log_le_self (b := 2) (by decide) positive
  have place : (2 : ℚ) ^ lastPlace bits value = 2 ^ Int.log 2 value * 2 / 2 ^ bits := by
    unfold lastPlace
    rw [abs_of_pos positive, zpow_sub₀ two_ne_zero, zpow_add₀ two_ne_zero, zpow_one,
      zpow_natCast]
  rw [place]
  have scale : (0 : ℚ) < 2 ^ bits := by positivity
  rw [div_le_div_iff_of_pos_right scale]
  push_cast at magnitude
  linarith

/-- An integer of at most the format's bits is rounded to itself. -/
theorem round_natCast (bits whole : ℕ) (fits : whole < 2 ^ bits) :
    round bits (whole : ℚ) = whole := by
  rcases Nat.eq_zero_or_pos whole with rfl | positive
  · simp [round, nearest]
  have magnitude : (0 : ℚ) < whole := by exact_mod_cast positive
  have small : Int.log 2 (whole : ℚ) < bits := by
    rw [← Int.lt_zpow_iff_log_lt (by decide) magnitude]
    exact_mod_cast fits
  obtain ⟨shift, place⟩ : ∃ shift : ℕ, lastPlace bits (whole : ℚ) = -(shift : ℤ) := by
    refine ⟨(bits - 1 - Int.log 2 (whole : ℚ)).toNat, ?_⟩
    unfold lastPlace
    rw [abs_of_pos magnitude]
    omega
  have integral : (whole : ℚ) / 2 ^ lastPlace bits (whole : ℚ) = ((whole * 2 ^ shift : ℤ) : ℚ) := by
    rw [place, zpow_neg, div_inv_eq_mul, zpow_natCast]
    push_cast
    rfl
  unfold round
  rw [integral, nearest_intCast, ← integral, div_mul_cancel₀ _ (zpow_pos two_pos _).ne']

/-- The nearest integer is not below the integers below the value. -/
theorem le_nearest {whole : ℤ} {value : ℚ} (below : (whole : ℚ) ≤ value) :
    whole ≤ nearest value := by
  have floor : whole ≤ ⌊value⌋ := Int.le_floor.mpr below
  unfold nearest
  dsimp only
  split_ifs <;> omega

/-- The nearest integer is not above the integers above the value. -/
theorem nearest_le {whole : ℤ} {value : ℚ} (above : value ≤ whole) : nearest value ≤ whole := by
  have error := nearest_error value
  rw [abs_le] at error
  by_contra past
  have next : (whole : ℚ) + 1 ≤ nearest value := by
    exact_mod_cast Int.add_one_le_iff.mpr (not_le.mp past)
  linarith

/-- Rounding keeps a value that is not positive so. -/
theorem round_nonpos (bits : ℕ) {value : ℚ} (below : value ≤ 0) : round bits value ≤ 0 := by
  have unit : (0 : ℚ) < 2 ^ lastPlace bits value := zpow_pos two_pos _
  have scaled : value / 2 ^ lastPlace bits value ≤ 0 := div_nonpos_of_nonpos_of_nonneg below unit.le
  have whole : nearest (value / 2 ^ lastPlace bits value) ≤ 0 := by
    by_contra above
    have lower : (0 : ℚ) ≤ value / 2 ^ lastPlace bits value := by
      have floor : 0 ≤ ⌊value / 2 ^ lastPlace bits value⌋ := by
        unfold nearest at above
        dsimp only at above
        split_ifs at above <;> omega
      exact Int.floor_nonneg.mp floor
    have zero : value / 2 ^ lastPlace bits value = 0 := le_antisymm scaled lower
    rw [zero] at above
    simp [nearest] at above
  exact mul_nonpos_of_nonpos_of_nonneg (by exact_mod_cast whole) unit.le

/-- Rounding a value of at most the format's bits does not cross an integer downwards. -/
theorem natCast_le_round (bits whole : ℕ) {value : ℚ} (positive : 0 < value)
    (fits : value < 2 ^ bits) (below : (whole : ℚ) ≤ value) : (whole : ℚ) ≤ round bits value := by
  have small : Int.log 2 value < bits := by
    rw [← Int.lt_zpow_iff_log_lt (by decide) positive]
    exact_mod_cast fits
  obtain ⟨shift, place⟩ : ∃ shift : ℕ, lastPlace bits value = -(shift : ℤ) := by
    refine ⟨(bits - 1 - Int.log 2 value).toNat, ?_⟩
    unfold lastPlace
    rw [abs_of_pos positive]
    omega
  have unit : (0 : ℚ) < 2 ^ shift := by positivity
  have scaled : ((whole * 2 ^ shift : ℤ) : ℚ) ≤ value * 2 ^ shift := by
    push_cast
    exact mul_le_mul_of_nonneg_right below unit.le
  have rounded : ((whole * 2 ^ shift : ℤ) : ℚ) ≤ nearest (value * 2 ^ shift) :=
    Int.cast_le.mpr (le_nearest scaled)
  have value' : round bits value = nearest (value * 2 ^ shift) / 2 ^ shift := by
    unfold round
    rw [place, zpow_neg, zpow_natCast, div_inv_eq_mul, div_eq_mul_inv]
  rw [value', le_div_iff₀ unit]
  push_cast at rounded
  exact rounded

/-- A quotient that is not an integer keeps the distance `1 / den` from the integers around. -/
theorem quotient_between {num den : ℕ} (divisor : 0 < den) (broken : ¬ den ∣ num) :
    ∃ below : ℤ, below + 1 / (den : ℚ) ≤ num / den ∧ num / den ≤ below + 1 - 1 / (den : ℚ) := by
  have scale : (0 : ℚ) < den := by exact_mod_cast divisor
  obtain ⟨quotient, rest, same, low, high⟩ :
      ∃ quotient rest : ℕ, num = rest + den * quotient ∧ 1 ≤ rest ∧ rest + 1 ≤ den :=
    ⟨num / den, num % den, (Nat.mod_add_div num den).symm,
      Nat.pos_of_ne_zero fun zero => broken (Nat.dvd_of_mod_eq_zero zero), Nat.mod_lt num divisor⟩
  have value : (num : ℚ) / den = quotient + rest / den := by
    rw [same]
    push_cast
    field_simp
    ring
  have restLow : 1 / (den : ℚ) ≤ rest / den :=
    div_le_div_of_nonneg_right (by exact_mod_cast low) scale.le
  have restHigh : (rest : ℚ) / den + 1 / den ≤ 1 := by
    rw [← add_div, div_le_one scale]
    exact_mod_cast high
  refine ⟨quotient, ?_, ?_⟩ <;> rw [value] <;> push_cast <;> linarith

/-- The ceiling of a rounded integer quotient is the ceiling of the exact quotient, when the
numerator fits the format: a quotient that is not an integer is further from the next
integers than rounding can move it. -/
theorem ceil_round_div (bits num den : ℕ) (fits : num < 2 ^ bits) (divisor : 0 < den) :
    ⌈round bits ((num : ℚ) / den)⌉ = ⌈(num : ℚ) / den⌉ := by
  have below : (0 : ℚ) < den := by exact_mod_cast divisor
  rcases Nat.eq_zero_or_pos num with rfl | above
  · simp [round, nearest]
  have positive : (0 : ℚ) < (num : ℚ) / den := div_pos (by exact_mod_cast above) below
  by_cases whole : den ∣ num
  · obtain ⟨quotient, rfl⟩ := whole
    have exact : ((den * quotient : ℕ) : ℚ) / den = (quotient : ℕ) := by
      push_cast
      field_simp
    rw [exact, round_natCast bits quotient
      (lt_of_le_of_lt (Nat.le_mul_of_pos_left quotient divisor) fits)]
  · have error : |round bits ((num : ℚ) / den) - num / den| < 1 / den := by
      apply lt_of_le_of_lt (round_error bits _)
      have unit := lastPlace_le bits positive
      have scaled : (num : ℚ) / den / 2 ^ bits < 1 / den := by
        rw [div_right_comm, div_lt_div_iff_of_pos_right below, div_lt_one (pow_pos two_pos _)]
        exact_mod_cast fits
      have halved : (2 : ℚ) * (num / den) / 2 ^ bits / 2 = num / den / 2 ^ bits := by ring
      linarith
    obtain ⟨lower, upper⟩ := abs_lt.mp error
    obtain ⟨integer, low, high⟩ := quotient_between divisor whole
    have gap : (0 : ℚ) < 1 / den := div_pos one_pos below
    rw [show ⌈(num : ℚ) / den⌉ = integer + 1 from Int.ceil_eq_iff.mpr
      (by push_cast; constructor <;> linarith)]
    rw [Int.ceil_eq_iff]
    push_cast
    constructor <;> linarith

/-- Rounding moves a quotient of integers by less than a fraction with its denominator, when the
numerator times the divisor of that fraction fits the format. -/
theorem round_div_error (bits : ℕ) {num den parts : ℕ} (above : 0 < num) (divisor : 0 < den)
    (fits : parts * num < 2 ^ bits) (some : 0 < parts) :
    |round bits ((num : ℚ) / den) - num / den| < 1 / (parts * den) := by
  have below : (0 : ℚ) < den := by exact_mod_cast divisor
  have count : (0 : ℚ) < parts := by exact_mod_cast some
  have positive : (0 : ℚ) < (num : ℚ) / den := div_pos (by exact_mod_cast above) below
  apply lt_of_le_of_lt (round_error bits _)
  have unit := lastPlace_le bits positive
  have small : (num : ℚ) * parts < 2 ^ bits := by
    rw [mul_comm]
    exact_mod_cast fits
  have scaled : (num : ℚ) / den / 2 ^ bits < 1 / (parts * den) := by
    rw [div_div, div_lt_div_iff₀ (by positivity) (by positivity)]
    calc
      (num : ℚ) * (parts * den) = num * parts * den := by ring
      _ < 2 ^ bits * den := mul_lt_mul_of_pos_right small below
      _ = 1 * (den * 2 ^ bits) := by ring
  have halved : (2 : ℚ) * (num / den) / 2 ^ bits / 2 = num / den / 2 ^ bits := by ring
  linarith

/-- The floor of a rounded integer quotient is the floor of the exact quotient, when the numerator
fits the format. -/
theorem floor_round_div (bits num den : ℕ) (fits : num < 2 ^ bits) (divisor : 0 < den) :
    ⌊round bits ((num : ℚ) / den)⌋ = ⌊(num : ℚ) / den⌋ := by
  have below : (0 : ℚ) < den := by exact_mod_cast divisor
  rcases Nat.eq_zero_or_pos num with rfl | above
  · simp [round, nearest]
  by_cases whole : den ∣ num
  · obtain ⟨quotient, rfl⟩ := whole
    have exact : ((den * quotient : ℕ) : ℚ) / den = (quotient : ℕ) := by
      push_cast
      field_simp
    rw [exact, round_natCast bits quotient
      (lt_of_le_of_lt (Nat.le_mul_of_pos_left quotient divisor) fits)]
  · have error : |round bits ((num : ℚ) / den) - num / den| < 1 / den := by
      simpa using round_div_error bits above divisor (by simpa using fits) one_pos
    obtain ⟨lower, upper⟩ := abs_lt.mp error
    obtain ⟨integer, low, high⟩ := quotient_between divisor whole
    have gap : (0 : ℚ) < 1 / den := div_pos one_pos below
    rw [show ⌊(num : ℚ) / den⌋ = integer from Int.floor_eq_iff.mpr (by constructor <;> linarith)]
    rw [Int.floor_eq_iff]
    constructor <;> linarith

/-- The half of an integer of at most the format's bits is rounded to itself. -/
theorem round_half (bits whole : ℕ) (fits : whole < 2 ^ bits) :
    round bits ((whole : ℚ) / 2) = whole / 2 := by
  rcases Nat.eq_zero_or_pos whole with rfl | positive
  · simp [round, nearest]
  have magnitude : (0 : ℚ) < (whole : ℚ) / 2 := by
    have : (0 : ℚ) < whole := by exact_mod_cast positive
    linarith
  have small : Int.log 2 ((whole : ℚ) / 2) < (bits : ℤ) - 1 := by
    rw [← Int.lt_zpow_iff_log_lt (by decide) magnitude]
    have scaled : ((2 : ℕ) : ℚ) ^ ((bits : ℤ) - 1) = 2 ^ bits / 2 := by
      push_cast
      rw [zpow_sub₀ two_ne_zero, zpow_natCast, zpow_one]
    rw [scaled, div_lt_div_iff_of_pos_right two_pos]
    exact_mod_cast fits
  obtain ⟨shift, place⟩ : ∃ shift : ℕ, lastPlace bits ((whole : ℚ) / 2) = -(shift + 1 : ℤ) := by
    refine ⟨(bits - 2 - Int.log 2 ((whole : ℚ) / 2)).toNat, ?_⟩
    unfold lastPlace
    rw [abs_of_pos magnitude]
    omega
  have integral : (whole : ℚ) / 2 / 2 ^ lastPlace bits ((whole : ℚ) / 2) =
      ((whole * 2 ^ shift : ℤ) : ℚ) := by
    rw [place, zpow_neg, div_inv_eq_mul, zpow_add₀ two_ne_zero, zpow_natCast, zpow_one]
    push_cast
    ring
  unfold round
  rw [integral, nearest_intCast, ← integral, div_mul_cancel₀ _ (zpow_pos two_pos _).ne']

/-- Between two neighbouring halves of integers the nearest integer is the same. -/
theorem nearest_of_between {below : ℤ} {value : ℚ} (low : (below : ℚ) / 2 < value)
    (high : value < ((below : ℚ) + 1) / 2) : nearest value = (below + 1) / 2 := by
  rcases Int.even_or_odd' below with ⟨half, rfl | rfl⟩
  · push_cast at low high
    have floor : ⌊value⌋ = half := Int.floor_eq_iff.mpr (by constructor <;> linarith)
    rw [nearest, floor, if_pos (by linarith)]
    omega
  · push_cast at low high
    have floor : ⌊value⌋ = half := Int.floor_eq_iff.mpr (by constructor <;> linarith)
    rw [nearest, floor, if_neg (by linarith), if_pos (by linarith)]
    omega

/-- The integer nearest to a rounded integer quotient is the one nearest to the exact quotient,
when twice the numerator fits the format: a quotient that is not half an integer is further from
the halves of integers than rounding can move it. -/
theorem nearest_round_div (bits num den : ℕ) (fits : 2 * num < 2 ^ bits) (divisor : 0 < den) :
    nearest (round bits ((num : ℚ) / den)) = nearest ((num : ℚ) / den) := by
  have below : (0 : ℚ) < den := by exact_mod_cast divisor
  rcases Nat.eq_zero_or_pos num with rfl | above
  · simp [round, nearest]
  by_cases whole : den ∣ 2 * num
  · obtain ⟨quotient, same⟩ := whole
    have exact : (num : ℚ) / den = (quotient : ℕ) / 2 := by
      have cast : (2 : ℚ) * num = den * quotient := by exact_mod_cast same
      field_simp
      linarith
    have small : quotient < 2 ^ bits :=
      lt_of_le_of_lt (Nat.le_mul_of_pos_left quotient divisor) (same ▸ fits)
    rw [exact, round_half bits quotient small]
  · have error : |round bits ((num : ℚ) / den) - num / den| < 1 / (2 * den) := by
      exact_mod_cast round_div_error bits above divisor fits two_pos
    obtain ⟨lower, upper⟩ := abs_lt.mp error
    obtain ⟨integer, low, high⟩ := quotient_between divisor whole
    have gap : (0 : ℚ) < 1 / (2 * den) := div_pos one_pos (by linarith)
    have halved : (1 : ℚ) / den = 2 * (1 / (2 * den)) := by
      field_simp
    have twice : ((2 * num : ℕ) : ℚ) / den = 2 * (num / den) := by
      push_cast
      ring
    rw [twice, halved] at low high
    have rounded : nearest (round bits ((num : ℚ) / den)) = (integer + 1) / 2 :=
      nearest_of_between (by linarith) (by linarith)
    have exact : nearest ((num : ℚ) / den) = (integer + 1) / 2 :=
      nearest_of_between (by linarith) (by linarith)
    rw [rounded, exact]

/-! ## Several roundings -/

/-- The second value comes from the first, which is not negative, by so many roundings and by
operations that keep ratios. -/
structure Near (bits steps : ℕ) (value approx : ℚ) : Prop where
  /-- The first value is not negative. -/
  nonneg : 0 ≤ value
  /-- Not much is lost. -/
  low : value * (1 - 1 / 2 ^ bits) ^ steps ≤ approx
  /-- Not much is gained. -/
  high : approx ≤ value * (1 + 1 / 2 ^ bits) ^ steps

/-- The relative error of a rounding is at most a half in the last of the bits. -/
theorem round_relative (bits : ℕ) {value : ℚ} (nonneg : 0 ≤ value) :
    value * (1 - 1 / 2 ^ bits) ≤ round bits value ∧
      round bits value ≤ value * (1 + 1 / 2 ^ bits) := by
  rcases nonneg.eq_or_lt with rfl | positive
  · have zero : round bits 0 = 0 := by simp [round, nearest]
    rw [zero]
    simp
  · have error := round_error bits value
    have unit := lastPlace_le bits positive
    have half : 2 * value / 2 ^ bits / 2 = value * (1 / 2 ^ bits) := by ring
    rw [abs_le] at error
    constructor <;> linarith

/-- Without roundings a value is itself. -/
theorem Near.refl (bits : ℕ) {value : ℚ} (nonneg : 0 ≤ value) : Near bits 0 value value :=
  ⟨nonneg, by simp, by simp⟩

/-- What is lost in one rounding leaves something. -/
theorem kept_nonneg (bits : ℕ) : (0 : ℚ) ≤ 1 - 1 / 2 ^ bits := by
  have one : (1 : ℚ) ≤ 2 ^ bits := one_le_pow₀ (by norm_num)
  have small : 1 / (2 : ℚ) ^ bits ≤ 1 := (div_le_one (by positivity)).mpr one
  linarith

/-- What comes from a value that is not negative is not negative. -/
theorem Near.approx_nonneg {bits steps : ℕ} {value approx : ℚ}
    (near : Near bits steps value approx) : 0 ≤ approx :=
  (mul_nonneg near.nonneg (pow_nonneg (kept_nonneg bits) steps)).trans near.low

/-- One more rounding. -/
theorem Near.round {bits steps : ℕ} {value approx : ℚ} (near : Near bits steps value approx) :
    Near bits (steps + 1) value (round bits approx) := by
  obtain ⟨low, high⟩ := round_relative bits near.approx_nonneg
  refine ⟨near.nonneg, ?_, ?_⟩
  · calc
      _ = value * (1 - 1 / 2 ^ bits) ^ steps * (1 - 1 / 2 ^ bits) := by ring
      _ ≤ approx * (1 - 1 / 2 ^ bits) :=
        mul_le_mul_of_nonneg_right near.low (kept_nonneg bits)
      _ ≤ _ := low
  · calc
      _ ≤ approx * (1 + 1 / 2 ^ bits) := high
      _ ≤ value * (1 + 1 / 2 ^ bits) ^ steps * (1 + 1 / 2 ^ bits) :=
        mul_le_mul_of_nonneg_right near.high (by positivity)
      _ = _ := by ring

end RocksDBWrapper.Rounding
