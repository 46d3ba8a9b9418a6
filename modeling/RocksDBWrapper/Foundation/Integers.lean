import Mathlib.Data.Rat.Floor

/-!
# Conversions between arithmetic types

Conversion to an unsigned type reduces the value modulo a power of two, so it keeps exactly the
values of the type. A result of type `int` that `int` cannot hold is undefined behaviour, as is the
conversion of a double outside its range; both have no value here.
-/

namespace RocksDBWrapper.Integers

/-! ## Unsigned types -/

/-- A residue is the number itself exactly for the numbers from zero up to the modulus. -/
theorem emod_eq_self_iff {modulus : ℤ} (positive : 0 < modulus) (value : ℤ) :
    value % modulus = value ↔ 0 ≤ value ∧ value < modulus := by
  constructor
  · intro same
    rw [← same]
    exact ⟨Int.emod_nonneg value positive.ne', Int.emod_lt_of_pos value positive⟩
  · intro bounds
    exact Int.emod_eq_of_lt bounds.1 bounds.2

/-- What a conversion to a 16-bit type stores. -/
theorem toNat_uint16_ofInt (value : ℤ) : ((UInt16.ofInt value).toNat : ℤ) = value % 2 ^ 16 := by
  rw [UInt16.ofInt, UInt16.toNat_ofNat']
  omega

/-- What a conversion to a 32-bit type stores. -/
theorem toNat_uint32_ofInt (value : ℤ) : ((UInt32.ofInt value).toNat : ℤ) = value % 2 ^ 32 := by
  rw [UInt32.ofInt, UInt32.toNat_ofNat']
  omega

/-- What a conversion to a 64-bit type stores. -/
theorem toNat_uint64_ofInt (value : ℤ) : ((UInt64.ofInt value).toNat : ℤ) = value % 2 ^ 64 := by
  rw [UInt64.ofInt, UInt64.toNat_ofNat']
  omega

/-- A product of 32-bit numbers is exact exactly when it fits. -/
theorem toNat_uint32_mul_eq_iff (first second : UInt32) :
    (first * second).toNat = first.toNat * second.toNat ↔
      first.toNat * second.toNat < 2 ^ 32 := by
  rw [UInt32.toNat_mul]
  exact Nat.mod_eq_iff_lt (by decide)

/-- A product of three 32-bit numbers, formed from the left, is exact exactly when it fits. -/
theorem toNat_uint32_mul_mul_eq_iff (first second third : UInt32) :
    (first * second * third).toNat = first.toNat * second.toNat * third.toNat ↔
      first.toNat * second.toNat * third.toNat < 2 ^ 32 := by
  rw [UInt32.toNat_mul, UInt32.toNat_mul, Nat.mod_mul_mod]
  exact Nat.mod_eq_iff_lt (by decide)

/-- A product of a converted number and a sum is the exact product, reduced once. -/
theorem toNat_uint64_ofInt_mul_add (value : ℤ) (first second : UInt64) :
    ((UInt64.ofInt value * (first + second)).toNat : ℤ) =
      value * (first.toNat + second.toNat) % 2 ^ 64 := by
  rw [UInt64.toNat_mul, UInt64.toNat_add, Int.natCast_mod, Int.natCast_mul, Int.natCast_mod,
    Int.natCast_add, toNat_uint64_ofInt]
  exact (Int.mul_emod value _ (2 ^ 64)).symm

/-! ## The type `int` -/

/-- A result of type `int`. -/
def checked (value : ℤ) : Option Int32 :=
  if -2 ^ 31 ≤ value ∧ value < 2 ^ 31 then some (Int32.ofInt value) else none

/-- The conversion of a double to `int`, which drops the fraction. -/
def ofDouble (value : ℚ) : Option Int32 :=
  checked (if 0 ≤ value then ⌊value⌋ else ⌈value⌉)

/-- A result that fits is kept. -/
theorem checked_eq_some_iff (value : ℤ) (result : Int32) :
    checked value = some result ↔ result.toInt = value := by
  constructor
  · intro same
    rw [checked] at same
    split at same
    case isTrue fits =>
      rw [← Option.some.inj same]
      exact Int32.toInt_ofInt_of_le fits.1 fits.2
    case isFalse => cases same
  · intro same
    have lower := Int32.le_toInt result
    have upper := Int32.toInt_lt result
    rw [← same, checked, if_pos ⟨lower, upper⟩, Int32.ofInt_toInt]

/-- There is a result exactly when it fits. -/
theorem isSome_checked (value : ℤ) :
    (checked value).isSome ↔ -2 ^ 31 ≤ value ∧ value < 2 ^ 31 := by
  rw [checked]
  split
  case isTrue fits => exact iff_of_true rfl fits
  case isFalse wide => exact iff_of_false Bool.noConfusion wide

/-- The conversion of a double that is an integer. -/
theorem ofDouble_intCast (value : ℤ) : ofDouble value = checked value := by
  rw [ofDouble, Int.floor_intCast, Int.ceil_intCast, ite_self]

/-! ## The type `long` -/

/-- A result of type `long`. -/
def checkedLong (value : ℤ) : Option Int64 :=
  if -2 ^ 63 ≤ value ∧ value < 2 ^ 63 then some (Int64.ofInt value) else none

/-- A result that fits is kept. -/
theorem checkedLong_eq_some_iff (value : ℤ) (result : Int64) :
    checkedLong value = some result ↔ result.toInt = value := by
  constructor
  · intro same
    rw [checkedLong] at same
    split at same
    case isTrue fits =>
      rw [← Option.some.inj same]
      exact Int64.toInt_ofInt_of_le fits.1 fits.2
    case isFalse => cases same
  · intro same
    have lower := Int64.le_toInt result
    have upper := Int64.toInt_lt result
    rw [← same, checkedLong, if_pos ⟨lower, upper⟩, Int64.ofInt_toInt]

/-- There is a result if it fits. -/
theorem exists_checkedLong {value : ℤ} (fits : -2 ^ 63 ≤ value ∧ value < 2 ^ 63) :
    ∃ result, checkedLong value = some result ∧ result.toInt = value :=
  ⟨_, if_pos fits, Int64.toInt_ofInt_of_le fits.1 fits.2⟩

/-- A quotient by a positive constant fits, and drops the fraction. -/
theorem toInt_int64_div {value divisor : Int64} (positive : 0 < divisor.toInt) :
    (value / divisor).toInt = value.toInt.tdiv divisor.toInt := by
  apply Int64.toInt_div_of_ne_right
  intro same
  rw [same] at positive
  exact absurd positive (by decide)

end RocksDBWrapper.Integers
