import RocksDBWrapper.Foundation.Integers

/-!
# Differences of clock readings

A reading is a `timespec` or, with `__USE_GETTIMEOFDAY`, a `timeval`, and the difference of two is
computed in microseconds and in nanoseconds. The microseconds divide the difference of the
sub-second fields on its own, which rounds up when it is negative, and the nanoseconds of a
`timeval` take its microseconds for nanoseconds.
-/

namespace RocksDBWrapper.Measurements

open Integers

/-! ## The source -/

/-- Whether the clock is read with `clock_gettime` or with `gettimeofday`. -/
inductive Variant
  | timespec
  | timeval
  deriving DecidableEq, Repr

/-- A reading of `clock_gettime`. -/
structure Timespec where
  /-- `tv_sec`. -/
  tvSec : Int64
  /-- `tv_nsec`. -/
  tvNsec : Int64
  deriving DecidableEq, Repr

/-- A reading of `gettimeofday`. -/
structure Timeval where
  /-- `tv_sec`. -/
  tvSec : Int64
  /-- `tv_usec`. -/
  tvUsec : Int64
  deriving DecidableEq, Repr

/-- `my_clock`. -/
abbrev MyClock : Variant → Type
  | .timespec => Timespec
  | .timeval => Timeval

/-- `factor*(sec2-sec1)+sub`, where the sub-second term is computed last. -/
def scaledDiff (factor : ℤ) (sec2 sec1 : Int64) (sub : Option Int64) : Option Int64 :=
  (checkedLong (sec2.toInt - sec1.toInt)).bind fun sec =>
    (checkedLong (factor * sec.toInt)).bind fun scaled =>
      sub.bind fun sub => checkedLong (scaled.toInt + sub.toInt)

/-- `getclock_diff_us`. -/
def getclockDiffUs : (variant : Variant) → MyClock variant → MyClock variant → Option Int64
  | .timeval, clk1, clk2 =>
    scaledDiff 1000000 clk2.tvSec clk1.tvSec (checkedLong (clk2.tvUsec.toInt - clk1.tvUsec.toInt))
  | .timespec, clk1, clk2 =>
    scaledDiff 1000000 clk2.tvSec clk1.tvSec
      ((checkedLong (clk2.tvNsec.toInt - clk1.tvNsec.toInt)).map (· / 1000))

/-- `getclock_diff_ns`. -/
def getclockDiffNs : (variant : Variant) → MyClock variant → MyClock variant → Option Int64
  | .timeval, clk1, clk2 =>
    scaledDiff 1000000000 clk2.tvSec clk1.tvSec
      (checkedLong (clk2.tvUsec.toInt - clk1.tvUsec.toInt))
  | .timespec, clk1, clk2 =>
    scaledDiff 1000000000 clk2.tvSec clk1.tvSec
      (checkedLong (clk2.tvNsec.toInt - clk1.tvNsec.toInt))

/-! ## Readings -/

/-- The seconds of a reading. -/
def seconds : (variant : Variant) → MyClock variant → ℤ
  | .timeval, clk => clk.tvSec.toInt
  | .timespec, clk => clk.tvSec.toInt

/-- The sub-second field of a reading. -/
def subsecond : (variant : Variant) → MyClock variant → ℤ
  | .timeval, clk => clk.tvUsec.toInt
  | .timespec, clk => clk.tvNsec.toInt

/-- Units of the sub-second field in a second. -/
def Variant.unit : Variant → ℤ
  | .timeval => 1000000
  | .timespec => 1000000000

/-- The sub-second field is less than a second. -/
def Normalised (variant : Variant) (clk : MyClock variant) : Prop :=
  0 ≤ subsecond variant clk ∧ subsecond variant clk < variant.unit

/-- A reading is not later than another. -/
def NotLater (variant : Variant) (clk1 clk2 : MyClock variant) : Prop :=
  seconds variant clk1 < seconds variant clk2 ∨
    seconds variant clk1 = seconds variant clk2 ∧ subsecond variant clk1 ≤ subsecond variant clk2

/-- The microseconds are the nanoseconds divided by a thousand, rounded down. -/
def Agrees (variant : Variant) (clk1 clk2 : MyClock variant) : Prop :=
  (getclockDiffUs variant clk1 clk2).map Int64.toInt =
    (getclockDiffNs variant clk1 clk2).map fun ns => ns.toInt.fdiv 1000

/-- A sub-second difference for which it does not matter what is rounded. -/
def RoundsAlike : Variant → ℤ → Prop
  | .timeval, difference => difference = 0 ∨ difference = -1
  | .timespec, difference => 0 ≤ difference ∨ 1000 ∣ difference

instance (variant : Variant) (clk : MyClock variant) : Decidable (Normalised variant clk) :=
  inferInstanceAs (Decidable (_ ∧ _))

instance (variant : Variant) (clk1 clk2 : MyClock variant) :
    Decidable (NotLater variant clk1 clk2) :=
  inferInstanceAs (Decidable (_ ∨ _ ∧ _))

instance (variant : Variant) (clk1 clk2 : MyClock variant) : Decidable (Agrees variant clk1 clk2) :=
  inferInstanceAs (Decidable (_ = _))

/-! ## Computed differences -/

/-- A difference of type `long` is the exact one, and none of its terms is outside the type. -/
theorem scaledDiff_eq_some {factor : ℤ} {sec2 sec1 result : Int64} {sub : Option Int64}
    (same : scaledDiff factor sec2 sec1 sub = some result) :
    ∃ term, sub = some term ∧
      (-2 ^ 63 ≤ factor * (sec2.toInt - sec1.toInt) ∧
        factor * (sec2.toInt - sec1.toInt) < 2 ^ 63) ∧
      result.toInt = factor * (sec2.toInt - sec1.toInt) + term.toInt := by
  have ⟨sec, isSec, same⟩ := Option.bind_eq_some_iff.mp same
  have ⟨scaled, isScaled, same⟩ := Option.bind_eq_some_iff.mp same
  have ⟨term, isTerm, same⟩ := Option.bind_eq_some_iff.mp same
  have sum := (checkedLong_eq_some_iff _ _).mp same
  have product := (checkedLong_eq_some_iff _ _).mp isScaled
  have lower := Int64.le_toInt scaled
  have upper := Int64.toInt_lt scaled
  rw [(checkedLong_eq_some_iff _ _).mp isSec] at product
  rw [product] at sum lower upper
  exact ⟨term, isTerm, ⟨lower, upper⟩, sum⟩

/-- A difference whose terms fit is computed. -/
theorem exists_scaledDiff {factor : ℤ} {sec2 sec1 term : Int64}
    (seconds : -2 ^ 63 ≤ sec2.toInt - sec1.toInt ∧ sec2.toInt - sec1.toInt < 2 ^ 63)
    (scaled : -2 ^ 63 ≤ factor * (sec2.toInt - sec1.toInt) ∧
      factor * (sec2.toInt - sec1.toInt) < 2 ^ 63)
    (sum : -2 ^ 63 ≤ factor * (sec2.toInt - sec1.toInt) + term.toInt ∧
      factor * (sec2.toInt - sec1.toInt) + term.toInt < 2 ^ 63) :
    ∃ result, scaledDiff factor sec2 sec1 (some term) = some result ∧
      result.toInt = factor * (sec2.toInt - sec1.toInt) + term.toInt := by
  have ⟨sec, isSec, difference⟩ := exists_checkedLong seconds
  rw [← difference] at scaled sum ⊢
  have ⟨product, isProduct, value⟩ := exists_checkedLong scaled
  rw [← value] at sum ⊢
  have ⟨result, isResult, total⟩ := exists_checkedLong sum
  refine ⟨result, ?_, total⟩
  rw [scaledDiff, isSec, Option.bind_some, isProduct, Option.bind_some, Option.bind_some, isResult]

/-- Microseconds fit if the nanoseconds of the seconds do. -/
theorem exists_scaledDiff_micro {sec2 sec1 term : Int64}
    (fits : -2 ^ 63 ≤ 1000000000 * (sec2.toInt - sec1.toInt) ∧
      1000000000 * (sec2.toInt - sec1.toInt) < 2 ^ 63)
    (small : -1000000000 < term.toInt ∧ term.toInt < 1000000000) :
    ∃ us, scaledDiff 1000000 sec2 sec1 (some term) = some us ∧
      us.toInt = 1000000 * (sec2.toInt - sec1.toInt) + term.toInt := by
  apply exists_scaledDiff
  · omega
  · omega
  · omega

section Readings

variable {variant : Variant} {clk1 clk2 : MyClock variant}

/-- What the microseconds add to the seconds. -/
def microTerm : Variant → ℤ → ℤ
  | .timeval, difference => difference
  | .timespec, difference => difference.tdiv 1000

/-- The nanoseconds of a difference, with the sub-second fields as they are. -/
theorem getclockDiffNs_eq_some {ns : Int64} (same : getclockDiffNs variant clk1 clk2 = some ns) :
    (-2 ^ 63 ≤ 1000000000 * (seconds variant clk2 - seconds variant clk1) ∧
      1000000000 * (seconds variant clk2 - seconds variant clk1) < 2 ^ 63) ∧
    ns.toInt = 1000000000 * (seconds variant clk2 - seconds variant clk1) +
      (subsecond variant clk2 - subsecond variant clk1) := by
  cases variant with
  | timespec | timeval =>
    have ⟨term, isTerm, fits, value⟩ := scaledDiff_eq_some same
    rw [(checkedLong_eq_some_iff _ _).mp isTerm] at value
    exact ⟨fits, value⟩

/-- The microseconds of a difference, which are computed if the nanoseconds of the seconds fit. -/
theorem exists_getclockDiffUs (normal1 : Normalised variant clk1)
    (normal2 : Normalised variant clk2)
    (fits : -2 ^ 63 ≤ 1000000000 * (seconds variant clk2 - seconds variant clk1) ∧
      1000000000 * (seconds variant clk2 - seconds variant clk1) < 2 ^ 63) :
    ∃ us, getclockDiffUs variant clk1 clk2 = some us ∧
      us.toInt = 1000000 * (seconds variant clk2 - seconds variant clk1) +
        microTerm variant (subsecond variant clk2 - subsecond variant clk1) := by
  cases variant with
  | timeval =>
    simp only [Normalised, subsecond, Variant.unit] at normal1 normal2
    have small : -2 ^ 63 ≤ clk2.tvUsec.toInt - clk1.tvUsec.toInt ∧
        clk2.tvUsec.toInt - clk1.tvUsec.toInt < 2 ^ 63 := by
      omega
    have ⟨term, isTerm, value⟩ := exists_checkedLong small
    have narrow : -1000000000 < term.toInt ∧ term.toInt < 1000000000 := by omega
    have ⟨us, isUs, sum⟩ := exists_scaledDiff_micro fits narrow
    exact ⟨us, by rw [getclockDiffUs, isTerm, isUs], value ▸ sum⟩
  | timespec =>
    simp only [Normalised, subsecond, Variant.unit] at normal1 normal2
    have small : -2 ^ 63 ≤ clk2.tvNsec.toInt - clk1.tvNsec.toInt ∧
        clk2.tvNsec.toInt - clk1.tvNsec.toInt < 2 ^ 63 := by
      omega
    have ⟨term, isTerm, value⟩ := exists_checkedLong small
    have quotient : (term / 1000).toInt = term.toInt.tdiv 1000 := toInt_int64_div (by decide)
    have narrow : -1000000000 < (term / 1000).toInt ∧ (term / 1000).toInt < 1000000000 := by
      have sign : Int.sign 1000 = 1 := rfl
      rw [quotient, Int.tdiv_eq_ediv]
      split <;> omega
    have ⟨us, isUs, sum⟩ := exists_scaledDiff_micro fits narrow
    rw [quotient, value] at sum
    exact ⟨us, by rw [getclockDiffUs, isTerm, Option.map_some, isUs], sum⟩

/-- The microseconds of the sub-second difference are the rounded ones in some cases only. -/
theorem microTerm_eq_iff (variant : Variant) (difference : ℤ) :
    microTerm variant difference = difference / 1000 ↔ RoundsAlike variant difference := by
  cases variant with
  | timeval =>
    change difference = difference / 1000 ↔ difference = 0 ∨ difference = -1
    omega
  | timespec =>
    change difference.tdiv 1000 = difference / 1000 ↔ 0 ≤ difference ∨ 1000 ∣ difference
    rw [Int.tdiv_eq_ediv]
    split
    case isTrue alike => exact iff_of_true (Int.add_zero _) alike
    case isFalse different =>
      apply iff_of_false _ different
      have sign : Int.sign 1000 = 1 := rfl
      omega

end Readings

/-- The microseconds of normalised readings are the nanoseconds divided by a thousand exactly if
the difference of the sub-second fields rounds alike, unless the nanoseconds overflow. -/
theorem agrees_iff (variant : Variant) (clk1 clk2 : MyClock variant)
    (normal1 : Normalised variant clk1) (normal2 : Normalised variant clk2)
    (defined : (getclockDiffNs variant clk1 clk2).isSome) :
    Agrees variant clk1 clk2 ↔
      RoundsAlike variant (subsecond variant clk2 - subsecond variant clk1) := by
  have ⟨ns, isNs⟩ := Option.isSome_iff_exists.mp defined
  have ⟨fits, nanoseconds⟩ := getclockDiffNs_eq_some isNs
  have ⟨us, isUs, microseconds⟩ := exists_getclockDiffUs normal1 normal2 fits
  rw [Agrees, isNs, isUs, Option.map_some, Option.map_some, Option.some_inj, microseconds,
    nanoseconds, Int.fdiv_eq_ediv_of_nonneg _ (by decide), ← microTerm_eq_iff]
  omega

/-- They do within a second, and for readings of `gettimeofday` a microsecond less than seconds
apart. -/
theorem agrees_within_second :
    Agrees .timespec ⟨7, 1000⟩ ⟨7, 999999999⟩ ∧ Agrees .timeval ⟨7, 1⟩ ⟨8, 0⟩ :=
  ⟨(agrees_iff .timespec ⟨7, 1000⟩ ⟨7, 999999999⟩ (by decide +kernel) (by decide +kernel)
      (by decide +kernel)).mpr (.inl (by decide +kernel)),
    (agrees_iff .timeval ⟨7, 1⟩ ⟨8, 0⟩ (by decide +kernel) (by decide +kernel)
      (by decide +kernel)).mpr (.inr (by decide +kernel))⟩

/-- One nanosecond over the end of a second is shown as one microsecond, and of two readings of
`gettimeofday` even five microseconds within a second as five nanoseconds. -/
theorem disagrees_over_second :
    (Normalised .timespec ⟨1, 999999999⟩ ∧ Normalised .timespec ⟨2, 0⟩ ∧
        NotLater .timespec ⟨1, 999999999⟩ ⟨2, 0⟩ ∧
        (getclockDiffNs .timespec ⟨1, 999999999⟩ ⟨2, 0⟩).isSome ∧
        ¬Agrees .timespec ⟨1, 999999999⟩ ⟨2, 0⟩) ∧
      Normalised .timeval ⟨1, 0⟩ ∧ Normalised .timeval ⟨1, 5⟩ ∧ NotLater .timeval ⟨1, 0⟩ ⟨1, 5⟩ ∧
        (getclockDiffNs .timeval ⟨1, 0⟩ ⟨1, 5⟩).isSome ∧ ¬Agrees .timeval ⟨1, 0⟩ ⟨1, 5⟩ := by
  decide +kernel

end RocksDBWrapper.Measurements
