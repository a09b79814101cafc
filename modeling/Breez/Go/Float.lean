import Mathlib.Algebra.Group.Nat.Basic
import Breez.Go.Runtime

set_option autoImplicit false

namespace Breez.Go

-- A finite float64, ±mantissa * 2^exponent.
structure Float64 where
  negative : Bool
  mantissa : Nat
  exponent : Int
  deriving DecidableEq, Repr

def bitLengthFrom : Nat → Nat → Nat
  | 0, _ => 0
  | fuel + 1, n => if n = 0 then 0 else bitLengthFrom fuel (n / 2) + 1

-- The number of binary digits of n; structural, unlike Nat.log2, so that decide evaluates it.
def bitLength (n : Nat) : Nat :=
  bitLengthFrom n n

-- n / d rounded to an integer, ties to even.
def roundHalfEven (n d : Nat) : Nat :=
  n / d + if d < 2 * (n % d) ∨ (2 * (n % d) = d ∧ n / d % 2 = 1) then 1 else 0

-- The k with 2^k ≤ n / d < 2^(k+1): the difference of the bit lengths, or one less.
def exponentOf (n d : Nat) : Int :=
  let k : Int := (bitLength n : Int) - bitLength d
  let below := if 0 ≤ k then n < d * 2 ^ k.toNat else n * 2 ^ (-k).toNat < d
  if below then k - 1 else k

-- ±n / d rounded to 53 significant bits, to nearest, ties to even.
def roundToFloat64 (negative : Bool) (n d : Nat) : Float64 :=
  let e := exponentOf n d - 52
  if 0 ≤ e then ⟨negative, roundHalfEven n (d * 2 ^ e.toNat), e⟩
  else ⟨negative, roundHalfEven (n * 2 ^ (-e).toNat) d, e⟩

namespace Float64

def ofInt (v : Int) : Float64 :=
  if v.natAbs < 2 ^ 53 then ⟨v < 0, v.natAbs, 0⟩ else roundToFloat64 (v < 0) v.natAbs 1

def divNat (x : Float64) (d : Nat) : Float64 :=
  if 0 ≤ x.exponent then roundToFloat64 x.negative (x.mantissa * 2 ^ x.exponent.toNat) d
  else roundToFloat64 x.negative x.mantissa (d * 2 ^ (-x.exponent).toNat)

def floorAbs (x : Float64) : Nat :=
  if 0 ≤ x.exponent then x.mantissa * 2 ^ x.exponent.toNat
  else x.mantissa / 2 ^ (-x.exponent).toNat

def ceilAbs (x : Float64) : Nat :=
  if 0 ≤ x.exponent then x.mantissa * 2 ^ x.exponent.toNat
  else (x.mantissa + 2 ^ (-x.exponent).toNat - 1) / 2 ^ (-x.exponent).toNat

-- int64(math.Floor(x)) and int64(math.Ceil(x)), for x within int64's range.
def floor (x : Float64) : Int :=
  if x.negative then -(x.ceilAbs : Int) else x.floorAbs

def ceil (x : Float64) : Int :=
  if x.negative then -(x.floorAbs : Int) else x.ceilAbs

end Float64

theorem bitLengthFrom_le (fuel n k : Nat) (small : n < 2 ^ k) : bitLengthFrom fuel n ≤ k := by
  induction fuel generalizing n k with
  | zero => exact Nat.zero_le _
  | succ fuel ih =>
    simp only [bitLengthFrom]
    split
    · exact Nat.zero_le _
    · cases k with
      | zero => rw [Nat.pow_zero] at small; omega
      | succ k =>
        have half : n / 2 < 2 ^ k := by rw [Nat.pow_succ] at small; omega
        exact Nat.succ_le_succ (ih (n / 2) k half)

theorem pow_bitLengthFrom_le (fuel n : Nat) (enough : n ≤ fuel) (pos : n ≠ 0) :
    2 ^ bitLengthFrom fuel n ≤ 2 * n := by
  induction fuel generalizing n with
  | zero => omega
  | succ fuel ih =>
    simp only [bitLengthFrom, if_neg pos, Nat.pow_succ]
    by_cases last : n / 2 = 0
    · cases fuel <;> simp [bitLengthFrom, last] <;> omega
    · have := ih (n / 2) (by omega) last
      omega

theorem exponentOf_le (X : Nat) (exact : X ≤ 2 ^ 53) : exponentOf X 1000 ≤ 43 := by
  have digits : bitLength 1000 = 10 := by decide
  have atMost : bitLength X ≤ 54 := bitLengthFrom_le X X 54 (by omega)
  simp only [exponentOf, digits]
  by_cases top : bitLength X = 54
  · have reached : 2 ^ 54 ≤ 2 * X := top ▸ pow_bitLengthFrom_le X X le_rfl (by
      rintro rfl
      simp [bitLength, bitLengthFrom] at top)
    rw [top, show X = 2 ^ 53 by omega]
    decide
  · split <;> omega

-- With at least nine fraction bits, rounding X / 1000 keeps its integer part, and lands on it
-- exactly when the division is exact.
theorem roundHalfEven_mul_two_pow (X s : Nat) (wide : 9 ≤ s) :
    X / 1000 * 2 ^ s ≤ roundHalfEven (X * 2 ^ s) 1000 ∧
      roundHalfEven (X * 2 ^ s) 1000 < X / 1000 * 2 ^ s + 2 ^ s ∧
      (roundHalfEven (X * 2 ^ s) 1000 = X / 1000 * 2 ^ s ↔ X % 1000 = 0) := by
  have large : 2 ^ 9 ≤ 2 ^ s := Nat.pow_le_pow_right (by omega) wide
  have split : X * 2 ^ s = 1000 * (X / 1000 * 2 ^ s) + X % 1000 * 2 ^ s := by
    conv_lhs => rw [← Nat.div_add_mod X 1000]
    rw [Nat.add_mul, Nat.mul_assoc]
  have rest : X % 1000 * 2 ^ s ≤ 999 * 2 ^ s := Nat.mul_le_mul_right _ (by omega)
  have exact : X % 1000 = 0 → X % 1000 * 2 ^ s = 0 := fun zero => by rw [zero, Nat.zero_mul]
  have inexact : 0 < X % 1000 → 2 ^ s ≤ X % 1000 * 2 ^ s := Nat.le_mul_of_pos_left _
  unfold roundHalfEven
  split <;> omega

theorem roundHalfEven_floor (X s : Nat) (wide : 9 ≤ s) :
    roundHalfEven (X * 2 ^ s) 1000 / 2 ^ s = X / 1000 := by
  obtain ⟨lo, hi, -⟩ := roundHalfEven_mul_two_pow X s wide
  exact Nat.div_eq_of_lt_le lo (by rw [Nat.add_one_mul]; exact hi)

theorem roundHalfEven_ceil (X s : Nat) (wide : 9 ≤ s) :
    (roundHalfEven (X * 2 ^ s) 1000 + 2 ^ s - 1) / 2 ^ s = (X + 999) / 1000 := by
  obtain ⟨lo, hi, exact⟩ := roundHalfEven_mul_two_pow X s wide
  by_cases whole : X % 1000 = 0
  · have same := exact.mpr whole
    rw [show (X + 999) / 1000 = X / 1000 by omega]
    exact Nat.div_eq_of_lt_le (by omega) (by rw [Nat.add_one_mul]; omega)
  · have above := Nat.lt_of_le_of_ne lo (fun same => whole (exact.mp same.symm))
    rw [show (X + 999) / 1000 = X / 1000 + 1 by omega]
    exact Nat.div_eq_of_lt_le (by rw [Nat.add_one_mul]; omega)
      (by rw [Nat.add_one_mul, Nat.add_one_mul]; omega)

theorem roundToFloat64_two_pow_53 (negative : Bool) :
    roundToFloat64 negative (2 ^ 53) 1 = ⟨negative, 2 ^ 52, 1⟩ := by
  cases negative <;> decide

theorem divNat_ofInt (v : Int) (exact : v.natAbs ≤ 2 ^ 53) :
    (Float64.ofInt v).divNat 1000 = roundToFloat64 (v < 0) v.natAbs 1000 := by
  unfold Float64.ofInt
  split
  · simp [Float64.divNat]
  · rw [show v.natAbs = 2 ^ 53 by omega, roundToFloat64_two_pow_53]
    simp [Float64.divNat]

theorem roundToFloat64_of_le (negative : Bool) (X : Nat) (exact : X ≤ 2 ^ 53) :
    ∃ s : Nat, 9 ≤ s ∧ roundToFloat64 negative X 1000 =
      ⟨negative, roundHalfEven (X * 2 ^ s) 1000, -(s : Int)⟩ := by
  have bound := exponentOf_le X exact
  refine ⟨(52 - exponentOf X 1000).toNat, by omega, ?_⟩
  simp only [roundToFloat64]
  rw [if_neg (by omega),
    show (-(exponentOf X 1000 - 52)).toNat = (52 - exponentOf X 1000).toNat by omega]
  congr 1
  omega

theorem floor_ceil_divNat_ofInt (v : Int) (exact : v.natAbs ≤ 2 ^ 53) :
    ((Float64.ofInt v).divNat 1000).floor = v / 1000 ∧
      ((Float64.ofInt v).divNat 1000).ceil = -((-v) / 1000) := by
  obtain ⟨s, wide, rounded⟩ := roundToFloat64_of_le (v < 0) v.natAbs exact
  have down := roundHalfEven_floor v.natAbs s wide
  have up := roundHalfEven_ceil v.natAbs s wide
  rw [divNat_ofInt v exact, rounded]
  simp only [Float64.floor, Float64.ceil, Float64.floorAbs, Float64.ceilAbs,
    if_neg (show ¬ (0 : Int) ≤ -(s : Int) by omega), show (-(-(s : Int))).toNat = s by omega,
    down, up]
  rcases Int.natAbs_eq v with same | flipped <;> by_cases negative : v < 0 <;>
    simp only [negative, decide_True, decide_False, if_true, if_false, Bool.false_eq_true] <;>
    omega

theorem floor_ceil_divNat_ofInt_two_pow_53 :
    (-9007199254740992 : Int).natAbs ≤ 2 ^ 53 ∧
      ((Float64.ofInt (-9007199254740992)).divNat 1000).floor = -9007199254740992 / 1000 ∧
      ((Float64.ofInt (-9007199254740992)).divNat 1000).ceil = -(9007199254740992 / 1000) :=
  ⟨by decide, floor_ceil_divNat_ofInt _ (by decide)⟩

-- Past 2^53, float64(v) rounds v first: 9007199254741999 becomes 9007199254742000.
example : ((Float64.ofInt 9007199254741999).divNat 1000).floor = 9007199254742 := by
  decide

end Breez.Go
