import Mathlib.Algebra.Ring.Nat
import Mathlib.Data.Nat.Log

/-!
Binary64 floating point numbers by their bit patterns: sign, exponent and
fraction, the comparisons with zero, equality, the integral value, and the
integers that are represented exactly. No number is rounded here.
-/

namespace RemoteIface.Library.Binary64

set_option autoImplicit false

abbrev Bits := UInt64

def negativeSign (bits : Bits) : Bool := 2 ^ 63 ≤ bits.toNat

def exponent (bits : Bits) : Nat := bits.toNat / 2 ^ 52 % 2 ^ 11

def fraction (bits : Bits) : Nat := bits.toNat % 2 ^ 52

def isNaN (bits : Bits) : Bool := exponent bits = 2047 ∧ fraction bits ≠ 0

def isFinite (bits : Bits) : Bool := exponent bits ≠ 2047

/-- One of the two zeros. -/
def isZero (bits : Bits) : Bool := exponent bits = 0 ∧ fraction bits = 0

/-- `x < 0` -/
def isNegative (bits : Bits) : Bool :=
  !isNaN bits && negativeSign bits && !isZero bits

/-- `x >= 0`. No comparison with a NaN holds. -/
def isNonNegative (bits : Bits) : Bool :=
  !isNaN bits && (!negativeSign bits || isZero bits)

/-- `x == y` -/
def equal (one two : Bits) : Bool :=
  !isNaN one && !isNaN two && (one = two || (isZero one && isZero two))

theorem non_negative_iff (bits : Bits) :
    isNonNegative bits = true ↔ isNaN bits = false ∧ isNegative bits = false := by
  unfold isNonNegative isNegative
  cases isNaN bits <;> cases negativeSign bits <;> cases isZero bits <;> simp

theorem not_nan_of_finite {bits : Bits} (finite : isFinite bits = true) : isNaN bits = false := by
  unfold isFinite at finite
  unfold isNaN
  simp only [decide_eq_true_eq] at finite
  simp [finite]

theorem equal_self_iff (bits : Bits) : equal bits bits = true ↔ isNaN bits = false := by
  unfold equal
  cases isNaN bits <;> simp

/-- The integer that the number is, if it is one. A number is its significand
times a power of two, the exponent less 1075. -/
def integer (bits : Bits) : Option Int :=
  if isFinite bits then
    let significand := if exponent bits = 0 then fraction bits else 2 ^ 52 + fraction bits
    let power := max (exponent bits) 1
    let magnitude :=
      if 1075 ≤ power then some (significand * 2 ^ (power - 1075))
      else if significand % 2 ^ (1075 - power) = 0 then
        some (significand / 2 ^ (1075 - power))
      else none
    magnitude.map fun size => if negativeSign bits then -(size : Int) else size
  else none

/-- The bits after the sign. -/
def magnitudeBits (value : Nat) : Nat :=
  if value = 0 then 0
  else (1023 + Nat.log 2 value) * 2 ^ 52 + (value * 2 ^ 52 / 2 ^ Nat.log 2 value - 2 ^ 52)

/-- The number of an integer below `2 ^ 53`. A larger one loses its last digits. -/
def ofInt (value : Int) : Bits :=
  UInt64.ofNat (magnitudeBits value.natAbs + if value < 0 then 2 ^ 63 else 0)

theorem magnitude_bits_lt {value : Nat} (bounded : value < 2 ^ 53) :
    magnitudeBits value < 2047 * 2 ^ 52 := by
  unfold magnitudeBits
  by_cases zero : value = 0
  · rw [if_pos zero]
    decide
  · rw [if_neg zero]
    have log : Nat.log 2 value < 53 := Nat.log_lt_of_lt_pow zero bounded
    have below : value < 2 ^ (Nat.log 2 value + 1) := Nat.lt_pow_succ_log_self (by decide) value
    have scaled : value * 2 ^ 52 / 2 ^ Nat.log 2 value < 2 ^ 53 := by
      apply (Nat.div_lt_iff_lt_mul (Nat.two_pow_pos _)).mpr
      calc value * 2 ^ 52 < 2 ^ (Nat.log 2 value + 1) * 2 ^ 52 :=
            Nat.mul_lt_mul_of_pos_right below (Nat.two_pow_pos 52)
        _ = 2 ^ 53 * 2 ^ Nat.log 2 value := by
            rw [Nat.pow_succ 2 (Nat.log 2 value)]
            omega
    generalize value * 2 ^ 52 / 2 ^ Nat.log 2 value = scaled at *
    omega

theorem of_int_word {value : Int} (bounded : value.natAbs < 2 ^ 53) :
    (ofInt value).toNat = magnitudeBits value.natAbs + if value < 0 then 2 ^ 63 else 0 := by
  have small := magnitude_bits_lt bounded
  unfold ofInt
  rw [UInt64.toNat_ofNat']
  apply Nat.mod_eq_of_lt
  split <;> omega

theorem magnitude_bits_eq_zero {value : Nat} (zero : magnitudeBits value = 0) : value = 0 := by
  unfold magnitudeBits at zero
  split at zero
  · assumption
  · omega

theorem of_int_non_negative_iff {value : Int} (bounded : value.natAbs < 2 ^ 53) :
    isNonNegative (ofInt value) = true ↔ 0 ≤ value := by
  have word := of_int_word bounded
  have small := magnitude_bits_lt bounded
  have notNaN : isNaN (ofInt value) = false := by
    apply not_nan_of_finite
    simp only [isFinite, exponent, word, decide_eq_true_eq]
    split <;> omega
  have sign : negativeSign (ofInt value) = true ↔ value < 0 := by
    simp only [negativeSign, word, decide_eq_true_eq]
    split <;> omega
  have zero : isZero (ofInt value) = true → value = 0 := by
    intro isZero
    simp only [Binary64.isZero, exponent, fraction, word, decide_eq_true_eq] at isZero
    have none : magnitudeBits value.natAbs = 0 := by
      split at isZero <;> omega
    exact Int.natAbs_eq_zero.mp (magnitude_bits_eq_zero none)
  unfold isNonNegative
  rw [notNaN]
  cases signed : negativeSign (ofInt value) with
  | false =>
      have above : ¬ value < 0 := fun below => by simp [sign.mpr below] at signed
      simp only [Bool.not_false, Bool.true_or, Bool.and_true, true_iff]
      omega
  | true =>
      have below := sign.mp signed
      simp only [Bool.not_false, Bool.not_true, Bool.false_or, Bool.true_and]
      constructor
      · intro isZero
        exact (zero isZero).symm.le
      · intro above
        omega

end RemoteIface.Library.Binary64
