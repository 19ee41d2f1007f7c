import Mathlib.Data.Nat.Log
import Mathlib.Data.Int.Order.Basic
import Mathlib.Tactic

/-! # Binary interchange formats

Values of a binary floating-point format as bit patterns, with the operations of
IEEE 754 in round-to-nearest-even. Everything is exact integer arithmetic in
units of the least subnormal, rounded once, so that it computes in the kernel.
-/

namespace Ieee

/-- Stored significand bits and exponent bits. -/
structure Format where
  significand : Nat
  exponent : Nat
  deriving Repr, DecidableEq

namespace Format

variable (f : Format)

def width : Nat := 1 + f.exponent + f.significand

/-- The magnitude pattern of infinity. -/
def infinity : Nat := (2 ^ f.exponent - 1) * 2 ^ f.significand

def signBit : Nat := 2 ^ (f.exponent + f.significand)

/-- The number one, counted in least subnormals. -/
def one : Nat := 2 ^ (2 ^ (f.exponent - 1) + f.significand - 2)

/-- The exponent of the largest finite values, in least subnormals. -/
def top (f : Format) : Nat := 2 ^ f.exponent - 3

theorem infinity_lt_signBit (f : Format) : f.infinity < f.signBit := by
  rw [infinity, signBit, Nat.pow_add]
  exact Nat.mul_lt_mul_of_pos_right (Nat.sub_lt (Nat.two_pow_pos _) Nat.one_pos) (Nat.two_pow_pos _)

end Format

abbrev binary32 : Format := ⟨23, 8⟩

abbrev binary64 : Format := ⟨52, 11⟩

structure Binary (f : Format) where
  bits : BitVec f.width
  deriving DecidableEq, Repr

/-- The pattern nearest to the magnitude `numerator / denominator`, ties to even. -/
def nearest (f : Format) (numerator denominator : Nat) : Nat :=
  let shift := Nat.log2 (numerator / denominator) - f.significand
  let unit := denominator * 2 ^ shift
  let quotient := numerator / unit
  let rest := numerator % unit
  let up := unit < 2 * rest ∨ unit = 2 * rest ∧ quotient % 2 = 1
  min f.infinity (shift * 2 ^ f.significand + quotient + if up then 1 else 0)

namespace Binary

variable {f g : Format}

def magnitude (x : Binary f) : Nat := x.bits.toNat % f.signBit

def negative (x : Binary f) : Bool := f.signBit ≤ x.bits.toNat

def isFinite (x : Binary f) : Bool := x.magnitude < f.infinity

def isNan (x : Binary f) : Bool := f.infinity < x.magnitude

def isInfinite (x : Binary f) : Bool := x.magnitude = f.infinity

def ofMagnitude (negative : Bool) (magnitude : Nat) : Binary f :=
  ⟨BitVec.ofNat _ (magnitude + if negative then f.signBit else 0)⟩

def nan : Binary f := ofMagnitude false (f.infinity + 2 ^ (f.significand - 1))

/-- The absolute value in least subnormals; infinity is above every finite value. -/
def absUnits (x : Binary f) : Nat :=
  let exponent := x.magnitude / 2 ^ f.significand
  let fraction := x.magnitude % 2 ^ f.significand
  if exponent = 0 then fraction else (2 ^ f.significand + fraction) * 2 ^ (exponent - 1)

def units (x : Binary f) : Int := if x.negative then -(x.absUnits : Int) else x.absUnits

def neg (x : Binary f) : Binary f := ofMagnitude (!x.negative) x.magnitude

def add (x y : Binary f) : Binary f :=
  if x.isNan ∨ y.isNan then nan
  else if x.isInfinite then
    if y.isInfinite ∧ x.negative ≠ y.negative then nan else x
  else if y.isInfinite then y
  else
    let sum := x.units + y.units
    let sign := if sum = 0 then x.negative && y.negative else sum < 0
    ofMagnitude sign (nearest f sum.natAbs 1)

def sub (x y : Binary f) : Binary f := x.add y.neg

def mul (x y : Binary f) : Binary f :=
  let sign := x.negative != y.negative
  if x.isNan ∨ y.isNan then nan
  else if x.isInfinite ∨ y.isInfinite then
    if x.magnitude = 0 ∨ y.magnitude = 0 then nan else ofMagnitude sign f.infinity
  else ofMagnitude sign (nearest f (x.absUnits * y.absUnits) f.one)

def div (x y : Binary f) : Binary f :=
  let sign := x.negative != y.negative
  if x.isNan ∨ y.isNan then nan
  else if x.isInfinite then
    if y.isInfinite then nan else ofMagnitude sign f.infinity
  else if y.isInfinite then ofMagnitude sign 0
  else if y.magnitude = 0 then
    if x.magnitude = 0 then nan else ofMagnitude sign f.infinity
  else ofMagnitude sign (nearest f (x.absUnits * f.one) y.absUnits)

instance : Neg (Binary f) := ⟨neg⟩
instance : Add (Binary f) := ⟨add⟩
instance : Sub (Binary f) := ⟨sub⟩
instance : Mul (Binary f) := ⟨mul⟩
instance : Div (Binary f) := ⟨div⟩

/-- A conversion from an integer type. -/
def ofInt (i : Int) : Binary f := ofMagnitude (i < 0) (nearest f (i.natAbs * f.one) 1)

instance (n : Nat) : OfNat (Binary f) n := ⟨ofInt n⟩

/-- A conversion between formats. -/
def convert (x : Binary f) : Binary g :=
  if x.isNan then nan
  else if x.isInfinite then ofMagnitude x.negative g.infinity
  else ofMagnitude x.negative (nearest g (x.absUnits * g.one) f.one)

/-- The ordered comparison: false when either side is not a number. -/
instance : LT (Binary f) := ⟨fun x y => x.isNan = false ∧ y.isNan = false ∧ x.units < y.units⟩

instance (x y : Binary f) : Decidable (x < y) :=
  inferInstanceAs (Decidable (_ ∧ _ ∧ _))

theorem magnitude_ofMagnitude {negative : Bool} {magnitude : Nat}
    (small : magnitude < f.signBit) :
    (ofMagnitude negative magnitude : Binary f).magnitude = magnitude := by
  have width : 2 ^ f.width = 2 * f.signBit := by
    rw [Format.width, Format.signBit, Nat.add_assoc, Nat.pow_add, Nat.pow_one]
  have positive : 0 < f.signBit := Nat.pos_of_ne_zero (by intro zero; omega)
  cases negative with
  | false =>
      simp only [ofMagnitude, Binary.magnitude, BitVec.toNat_ofNat, width, Bool.false_eq_true,
        if_false, Nat.add_zero]
      rw [Nat.mod_eq_of_lt (by omega : magnitude < 2 * f.signBit), Nat.mod_eq_of_lt small]
  | true =>
      simp only [ofMagnitude, Binary.magnitude, BitVec.toNat_ofNat, width, if_true]
      rw [Nat.mod_eq_of_lt (by omega : magnitude + f.signBit < 2 * f.signBit),
        Nat.add_mod_right, Nat.mod_eq_of_lt small]

theorem isFinite_ofMagnitude {negative : Bool} {magnitude : Nat}
    (small : magnitude < f.infinity) :
    (ofMagnitude negative magnitude : Binary f).isFinite = true := by
  rw [isFinite, magnitude_ofMagnitude (small.trans f.infinity_lt_signBit)]
  exact decide_eq_true small

theorem absUnits_lt {x : Binary f} (wide : 2 ≤ f.exponent) (finite : x.isFinite = true) :
    x.absUnits + 2 ^ f.top ≤ 2 ^ (f.top + f.significand + 1) := by
  have small : x.magnitude < (2 ^ f.exponent - 1) * 2 ^ f.significand := of_decide_eq_true finite
  have four : 4 ≤ 2 ^ f.exponent := (Nat.pow_le_pow_right (by decide) wide : 2 ^ 2 ≤ _)
  have field : x.magnitude / 2 ^ f.significand < 2 ^ f.exponent - 1 :=
    Nat.div_lt_of_lt_mul (by rw [Nat.mul_comm]; exact small)
  have fraction : x.magnitude % 2 ^ f.significand < 2 ^ f.significand :=
    Nat.mod_lt _ (Nat.two_pow_pos _)
  have split : 2 ^ (f.top + f.significand + 1) = 2 * 2 ^ f.significand * 2 ^ f.top := by
    rw [Nat.pow_succ, Nat.pow_add]
    ring
  have one : 1 ≤ 2 ^ f.top := Nat.one_le_two_pow
  have unit : 1 ≤ 2 ^ f.significand := Nat.one_le_two_pow
  rw [absUnits, split]
  split_ifs with zero
  · nlinarith
  · have power : 2 ^ (x.magnitude / 2 ^ f.significand - 1) ≤ 2 ^ f.top :=
      Nat.pow_le_pow_right (by decide) (by simp only [Format.top]; omega)
    calc (2 ^ f.significand + x.magnitude % 2 ^ f.significand)
            * 2 ^ (x.magnitude / 2 ^ f.significand - 1) + 2 ^ f.top
        ≤ (2 * 2 ^ f.significand - 1) * 2 ^ f.top + 2 ^ f.top :=
          Nat.add_le_add_right (Nat.mul_le_mul (by omega) power) _
      _ = 2 * 2 ^ f.significand * 2 ^ f.top := by
          rw [← Nat.succ_mul, Nat.succ_eq_add_one, Nat.sub_add_cancel (by omega)]

/-- What is left of a number without the bits that are rounded off. -/
theorem quotient_lt (n : Nat) :
    n / 2 ^ (Nat.log2 n - f.significand) < 2 * 2 ^ f.significand := by
  apply Nat.div_lt_of_lt_mul
  calc n < 2 ^ (Nat.log2 n + 1) := Nat.lt_log2_self
    _ ≤ 2 ^ (Nat.log2 n - f.significand + (f.significand + 1)) :=
        Nat.pow_le_pow_right (by decide) (by omega)
    _ = 2 ^ (Nat.log2 n - f.significand) * (2 * 2 ^ f.significand) := by
        rw [Nat.pow_add, Nat.pow_succ']

/-- Below half a unit past the largest finite value nothing is rounded to infinity. -/
theorem nearest_lt {n : Nat} (wide : 2 ≤ f.exponent)
    (below : n + 2 ^ (f.top - 1) < 2 ^ (f.top + f.significand + 1)) :
    nearest f n 1 < f.infinity := by
  have four : 4 ≤ 2 ^ f.exponent := (Nat.pow_le_pow_right (by decide) wide : 2 ^ 2 ≤ _)
  have limit : f.infinity = (f.top + 2) * 2 ^ f.significand := by
    rw [Format.infinity, Format.top, show 2 ^ f.exponent - 1 = 2 ^ f.exponent - 3 + 2 by omega]
  have half : 2 ^ f.top = 2 * 2 ^ (f.top - 1) := by
    rw [← Nat.pow_succ', Nat.succ_eq_add_one, Nat.sub_add_cancel (by simp only [Format.top]; omega)]
  let shift := Nat.log2 n - f.significand
  have log : Nat.log2 n ≤ f.top + f.significand := by
    by_cases zero : n = 0
    · rw [zero]
      exact Nat.zero_le _
    · exact Nat.lt_succ_iff.mp ((Nat.log2_lt zero).mpr (by omega))
  have shifted : shift ≤ f.top := by
    simp only [shift]
    omega
  have quotient : n / 2 ^ shift < 2 * 2 ^ f.significand := quotient_lt n
  have rounded : nearest f n 1 = min f.infinity (shift * 2 ^ f.significand + n / 2 ^ shift +
      if 2 ^ shift < 2 * (n % 2 ^ shift) ∨ 2 ^ shift = 2 * (n % 2 ^ shift) ∧
        n / 2 ^ shift % 2 = 1 then 1 else 0) := by
    simp only [nearest, Nat.div_one, Nat.one_mul, shift]
  rw [rounded]
  refine (Nat.min_le_right _ _).trans_lt ?_
  rw [limit]
  by_cases inner : shift < f.top
  · have room : (shift + 3) * 2 ^ f.significand ≤ (f.top + 2) * 2 ^ f.significand :=
      Nat.mul_le_mul_right _ (by omega)
    have unit : 1 ≤ 2 ^ f.significand := Nat.one_le_two_pow
    split_ifs <;> nlinarith
  · obtain outer : shift = f.top := by omega
    rw [outer] at quotient ⊢
    have whole := Nat.div_add_mod n (2 ^ f.top)
    have total : 2 ^ (f.top + f.significand + 1) = 2 ^ f.top * (2 * 2 ^ f.significand) := by
      rw [Nat.add_assoc, Nat.pow_add, Nat.pow_succ']
    have split : (f.top + 2) * 2 ^ f.significand =
        f.top * 2 ^ f.significand + 2 * 2 ^ f.significand := by ring
    rw [split]
    split_ifs with up
    · have half' : 2 ^ f.top ≤ 2 * (n % 2 ^ f.top) := up.elim Nat.le_of_lt fun tie => tie.1.le
      by_contra full
      have last : 2 * 2 ^ f.significand = n / 2 ^ f.top + 1 := by omega
      rw [total, last, Nat.mul_add, Nat.mul_one] at below
      omega
    · omega

/-- A finite value is a number. -/
theorem ordinary_of_isFinite {x : Binary f} (finite : x.isFinite = true) :
    x.isNan = false ∧ x.isInfinite = false := by
  have inside : x.magnitude < f.infinity := of_decide_eq_true finite
  exact ⟨decide_eq_false (by omega), decide_eq_false (by omega)⟩

/-- A small enough value added to a finite one leaves it finite. -/
theorem isFinite_add {x y : Binary f} (wide : 2 ≤ f.exponent) (finite : x.isFinite = true)
    (finite' : y.isFinite = true) (small : y.absUnits < 2 ^ (f.top - 1)) :
    (x + y).isFinite = true := by
  have four : 4 ≤ 2 ^ f.exponent := (Nat.pow_le_pow_right (by decide) wide : 2 ^ 2 ≤ _)
  have half : 2 ^ f.top = 2 * 2 ^ (f.top - 1) := by
    rw [← Nat.pow_succ', Nat.succ_eq_add_one, Nat.sub_add_cancel (by simp only [Format.top]; omega)]
  obtain ⟨number, bounded⟩ := ordinary_of_isFinite finite
  obtain ⟨number', bounded'⟩ := ordinary_of_isFinite finite'
  have size (z : Binary f) : z.units.natAbs = z.absUnits := by
    rw [units]
    split_ifs
    · rw [Int.natAbs_neg, Int.natAbs_natCast]
    · rw [Int.natAbs_natCast]
  have sum : (x.units + y.units).natAbs ≤ x.absUnits + y.absUnits := by
    rw [← size x, ← size y]
    exact Int.natAbs_add_le _ _
  have largest := absUnits_lt wide finite
  change (add x y).isFinite = true
  rw [add, number, number', bounded, bounded']
  simp only [Bool.false_eq_true, or_self, if_false]
  exact isFinite_ofMagnitude (nearest_lt wide (by omega))

/-- The pattern of a power of two is the largest that the numbers up to it are rounded to. -/
theorem nearest_le_pow {n exponent : Nat} (normal : f.significand ≤ exponent)
    (small : n ≤ 2 ^ exponent) :
    nearest f n 1 ≤ (exponent - f.significand + 1) * 2 ^ f.significand := by
  let shift := Nat.log2 n - f.significand
  let up : Nat := if 2 ^ shift < 2 * (n % 2 ^ shift) ∨ 2 ^ shift = 2 * (n % 2 ^ shift) ∧
    n / 2 ^ shift % 2 = 1 then 1 else 0
  have rounded : nearest f n 1 ≤ shift * 2 ^ f.significand + n / 2 ^ shift + up := by
    simp only [nearest, Nat.div_one, Nat.one_mul, shift, up]
    exact Nat.min_le_right _ _
  refine rounded.trans ?_
  by_cases full : n = 2 ^ exponent
  · have log : shift = exponent - f.significand := by
      simp only [shift, full, Nat.log2_two_pow]
    have divides : 2 ^ shift ∣ n := by
      rw [full, log]
      exact pow_dvd_pow 2 (Nat.sub_le _ _)
    have unrounded : up = 0 := by
      simp only [up, Nat.mod_eq_zero_of_dvd divides]
      rw [if_neg]
      have unit : 0 < 2 ^ shift := Nat.two_pow_pos _
      omega
    have quotient : n / 2 ^ shift = 2 ^ f.significand := by
      rw [full, log, Nat.pow_div (Nat.sub_le _ _) (by decide), Nat.sub_sub_self normal]
    rw [unrounded, quotient, log, Nat.add_zero, Nat.succ_mul]
  · have below : n < 2 ^ exponent := Nat.lt_of_le_of_ne small full
    have step : up ≤ 1 := by
      simp only [up]
      split_ifs <;> omega
    have quotient : n / 2 ^ shift < 2 * 2 ^ f.significand := quotient_lt n
    by_cases subnormal : shift = 0
    · rw [subnormal, Nat.pow_zero, Nat.div_one]
      have unrounded : up = 0 := by
        simp [up, subnormal, Nat.mod_one]
      rw [subnormal, Nat.pow_zero, Nat.div_one] at quotient
      rw [unrounded, Nat.zero_mul, Nat.zero_add, Nat.add_zero]
      by_cases least : exponent = f.significand
      · rw [least, Nat.sub_self, Nat.zero_add, Nat.one_mul]
        rwa [least] at small
      · have room : 2 * 2 ^ f.significand ≤ (exponent - f.significand + 1) * 2 ^ f.significand :=
          Nat.mul_le_mul_right _ (by omega)
        omega
    · have log : Nat.log2 n < exponent := by
        by_cases zero : n = 0
        · simp [shift, zero] at subnormal
        · exact (Nat.log2_lt zero).mpr below
      have room : (shift + 2) * 2 ^ f.significand ≤
          (exponent - f.significand + 1) * 2 ^ f.significand :=
        Nat.mul_le_mul_right _ (by simp only [shift] at subnormal ⊢; omega)
      rw [Nat.add_mul] at room
      omega

theorem absUnits_le_pow {x : Binary f} {exponent : Nat} (normal : f.significand ≤ exponent)
    (small : x.magnitude ≤ (exponent - f.significand + 1) * 2 ^ f.significand) :
    x.absUnits ≤ 2 ^ exponent := by
  have unit : 0 < 2 ^ f.significand := Nat.two_pow_pos _
  have fraction := Nat.mod_lt x.magnitude unit
  have split := Nat.div_add_mod' x.magnitude (2 ^ f.significand)
  have power (least : Nat) (at_most : least ≤ exponent - f.significand) :
      2 ^ f.significand * 2 ^ least ≤ 2 ^ exponent := by
    rw [← Nat.pow_add]
    exact Nat.pow_le_pow_right (by decide) (by omega)
  have field : x.magnitude / 2 ^ f.significand ≤ exponent - f.significand + 1 :=
    Nat.div_le_of_le_mul (by rwa [Nat.mul_comm])
  simp only [absUnits]
  split_ifs with zero
  · exact fraction.le.trans (Nat.pow_le_pow_right (by decide) normal)
  · by_cases last : x.magnitude / 2 ^ f.significand = exponent - f.significand + 1
    · rw [last] at split ⊢
      have whole : x.magnitude % 2 ^ f.significand = 0 := by omega
      rw [whole, Nat.add_zero, Nat.add_sub_cancel]
      exact power _ (Nat.le_refl _)
    · calc (2 ^ f.significand + x.magnitude % 2 ^ f.significand) *
            2 ^ (x.magnitude / 2 ^ f.significand - 1)
          ≤ 2 ^ f.significand * 2 * 2 ^ (x.magnitude / 2 ^ f.significand - 1) :=
            Nat.mul_le_mul_right _ (by omega)
        _ = 2 ^ f.significand * 2 ^ (x.magnitude / 2 ^ f.significand) := by
            rw [Nat.mul_assoc, ← Nat.pow_succ', Nat.succ_eq_add_one,
              Nat.sub_add_cancel (Nat.one_le_iff_ne_zero.mpr zero)]
        _ ≤ 2 ^ exponent := power _ (by omega)

theorem nearest_mul (n d unit : Nat) (positive : 0 < unit) :
    nearest f (n * unit) (d * unit) = nearest f n d := by
  have quotient : n * unit / (d * unit) = n / d := Nat.mul_div_mul_right n d positive
  have regroup (shift : Nat) : d * unit * 2 ^ shift = d * 2 ^ shift * unit := by ring
  simp only [nearest, quotient, regroup, Nat.mul_div_mul_right n _ positive,
    Nat.mul_mod_mul_right]
  congr 2
  refine if_congr (or_congr ?_ (and_congr_left fun _ => ?_)) rfl rfl
  · rw [← Nat.mul_assoc]
    exact Nat.mul_lt_mul_right positive
  · rw [← Nat.mul_assoc]
    exact Nat.mul_left_inj (by omega)

theorem nearest_zero (d : Nat) : nearest f 0 d = 0 := by
  simp [nearest]

theorem nearest_lt_signBit (n d : Nat) : nearest f n d < f.signBit :=
  (Nat.min_le_left _ _).trans_lt f.infinity_lt_signBit

theorem negative_ofMagnitude {negative : Bool} {magnitude : Nat} (small : magnitude < f.signBit) :
    (ofMagnitude negative magnitude : Binary f).negative = negative := by
  have width : 2 ^ f.width = 2 * f.signBit := by
    rw [Format.width, Format.signBit, Nat.add_assoc, Nat.pow_add, Nat.pow_one]
  cases negative with
  | false =>
      simp only [ofMagnitude, Binary.negative, BitVec.toNat_ofNat, width, Bool.false_eq_true,
        if_false, Nat.add_zero, decide_eq_false_iff_not]
      rw [Nat.mod_eq_of_lt (by omega : magnitude < 2 * f.signBit)]
      omega
  | true =>
      simp only [ofMagnitude, Binary.negative, BitVec.toNat_ofNat, width, if_true,
        decide_eq_true_eq]
      rw [Nat.mod_eq_of_lt (by omega : magnitude + f.signBit < 2 * f.signBit)]
      omega

/-- Scaling a value that is not below zero by a power of two. -/
theorem units_mul_bounds {x y : Binary f} {exponent power : Nat} (finite : x.isFinite = true)
    (natural : 0 ≤ x.units) (finite' : y.isFinite = true) (positive : y.negative = false)
    (scale : y.absUnits = 2 ^ power * f.one) (normal : f.significand ≤ exponent)
    (small : x.absUnits * 2 ^ power ≤ 2 ^ exponent) :
    0 ≤ (x * y).units ∧ (x * y).units ≤ 2 ^ exponent := by
  obtain ⟨number, bounded⟩ := ordinary_of_isFinite finite
  obtain ⟨number', bounded'⟩ := ordinary_of_isFinite finite'
  have product : x * y = ofMagnitude x.negative (nearest f (x.absUnits * 2 ^ power) 1) := by
    have unit : 0 < f.one := Nat.two_pow_pos _
    change mul x y = _
    rw [mul, number, number', bounded, bounded', positive, scale, ← Nat.mul_assoc]
    simp only [Bool.false_eq_true, or_self, if_false, Bool.bne_false]
    rw [← nearest_mul (x.absUnits * 2 ^ power) 1 f.one unit, Nat.one_mul]
  have size : (x * y).absUnits ≤ 2 ^ exponent := by
    apply absUnits_le_pow normal
    rw [product, magnitude_ofMagnitude (nearest_lt_signBit _ _)]
    exact nearest_le_pow normal small
  have sign : (x * y).negative = x.negative := by
    rw [product, negative_ofMagnitude (nearest_lt_signBit _ _)]
  rw [units, sign]
  cases negative : x.negative with
  | false =>
      rw [if_neg (by decide)]
      exact ⟨Int.natCast_nonneg _, by exact_mod_cast size⟩
  | true =>
      -- only zero is negative and not below zero
      rw [units, negative, if_pos rfl] at natural
      have zero : x.absUnits = 0 := by omega
      have none : (x * y).absUnits = 0 := by
        rw [product, zero, Nat.zero_mul, nearest_zero, absUnits,
          magnitude_ofMagnitude (Nat.two_pow_pos _), Nat.zero_div, Nat.zero_mod, if_pos rfl]
      rw [if_pos rfl, none]
      exact ⟨Int.le_refl 0, by positivity⟩

example : (3 / 2 + 1 / 4 : Binary binary64).bits.toNat = 0x3ffc000000000000 := by decide +kernel

end Binary

end Ieee
