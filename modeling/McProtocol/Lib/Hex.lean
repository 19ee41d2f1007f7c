import Mathlib.Logic.Basic

/-! # Hexadecimal digits

ASCII digits of either case, and their values.
-/

namespace Hex

/-- The digit of `n`, in lower case. -/
def digit (n : Nat) : UInt8 :=
  if n < 10 then UInt8.ofNat (48 + n) else UInt8.ofNat (87 + n)

def value (c : UInt8) : Option Nat :=
  if 48 ≤ c ∧ c ≤ 57 then some (c.toNat - 48)
  else if 97 ≤ c ∧ c ≤ 102 then some (c.toNat - 87)
  else if 65 ≤ c ∧ c ≤ 70 then some (c.toNat - 55)
  else none

def IsDigit (c : UInt8) : Prop :=
  48 ≤ c ∧ c ≤ 57 ∨ 97 ≤ c ∧ c ≤ 102 ∨ 65 ≤ c ∧ c ≤ 70

instance : DecidablePred IsDigit := fun _ => inferInstanceAs (Decidable (_ ∨ _))

def lower (c : UInt8) : UInt8 := if 65 ≤ c ∧ c ≤ 90 then c + 32 else c

/-- What holds of all codes holds of all bytes. -/
theorem byte_all {P : UInt8 → Prop} (all : ∀ n < 256, P (UInt8.ofNat n)) (c : UInt8) : P c := by
  have found := all c.toNat c.toNat_lt
  rwa [UInt8.ofNat_toNat] at found

theorem digit_isDigit {n : Nat} (small : n < 16) : IsDigit (digit n) := by
  revert n
  decide

theorem value_digit {n : Nat} (small : n < 16) : value (digit n) = some n := by
  revert n
  decide

theorem value_lt (c : UInt8) : (value c).getD 0 < 16 := by
  revert c
  exact byte_all (by decide +kernel)

/-- A digit is the one of its value, up to its case. -/
theorem digit_value (c : UInt8) : IsDigit c → digit ((value c).getD 0) = lower c := by
  revert c
  exact byte_all (by decide +kernel)

/-- Two digits of a byte. -/
def pair (byte : UInt8) : List UInt8 := [digit (byte.toNat / 16), digit (byte.toNat % 16)]

theorem zero_notMem_pair (byte : UInt8) : 0 ∉ pair byte := by
  have small := byte.toNat_lt
  have nonzero {n : Nat} (small : n < 16) : (0 : UInt8) ≠ digit n := by
    revert n
    decide
  rw [pair, List.mem_cons, List.mem_singleton, not_or]
  exact ⟨nonzero (by omega), nonzero (by omega)⟩

/-- The byte of two digits. -/
def byte (high low : UInt8) : UInt8 :=
  UInt8.ofNat (16 * (value high).getD 0 + (value low).getD 0)

theorem byte_pair (b : UInt8) : byte (digit (b.toNat / 16)) (digit (b.toNat % 16)) = b := by
  have small := b.toNat_lt
  rw [byte, value_digit (by omega), value_digit (by omega), Option.getD_some, Option.getD_some,
    Nat.div_add_mod, UInt8.ofNat_toNat]

/-- The byte of two digits is written with them, in lower case. -/
theorem pair_byte {high low : UInt8} (first : IsDigit high) (second : IsDigit low) :
    pair (byte high low) = [lower high, lower low] := by
  have boundHigh := value_lt high
  have boundLow := value_lt low
  have wide : (byte high low).toNat = 16 * (value high).getD 0 + (value low).getD 0 := by
    rw [byte, UInt8.toNat_ofNat']
    omega
  have upper : (byte high low).toNat / 16 = (value high).getD 0 := by omega
  have rest : (byte high low).toNat % 16 = (value low).getD 0 := by omega
  rw [pair, upper, rest, digit_value high first, digit_value low second]

end Hex
