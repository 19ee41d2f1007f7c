import Mathlib.Data.List.GetD
import Mathlib.Data.Nat.Digits.Defs
import Mathlib.Tactic

/-! # Packed words

A number as fields of a fixed width, least significant field first, and lists of fields stored
in words: straddling the borders of words, or padded so that no field does.
-/

namespace PackedWords

/-- The field of `width` bits at `index`. -/
def field (width number index : Nat) : Nat := number / 2 ^ (width * index) % 2 ^ width

theorem field_lt (width number index : Nat) : field width number index < 2 ^ width :=
  Nat.mod_lt _ (Nat.two_pow_pos width)

theorem testBit_field (width number index bit : Nat) :
    (field width number index).testBit bit =
      (decide (bit < width) && number.testBit (width * index + bit)) := by
  rw [field, Nat.testBit_mod_two_pow, Nat.testBit_div_two_pow, Nat.add_comm bit]

/-- The number that holds the fields. -/
def pack (width : Nat) (fields : List Nat) : Nat := Nat.ofDigits (2 ^ width) fields

theorem pack_cons (width value : Nat) (fields : List Nat) :
    pack width (value :: fields) = value + 2 ^ width * pack width fields := by
  simp [pack, Nat.ofDigits_cons]

theorem pack_lt {width : Nat} {fields : List Nat} (small : ∀ value ∈ fields, value < 2 ^ width) :
    pack width fields < 2 ^ (width * fields.length) := by
  induction fields with
  | nil => simp [pack]
  | cons value fields ih =>
      simp only [List.mem_cons, forall_eq_or_imp] at small
      have rest := ih small.2
      rw [pack_cons, List.length_cons, Nat.mul_succ, Nat.add_comm (width * _), Nat.pow_add]
      calc value + 2 ^ width * pack width fields
          < 2 ^ width + 2 ^ width * pack width fields := Nat.add_lt_add_right small.1 _
        _ = 2 ^ width * (pack width fields + 1) := by rw [Nat.mul_succ, Nat.add_comm]
        _ ≤ 2 ^ width * 2 ^ (width * fields.length) := Nat.mul_le_mul_left _ rest

/-- A field reads back as it was packed. -/
theorem field_pack {width index : Nat} {fields : List Nat}
    (small : ∀ value ∈ fields, value < 2 ^ width) :
    field width (pack width fields) index = fields.getD index 0 := by
  induction fields generalizing index with
  | nil => simp [field, pack]
  | cons value fields ih =>
      simp only [List.mem_cons, forall_eq_or_imp] at small
      have unit : 0 < 2 ^ width := Nat.two_pow_pos width
      cases index with
      | zero =>
          rw [field, pack_cons, Nat.mul_zero, Nat.pow_zero, Nat.div_one, Nat.add_mul_mod_self_left,
            Nat.mod_eq_of_lt small.1]
          rfl
      | succ index =>
          have shifted : (value + 2 ^ width * pack width fields) / 2 ^ width =
              pack width fields := by
            rw [Nat.add_mul_div_left _ _ unit, Nat.div_eq_of_lt small.1, Nat.zero_add]
          rw [field, pack_cons, Nat.mul_succ, Nat.add_comm (width * index), Nat.pow_add,
            ← Nat.div_div_eq_div_mul, shifted]
          exact ih small.2

theorem testBit_pack {width bit : Nat} {fields : List Nat} (positive : 0 < width)
    (small : ∀ value ∈ fields, value < 2 ^ width) :
    (pack width fields).testBit bit = (fields.getD (bit / width) 0).testBit (bit % width) := by
  rw [← field_pack small, testBit_field, decide_eq_true (Nat.mod_lt bit positive), Bool.true_and,
    Nat.div_add_mod]

/-- `count` words of `size` bits of a number. -/
def words (size count number : Nat) : List Nat := (List.range count).map (field size number)

@[simp] theorem length_words (size count number : Nat) : (words size count number).length = count := by
  rw [words, List.length_map, List.length_range]

theorem words_lt {size count number : Nat} : ∀ word ∈ words size count number, word < 2 ^ size := by
  intro word mem
  obtain ⟨index, _, rfl⟩ := List.mem_map.mp mem
  exact field_lt size number index

theorem getD_words {size count number index : Nat} (inside : index < count) :
    (words size count number).getD index 0 = field size number index := by
  rw [List.getD_eq_getElem _ _ (by simpa using inside)]
  simp [words]

/-- Enough words hold the whole number. -/
theorem pack_words {size count number : Nat} (positive : 0 < size)
    (enough : number < 2 ^ (size * count)) : pack size (words size count number) = number := by
  refine Nat.eq_of_testBit_eq fun bit => ?_
  rw [testBit_pack positive words_lt]
  by_cases inside : bit / size < count
  · rw [getD_words inside, testBit_field, decide_eq_true (Nat.mod_lt bit positive), Bool.true_and,
      Nat.div_add_mod]
  · rw [List.getD_eq_default _ _ (by simpa using not_lt.mp inside), Nat.zero_testBit]
    have far : size * count ≤ bit := by
      rw [Nat.mul_comm]
      exact (Nat.le_div_iff_mul_le positive).mp (not_lt.mp inside)
    exact (Nat.testBit_lt_two_pow (enough.trans_le (Nat.pow_le_pow_right two_pos far))).symm

/-- A field inside one word. -/
theorem field_within {size width offset : Nat} {stored : List Nat} (positive : 0 < size)
    (small : ∀ word ∈ stored, word < 2 ^ size) (within : offset % size + width ≤ size) :
    stored.getD (offset / size) 0 >>> (offset % size) % 2 ^ width =
      pack size stored / 2 ^ offset % 2 ^ width := by
  refine Nat.eq_of_testBit_eq fun bit => ?_
  rw [Nat.testBit_mod_two_pow, Nat.testBit_mod_two_pow, Nat.testBit_shiftRight,
    Nat.testBit_div_two_pow, testBit_pack positive small]
  by_cases inside : bit < width
  · have split := Nat.div_add_mod offset size
    have index : (bit + offset) / size = offset / size := by
      apply Nat.div_eq_of_lt_le
      · rw [Nat.mul_comm]
        omega
      · rw [Nat.succ_mul, Nat.mul_comm]
        omega
    have position : (bit + offset) % size = offset % size + bit := by
      have whole := Nat.div_add_mod (bit + offset) size
      rw [index] at whole
      omega
    rw [index, position]
  · simp only [inside, decide_false, Bool.false_and]

/-- A field across the border of two words: the low bits are the high bits of the first. -/
theorem field_across {size width offset : Nat} {stored : List Nat} (positive : 0 < size)
    (small : ∀ word ∈ stored, word < 2 ^ size) (narrow : width ≤ size)
    (across : size < offset % size + width) :
    (stored.getD (offset / size) 0 >>> (offset % size) |||
        stored.getD (offset / size + 1) 0 <<< (size - offset % size) % 2 ^ size) % 2 ^ width =
      pack size stored / 2 ^ offset % 2 ^ width := by
  have getD_lt (index : Nat) : stored.getD index 0 < 2 ^ size := by
    by_cases inside : index < stored.length
    · rw [List.getD_eq_getElem _ _ inside]
      exact small _ (List.getElem_mem inside)
    · rw [List.getD_eq_default _ _ (not_lt.mp inside)]
      exact Nat.two_pow_pos size
  have split := Nat.div_add_mod offset size
  have below := Nat.mod_lt offset positive
  refine Nat.eq_of_testBit_eq fun bit => ?_
  rw [Nat.testBit_mod_two_pow, Nat.testBit_mod_two_pow, Nat.testBit_or, Nat.testBit_shiftRight,
    Nat.testBit_mod_two_pow, Nat.testBit_shiftLeft, Nat.testBit_div_two_pow,
    testBit_pack positive small]
  by_cases inside : bit < width
  · simp only [inside, decide_true, Bool.true_and]
    by_cases first : offset % size + bit < size
    · have index : (bit + offset) / size = offset / size := by
        apply Nat.div_eq_of_lt_le
        · rw [Nat.mul_comm]
          omega
        · rw [Nat.succ_mul, Nat.mul_comm]
          omega
      have position : (bit + offset) % size = offset % size + bit := by
        have whole := Nat.div_add_mod (bit + offset) size
        rw [index] at whole
        omega
      have early : ¬ size - offset % size ≤ bit := by omega
      rw [index, position]
      simp [early]
    · have index : (bit + offset) / size = offset / size + 1 := by
        apply Nat.div_eq_of_lt_le
        · rw [Nat.succ_mul, Nat.mul_comm]
          omega
        · rw [Nat.succ_mul, Nat.succ_mul, Nat.mul_comm]
          omega
      have position : (bit + offset) % size = bit - (size - offset % size) := by
        have whole := Nat.div_add_mod (bit + offset) size
        rw [index, Nat.mul_succ] at whole
        omega
      have past : (stored.getD (offset / size) 0).testBit (offset % size + bit) = false :=
        Nat.testBit_lt_two_pow ((getD_lt _).trans_le
          (Nat.pow_le_pow_right two_pos (not_lt.mp first)))
      have late : size - offset % size ≤ bit := by omega
      have narrow' : bit < size := by omega
      rw [index, position, past]
      simp [late, narrow']
  · simp only [inside, decide_false, Bool.false_and]

end PackedWords
