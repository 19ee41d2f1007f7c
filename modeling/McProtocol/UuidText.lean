import Mathlib.Data.List.GetD
import McProtocol.Lib.Hex
import McProtocol.Uuid

/-! # Text of a UUID

Thirty-two hexadecimal digits of either case, or the same with four dashes between them, which is
how one is written.
-/

namespace McProtocol

/-- A C string: characters, none of which is the NUL that follows them. -/
structure CString where
  chars : List UInt8
  nonzero : 0 ∉ chars
  deriving Repr, DecidableEq

/-- How a function that reads a C string can stop short. -/
inductive CStop where
  /-- A read behind the NUL. -/
  | outside
  /-- `return false` -/
  | refused
  deriving Repr, DecidableEq

/-- `text[index]`. -/
def CString.read (text : CString) (index : Nat) : Except CStop UInt8 :=
  match (text.chars ++ [0])[index]? with
  | some value => .ok value
  | none => .error .outside

def uuidHexValue (value : UInt8) : Int :=
  if 48 ≤ value ∧ value ≤ 57 then value.toNat - 48
  else if 97 ≤ value ∧ value ≤ 102 then value.toNat - 97 + 10
  else if 65 ≤ value ∧ value ≤ 70 then value.toNat - 65 + 10
  else -1

/-- `parsed.bytes[output] = byte`. -/
def McUuid.set (uuid : McUuid) (output : Nat) (byte : UInt8) : McUuid :=
  ⟨uuid.bytes.set output byte, by rw [List.length_set, uuid.size]⟩

/-- Where a text of 36 characters has its dashes. -/
def IsDashPosition (input : Nat) : Prop := input = 8 ∨ input = 13 ∨ input = 18 ∨ input = 23

instance : DecidablePred IsDashPosition := fun _ => inferInstanceAs (Decidable (_ ∨ _))

/-- The position behind the dash that has to be at `input`, if one has to. -/
def uuidSkipDash (text : CString) (input : Nat) : Except CStop Nat :=
  if text.chars.length = 36 ∧ IsDashPosition input then do
    let dash ← text.read input
    if dash ≠ 45 then .error .refused else .ok (input + 1)
  else .ok input

/-- The byte of the two digits at `input`. -/
def uuidParsePair (text : CString) (input : Nat) : Except CStop UInt8 := do
  let high ← text.read input
  let low ← text.read (input + 1)
  if uuidHexValue high < 0 ∨ uuidHexValue low < 0 then .error .refused
  else .ok (UInt8.ofNat ((uuidHexValue high).toNat <<< 4 ||| (uuidHexValue low).toNat))

/-- One turn of the loop: the position it has come to, and what is parsed. -/
def uuidParseByte (text : CString) (state : Nat × McUuid) (output : Nat) :
    Except CStop (Nat × McUuid) := do
  let input ← uuidSkipDash text state.1
  let byte ← uuidParsePair text input
  .ok (input + 2, state.2.set output byte)

/-- What `mc_uuid_parse` returns and leaves in `uuid`; none where it reads behind the NUL. -/
def mcUuidParse (text : CString) (uuid : McUuid) : Option (Bool × McUuid) :=
  if text.chars.length ≠ 32 ∧ text.chars.length ≠ 36 then some (false, uuid)
  else
    match (List.range 16).foldlM (uuidParseByte text) (0, McUuid.zero) with
    | .error .outside => none
    | .error .refused => some (false, uuid)
    | .ok (input, parsed) =>
        if input ≠ text.chars.length then some (false, uuid) else some (true, parsed)

def hexadecimal : List UInt8 :=
  [48, 49, 50, 51, 52, 53, 54, 55, 56, 57, 97, 98, 99, 100, 101, 102]

/-- A dash comes before these bytes. -/
def IsDashedByte (input : Nat) : Prop := input = 4 ∨ input = 6 ∨ input = 8 ∨ input = 10

instance : DecidablePred IsDashedByte := fun _ => inferInstanceAs (Decidable (_ ∨ _))

def uuidFormatByte (uuid : McUuid) (text : List UInt8) (input : Nat) : List UInt8 :=
  let byte := uuid.bytes.getD input 0
  let text := if IsDashedByte input then text ++ [45] else text
  text ++ [hexadecimal.getD (byte >>> 4).toNat 0, hexadecimal.getD (byte &&& 0x0f).toNat 0]

/-- The characters in front of the NUL. -/
def uuidFormatChars (uuid : McUuid) : List UInt8 :=
  (List.range 16).foldl (uuidFormatByte uuid) []

theorem hexadecimal_getD {n : Nat} (small : n < 16) : hexadecimal.getD n 0 = Hex.digit n := by
  revert n
  decide

theorem hexadecimal_byte (byte : UInt8) :
    [hexadecimal.getD (byte >>> 4).toNat 0, hexadecimal.getD (byte &&& 0x0f).toNat 0] =
      Hex.pair byte := by
  have small := byte.toNat_lt
  have high : (byte >>> 4).toNat = byte.toNat / 16 := by
    rw [UInt8.toNat_shiftRight, Nat.shiftRight_eq_div_pow]
    rfl
  have low : (byte &&& 0x0f).toNat = byte.toNat % 16 := by
    rw [UInt8.toNat_and]
    exact Nat.and_two_pow_sub_one_eq_mod byte.toNat 4
  rw [high, low, hexadecimal_getD (by omega), hexadecimal_getD (by omega), Hex.pair]

theorem uuidFormatByte_eq (uuid : McUuid) (text : List UInt8) (input : Nat) :
    uuidFormatByte uuid text input = text ++ ((if IsDashedByte input then [45] else []) ++
      Hex.pair (uuid.bytes.getD input 0)) := by
  rw [uuidFormatByte, hexadecimal_byte]
  split_ifs
  · rw [List.append_assoc]
  · rw [List.nil_append]

theorem uuidFormatChars_nonzero (uuid : McUuid) : 0 ∉ uuidFormatChars uuid := by
  have step (inputs : List Nat) : ∀ text : List UInt8, 0 ∉ text →
      0 ∉ inputs.foldl (uuidFormatByte uuid) text := by
    induction inputs with
    | nil => exact fun _ => id
    | cons input inputs ih =>
        intro text clean
        refine ih _ ?_
        have dash : (0 : UInt8) ∉ (if IsDashedByte input then [45] else [] : List UInt8) := by
          split_ifs <;> simp
        rw [uuidFormatByte_eq, List.mem_append, List.mem_append]
        exact not_or.mpr ⟨clean, not_or.mpr ⟨dash, Hex.zero_notMem_pair _⟩⟩
  exact step _ [] List.not_mem_nil

def mcUuidFormat (uuid : McUuid) : CString := ⟨uuidFormatChars uuid, uuidFormatChars_nonzero uuid⟩

/-- Where the loop is in front of a byte, of a text with dashes or without. -/
def uuidStart (dashed : Bool) (output : Nat) : Nat :=
  2 * output + if dashed then ([4, 6, 8, 10].filter (· < output)).length else 0

/-- Where the digits of a byte are. -/
def uuidDigits (dashed : Bool) (output : Nat) : Nat :=
  uuidStart dashed output + if dashed = true ∧ IsDashedByte output then 1 else 0

theorem uuidStart_zero (dashed : Bool) : uuidStart dashed 0 = 0 := by
  cases dashed <;> rfl

theorem uuidStart_sixteen (dashed : Bool) : uuidStart dashed 16 = if dashed then 36 else 32 := by
  cases dashed <;> rfl

theorem uuidStart_succ (dashed : Bool) : ∀ output < 16,
    uuidStart dashed (output + 1) = uuidDigits dashed output + 2 := by
  cases dashed <;> decide

theorem uuidDigits_lt (dashed : Bool) : ∀ output < 16,
    uuidDigits dashed output + 2 ≤ uuidStart dashed 16 := by
  cases dashed <;> decide

theorem isDashPosition_start : ∀ output < 16,
    IsDashPosition (uuidStart true output) ↔ IsDashedByte output := by
  decide

/-- A position of the text is the one of a dash, or of one of the digits of a byte. -/
def UuidPosition (dashed : Bool) (position : Nat) : Prop :=
  (dashed = true ∧ IsDashPosition position ∧
    ∃ output < 16, IsDashedByte output ∧ position = uuidStart dashed output) ∨
  (¬ (dashed = true ∧ IsDashPosition position) ∧
    ∃ output < 16, position = uuidDigits dashed output ∨ position = uuidDigits dashed output + 1)

theorem uuidPosition_of_lt (dashed : Bool) : ∀ position < uuidStart dashed 16,
    UuidPosition dashed position := by
  unfold UuidPosition
  cases dashed <;> decide +kernel

theorem uuidDigits_not_dash (dashed : Bool) : ∀ output < 16,
    ¬ (dashed = true ∧ IsDashPosition (uuidDigits dashed output)) ∧
      ¬ (dashed = true ∧ IsDashPosition (uuidDigits dashed output + 1)) := by
  cases dashed <;> decide

/-- What a turn insists on. -/
def IsUuidByte (dashed : Bool) (chars : List UInt8) (output : Nat) : Prop :=
  (dashed = true ∧ IsDashedByte output → chars.getD (uuidStart dashed output) 0 = 45) ∧
    Hex.IsDigit (chars.getD (uuidDigits dashed output) 0) ∧
      Hex.IsDigit (chars.getD (uuidDigits dashed output + 1) 0)

instance (dashed : Bool) (chars : List UInt8) : DecidablePred (IsUuidByte dashed chars) :=
  fun _ => inferInstanceAs (Decidable (_ ∧ _))

def uuidByte (dashed : Bool) (chars : List UInt8) (output : Nat) : UInt8 :=
  Hex.byte (chars.getD (uuidDigits dashed output) 0) (chars.getD (uuidDigits dashed output + 1) 0)

theorem uuidHexValue_neg (c : UInt8) : uuidHexValue c < 0 ↔ ¬ Hex.IsDigit c := by
  revert c
  exact Hex.byte_all (by decide +kernel)

theorem uuidHexValue_toNat (c : UInt8) : (uuidHexValue c).toNat = (Hex.value c).getD 0 := by
  revert c
  exact Hex.byte_all (by decide +kernel)

theorem uuidHexValue_byte (high low : UInt8) :
    UInt8.ofNat ((uuidHexValue high).toNat <<< 4 ||| (uuidHexValue low).toNat) =
      Hex.byte high low := by
  have small : (Hex.value low).getD 0 < 2 ^ 4 := Hex.value_lt low
  rw [uuidHexValue_toNat, uuidHexValue_toNat, ← Nat.shiftLeft_add_eq_or_of_lt small,
    Nat.shiftLeft_eq, Nat.mul_comm]
  rfl

section parse

variable {text : CString} {dashed : Bool}

theorem CString.read_inside {index : Nat} (inside : index ≤ text.chars.length) :
    text.read index = .ok (text.chars.getD index 0) := by
  have there : (text.chars ++ [0])[index]? = some (text.chars.getD index 0) := by
    rcases Nat.lt_or_eq_of_le inside with before | rfl
    · rw [List.getElem?_append_left before, List.getD_eq_getElem?_getD,
        List.getElem?_eq_getElem before, Option.getD_some]
    · simp
  rw [CString.read, there]

theorem dash_condition (length : text.chars.length = uuidStart dashed 16) {output : Nat}
    (small : output < 16) :
    text.chars.length = 36 ∧ IsDashPosition (uuidStart dashed output) ↔
      dashed = true ∧ IsDashedByte output := by
  rw [length, uuidStart_sixteen]
  cases dashed with
  | false => simp
  | true => simp [isDashPosition_start output small]

theorem uuidSkipDash_eq (length : text.chars.length = uuidStart dashed 16) {output : Nat}
    (small : output < 16) :
    uuidSkipDash text (uuidStart dashed output) =
      if dashed = true ∧ IsDashedByte output → text.chars.getD (uuidStart dashed output) 0 = 45 then
        .ok (uuidDigits dashed output)
      else .error .refused := by
  have inside := uuidDigits_lt dashed output small
  rw [← length] at inside
  unfold uuidDigits at inside ⊢
  unfold uuidSkipDash
  simp only [dash_condition length small]
  by_cases dash : dashed = true ∧ IsDashedByte output
  · have read : text.read (uuidStart dashed output) = _ := CString.read_inside (by omega)
    simp only [if_pos dash, read, bind, Except.bind]
    by_cases there : text.chars.getD (uuidStart dashed output) 0 = 45
    · rw [if_neg (not_not.mpr there), if_pos fun _ => there]
    · rw [if_pos there, if_neg fun always => there (always dash)]
  · rw [if_neg dash, if_neg dash, if_pos fun dashes => absurd dashes dash, Nat.add_zero]

theorem uuidParsePair_eq (length : text.chars.length = uuidStart dashed 16) {output : Nat}
    (small : output < 16) :
    uuidParsePair text (uuidDigits dashed output) =
      if Hex.IsDigit (text.chars.getD (uuidDigits dashed output) 0) ∧
          Hex.IsDigit (text.chars.getD (uuidDigits dashed output + 1) 0) then
        .ok (uuidByte dashed text.chars output)
      else .error .refused := by
  have inside := uuidDigits_lt dashed output small
  rw [← length] at inside
  have high : text.read (uuidDigits dashed output) = _ := CString.read_inside (by omega)
  have low : text.read (uuidDigits dashed output + 1) = _ := CString.read_inside (by omega)
  rw [uuidParsePair, high, low]
  simp only [bind, Except.bind, uuidHexValue_neg, ← not_and_or, uuidHexValue_byte, ite_not]
  rfl

/-- The digits of a byte are read, and the turn is behind them. -/
theorem uuidParseByte_eq (length : text.chars.length = uuidStart dashed 16) {output : Nat}
    (small : output < 16) (parsed : McUuid) :
    uuidParseByte text (uuidStart dashed output, parsed) output =
      if IsUuidByte dashed text.chars output then
        .ok (uuidStart dashed (output + 1), parsed.set output (uuidByte dashed text.chars output))
      else .error .refused := by
  rw [uuidParseByte, uuidSkipDash_eq length small]
  by_cases dash : dashed = true ∧ IsDashedByte output →
      text.chars.getD (uuidStart dashed output) 0 = 45
  · rw [if_pos dash]
    simp only [bind, Except.bind]
    rw [uuidParsePair_eq length small]
    by_cases digits : Hex.IsDigit (text.chars.getD (uuidDigits dashed output) 0) ∧
        Hex.IsDigit (text.chars.getD (uuidDigits dashed output + 1) 0)
    · rw [if_pos digits, if_pos ⟨dash, digits⟩, uuidStart_succ dashed output small]
    · rw [if_neg digits, if_neg fun good => digits good.2]
  · rw [if_neg dash, if_neg fun good => dash good.1]
    rfl

/-- The bytes that `count` turns from `first` on put where they belong. -/
def uuidSetBytes (dashed : Bool) (chars : List UInt8) (first count : Nat) (parsed : McUuid) :
    McUuid :=
  (List.range' first count).foldl
    (fun parsed output => parsed.set output (uuidByte dashed chars output)) parsed

theorem foldlM_uuidParseByte (length : text.chars.length = uuidStart dashed 16) {count first : Nat}
    (parsed : McUuid) (within : first + count ≤ 16) :
    (List.range' first count).foldlM (uuidParseByte text) (uuidStart dashed first, parsed) =
      if ∀ output ∈ List.range' first count, IsUuidByte dashed text.chars output then
        .ok (uuidStart dashed (first + count),
          uuidSetBytes dashed text.chars first count parsed)
      else .error .refused := by
  induction count generalizing first parsed with
  | zero => rfl
  | succ count ih =>
      rw [List.range'_succ, List.foldlM_cons, uuidParseByte_eq length (by omega)]
      by_cases good : IsUuidByte dashed text.chars first
      · rw [if_pos good]
        simp only [bind, Except.bind]
        rw [ih _ (by omega), Nat.add_right_comm, Nat.add_assoc]
        simp only [List.forall_mem_cons, good, true_and]
        rfl
      · rw [if_neg good, if_neg fun all => good (all first List.mem_cons_self)]
        rfl

/-- The UUID of a text. -/
def uuidOfText (dashed : Bool) (chars : List UInt8) : McUuid :=
  ⟨(List.range 16).map (uuidByte dashed chars), by rw [List.length_map, List.length_range]⟩

theorem McUuid.eq_of_bytes {uuid other : McUuid} (same : uuid.bytes = other.bytes) :
    uuid = other := by
  cases uuid
  cases other
  cases same
  rfl

theorem McUuid.foldl_set (byte : Nat → UInt8) (outputs : List Nat) (uuid : McUuid) :
    (outputs.foldl (fun uuid output => uuid.set output (byte output)) uuid).bytes =
      outputs.foldl (fun bytes output => bytes.set output (byte output)) uuid.bytes := by
  induction outputs generalizing uuid with
  | nil => rfl
  | cons output outputs ih => exact ih (uuid.set output (byte output))

/-- Every place is set in turn. -/
theorem foldl_set_range (byte : Nat → UInt8) (size : Nat) {count : Nat} (within : count ≤ size) :
    (List.range count).foldl (fun bytes output => bytes.set output (byte output))
      (List.replicate size 0) =
        (List.range count).map byte ++ List.replicate (size - count) 0 := by
  induction count with
  | zero => rfl
  | succ count ih =>
      have rest : List.replicate (size - count) (0 : UInt8) =
          0 :: List.replicate (size - (count + 1)) 0 := by
        rw [← List.replicate_succ]
        congr 1
        omega
      rw [List.range_succ, List.foldl_append, ih (by omega), rest, List.map_append,
        List.append_assoc, List.foldl_cons, List.foldl_nil, List.set_append_right _ _ (by simp)]
      simp

theorem uuidSetBytes_all (chars : List UInt8) :
    uuidSetBytes dashed chars 0 16 McUuid.zero = uuidOfText dashed chars :=
  McUuid.eq_of_bytes ((McUuid.foldl_set _ _ _).trans
    ((foldl_set_range (uuidByte dashed chars) 16 (Nat.le_refl 16)).trans (List.append_nil _)))

theorem mcUuidParse_eq (length : text.chars.length = uuidStart dashed 16) (uuid : McUuid) :
    mcUuidParse text uuid =
      some (if ∀ output ∈ List.range 16, IsUuidByte dashed text.chars output then
        (true, uuidOfText dashed text.chars) else (false, uuid)) := by
  have sized : ¬ (text.chars.length ≠ 32 ∧ text.chars.length ≠ 36) := by
    rw [length, uuidStart_sixteen]
    cases dashed <;> simp
  have run := foldlM_uuidParseByte length McUuid.zero (show 0 + 16 ≤ 16 by decide)
  rw [uuidStart_zero, uuidSetBytes_all, ← List.range_eq_range', Nat.zero_add] at run
  rw [mcUuidParse, if_neg sized, run]
  by_cases all : ∀ output ∈ List.range 16, IsUuidByte dashed text.chars output
  · simp only [if_pos all, ← length, ne_eq, not_true, if_false]
  · simp only [if_neg all]

/-- Thirty-two digits, or thirty-six characters with dashes at their four positions and digits at
the others. -/
def IsUuidText (chars : List UInt8) : Prop :=
  (chars.length = 32 ∧ ∀ c ∈ chars, Hex.IsDigit c) ∨
    (chars.length = 36 ∧ ∀ position < 36,
      if IsDashPosition position then chars.getD position 0 = 45
      else Hex.IsDigit (chars.getD position 0))

theorem isUuidByte_iff (dashed : Bool) (chars : List UInt8) :
    (∀ output ∈ List.range 16, IsUuidByte dashed chars output) ↔
      ∀ position < uuidStart dashed 16,
        if dashed = true ∧ IsDashPosition position then chars.getD position 0 = 45
        else Hex.IsDigit (chars.getD position 0) := by
  constructor
  · intro all position small
    rcases uuidPosition_of_lt dashed position small with
      ⟨there, dash, output, low, before, rfl⟩ | ⟨other, output, low, rfl | rfl⟩
    · rw [if_pos ⟨there, dash⟩]
      exact (all output (List.mem_range.mpr low)).1 ⟨there, before⟩
    · rw [if_neg other]
      exact (all output (List.mem_range.mpr low)).2.1
    · rw [if_neg other]
      exact (all output (List.mem_range.mpr low)).2.2
  · intro every output member
    have low := List.mem_range.mp member
    have inside := uuidDigits_lt dashed output low
    obtain ⟨first, second⟩ := uuidDigits_not_dash dashed output low
    have high := every (uuidDigits dashed output) (by omega)
    have next := every (uuidDigits dashed output + 1) (by omega)
    rw [if_neg first] at high
    rw [if_neg second] at next
    refine ⟨?_, high, next⟩
    rintro ⟨rfl, before⟩
    have start : uuidStart true output < uuidStart true 16 := by
      have digits : uuidStart true output ≤ uuidDigits true output := Nat.le_add_right _ _
      omega
    have dash := every (uuidStart true output) start
    rwa [if_pos ⟨rfl, (isDashPosition_start output low).mpr before⟩] at dash

theorem forall_getD_iff {P : UInt8 → Prop} (chars : List UInt8) :
    (∀ position < chars.length, P (chars.getD position 0)) ↔ ∀ c ∈ chars, P c := by
  constructor
  · intro every c member
    obtain ⟨position, small, rfl⟩ := List.getElem_of_mem member
    have at_position := every position small
    rwa [List.getD_eq_getElem _ _ small] at at_position
  · intro all position small
    rw [List.getD_eq_getElem _ _ small]
    exact all _ (List.getElem_mem small)

theorem isUuidText_iff (length : text.chars.length = uuidStart dashed 16) :
    (∀ output ∈ List.range 16, IsUuidByte dashed text.chars output) ↔ IsUuidText text.chars := by
  rw [isUuidByte_iff, IsUuidText]
  rw [uuidStart_sixteen] at length ⊢
  cases dashed with
  | false =>
      have plain : text.chars.length = 32 := length
      have other : ¬ text.chars.length = 36 := by omega
      simp only [Bool.false_eq_true, false_and, if_false, plain, true_and]
      rw [← plain, forall_getD_iff, plain]
      simp
  | true =>
      have whole : text.chars.length = 36 := length
      simp [whole]

end parse

/-- Thirty-two digits in their five groups. -/
def withDashes (digits : List UInt8) : List UInt8 :=
  digits.take 8 ++ [45] ++ (digits.drop 8).take 4 ++ [45] ++ (digits.drop 12).take 4 ++ [45] ++
    (digits.drop 16).take 4 ++ [45] ++ digits.drop 20

/-- Two digits for each of the bytes. -/
def uuidHex (high low : Nat → UInt8) : List UInt8 :=
  (List.range 16).flatMap fun input => [high input, low input]

theorem withDashes_uuidHex (high low : Nat → UInt8) :
    withDashes (uuidHex high low) = [
      high 0, low 0, high 1, low 1, high 2, low 2, high 3, low 3, 45,
      high 4, low 4, high 5, low 5, 45,
      high 6, low 6, high 7, low 7, 45,
      high 8, low 8, high 9, low 9, 45,
      high 10, low 10, high 11, low 11, high 12, low 12, high 13, low 13, high 14, low 14, high 15, low 15] := rfl

theorem foldl_uuidHex (high low : Nat → UInt8) :
    (List.range 16).foldl (fun text input => text ++
      ((if IsDashedByte input then [45] else []) ++ [high input, low input])) [] =
        withDashes (uuidHex high low) := by
  rw [withDashes_uuidHex, ← List.flatMap_eq_foldl]
  rfl

theorem mcUuidFormat_chars (uuid : McUuid) :
    (mcUuidFormat uuid).chars = withDashes (uuidHex
      (fun input => Hex.digit ((uuid.bytes.getD input 0).toNat / 16))
      (fun input => Hex.digit ((uuid.bytes.getD input 0).toNat % 16))) := by
  have steps : uuidFormatByte uuid = fun text input => text ++
      ((if IsDashedByte input then [45] else []) ++
        [Hex.digit ((uuid.bytes.getD input 0).toNat / 16),
          Hex.digit ((uuid.bytes.getD input 0).toNat % 16)]) := by
    funext text input
    exact uuidFormatByte_eq uuid text input
  have shape : (mcUuidFormat uuid).chars = (List.range 16).foldl (uuidFormatByte uuid) [] := rfl
  rw [shape, steps, foldl_uuidHex]

/-- Where the characters of a byte are written. -/
theorem withDashes_getD (high low : Nat → UInt8) : ∀ output < 16,
    (IsDashedByte output → (withDashes (uuidHex high low)).getD (uuidStart true output) 0 = 45) ∧
      (withDashes (uuidHex high low)).getD (uuidDigits true output) 0 = high output ∧
      (withDashes (uuidHex high low)).getD (uuidDigits true output + 1) 0 = low output := by
  intro output small
  rw [withDashes_uuidHex]
  refine ⟨?_, by interval_cases output <;> rfl, by interval_cases output <;> rfl⟩
  rintro (rfl | rfl | rfl | rfl) <;> rfl

theorem mcUuidFormat_good (uuid : McUuid) :
    ∀ output ∈ List.range 16, IsUuidByte true (mcUuidFormat uuid).chars output := by
  intro output member
  have written := withDashes_getD
    (fun input => Hex.digit ((uuid.bytes.getD input 0).toNat / 16))
    (fun input => Hex.digit ((uuid.bytes.getD input 0).toNat % 16)) output (List.mem_range.mp member)
  rw [← mcUuidFormat_chars] at written
  obtain ⟨dash, high, low⟩ := written
  have byte := (uuid.bytes.getD output 0).toNat_lt
  rw [IsUuidByte, high, low]
  exact ⟨fun dashed => dash dashed.2, Hex.digit_isDigit (by omega), Hex.digit_isDigit (by omega)⟩

theorem uuidByte_format (uuid : McUuid) {output : Nat} (small : output < 16) :
    uuidByte true (mcUuidFormat uuid).chars output = uuid.bytes.getD output 0 := by
  have written := withDashes_getD
    (fun input => Hex.digit ((uuid.bytes.getD input 0).toNat / 16))
    (fun input => Hex.digit ((uuid.bytes.getD input 0).toNat % 16)) output small
  rw [← mcUuidFormat_chars] at written
  obtain ⟨-, high, low⟩ := written
  rw [uuidByte, high, low, Hex.byte_pair]

theorem uuidOfText_format (uuid : McUuid) :
    uuidOfText true (mcUuidFormat uuid).chars = uuid := by
  have read : (uuidOfText true (mcUuidFormat uuid).chars).bytes = uuid.bytes := by
    refine List.ext_getElem ?_ fun output first second => ?_
    · rw [(uuidOfText true _).size, uuid.size]
    · rw [uuid.size] at second
      simp only [uuidOfText, List.getElem_map, List.getElem_range]
      rw [uuidByte_format uuid second, List.getD_eq_getElem]
  exact McUuid.eq_of_bytes read

/-- The text that a text is turned into: lower case, with dashes. -/
def uuidLowerDashed (chars : List UInt8) : List UInt8 :=
  if chars.length = 32 then withDashes (chars.map Hex.lower) else chars.map Hex.lower

theorem eq_map_getD {n : Nat} {chars : List UInt8} (length : chars.length = n) :
    chars = (List.range n).map fun position => chars.getD position 0 := by
  subst length
  refine List.ext_getElem (by rw [List.length_map, List.length_range]) fun position small _ => ?_
  rw [List.getElem_map, List.getElem_range, List.getD_eq_getElem _ _ small]

/-- The digits of a text are written again, in lower case. -/
theorem uuidHex_uuidOfText {dashed : Bool} {chars : List UInt8}
    (good : ∀ output ∈ List.range 16, IsUuidByte dashed chars output) :
    uuidHex
      (fun input => Hex.digit (((uuidOfText dashed chars).bytes.getD input 0).toNat / 16))
      (fun input => Hex.digit (((uuidOfText dashed chars).bytes.getD input 0).toNat % 16)) =
    uuidHex (fun input => Hex.lower (chars.getD (uuidDigits dashed input) 0))
      (fun input => Hex.lower (chars.getD (uuidDigits dashed input + 1) 0)) := by
  refine List.flatMap_congr fun output member => ?_
  have small : output < (uuidOfText dashed chars).bytes.length := by
    rw [(uuidOfText dashed chars).size]
    exact List.mem_range.mp member
  have byte : (uuidOfText dashed chars).bytes.getD output 0 = uuidByte dashed chars output := by
    rw [List.getD_eq_getElem _ _ small]
    simp only [uuidOfText, List.getElem_map, List.getElem_range]
  simp only [byte]
  exact Hex.pair_byte (good output member).2.1 (good output member).2.2

theorem plain_digits (char : Nat → UInt8) :
    withDashes (uuidHex (fun input => char (uuidDigits false input))
      (fun input => char (uuidDigits false input + 1))) =
        withDashes ((List.range 32).map char) := by
  rw [withDashes_uuidHex]
  rfl

theorem dashed_digits (char : Nat → UInt8) :
    withDashes (uuidHex (fun input => char (uuidDigits true input))
      (fun input => char (uuidDigits true input + 1))) =
        (List.range 36).map fun position =>
          if IsDashPosition position then 45 else char position := by
  rw [withDashes_uuidHex]
  rfl

theorem format_uuidOfText {dashed : Bool} {chars : List UInt8}
    (length : chars.length = uuidStart dashed 16)
    (good : ∀ output ∈ List.range 16, IsUuidByte dashed chars output) :
    (mcUuidFormat (uuidOfText dashed chars)).chars = uuidLowerDashed chars := by
  rw [mcUuidFormat_chars, uuidHex_uuidOfText good, uuidLowerDashed]
  cases dashed with
  | false =>
      have plain : chars.length = 32 := length
      have lowered := congrArg (List.map Hex.lower) (eq_map_getD plain)
      rw [List.map_map] at lowered
      rw [if_pos plain, lowered]
      exact plain_digits fun position => Hex.lower (chars.getD position 0)
  | true =>
      have whole : chars.length = 36 := length
      have positions := (isUuidByte_iff true chars).mp good
      have lowered := congrArg (List.map Hex.lower) (eq_map_getD whole)
      rw [List.map_map] at lowered
      rw [if_neg (by omega), lowered]
      refine (dashed_digits fun position => Hex.lower (chars.getD position 0)).trans ?_
      refine List.map_congr_left fun position member => ?_
      have read := positions position (List.mem_range.mp member)
      simp only [true_and] at read
      by_cases dash : IsDashPosition position
      · rw [if_pos dash] at read ⊢
        rw [Function.comp_apply, read]
        rfl
      · rw [if_neg dash, Function.comp_apply]

/-- The parser accepts the texts of UUIDs, reads nothing behind their NUL and changes nothing where
it refuses. What is written is read back, and what is read is written in lower case and with
dashes. -/
theorem uuidText_roundTrip :
    (∀ (text : CString) (uuid : McUuid), ∃ accepted parsed,
      mcUuidParse text uuid = some (accepted, parsed) ∧
        (accepted = true ↔ IsUuidText text.chars) ∧
        (accepted = false → parsed = uuid) ∧
        (accepted = true → (mcUuidFormat parsed).chars = uuidLowerDashed text.chars)) ∧
    ∀ uuid previous : McUuid, mcUuidParse (mcUuidFormat uuid) previous = some (true, uuid) := by
  constructor
  · intro text uuid
    by_cases sized : text.chars.length = 32 ∨ text.chars.length = 36
    · obtain ⟨dashed, length⟩ : ∃ dashed, text.chars.length = uuidStart dashed 16 := by
        rcases sized with plain | whole
        · exact ⟨false, plain⟩
        · exact ⟨true, whole⟩
      rw [mcUuidParse_eq length, ← isUuidText_iff length]
      by_cases good : ∀ output ∈ List.range 16, IsUuidByte dashed text.chars output
      · rw [if_pos good]
        exact ⟨true, _, rfl, by simpa using good, nofun, fun _ => format_uuidOfText length good⟩
      · rw [if_neg good]
        exact ⟨false, _, rfl, by simpa using good, fun _ => rfl, nofun⟩
    · rw [not_or] at sized
      refine ⟨false, uuid, by rw [mcUuidParse, if_pos sized], ?_, fun _ => rfl, nofun⟩
      simp [IsUuidText, sized.1, sized.2]
  · intro uuid previous
    have length : (mcUuidFormat uuid).chars.length = uuidStart true 16 := by
      rw [mcUuidFormat_chars, withDashes_uuidHex]
      rfl
    rw [mcUuidParse_eq length, if_pos (mcUuidFormat_good uuid), uuidOfText_format]

end McProtocol
