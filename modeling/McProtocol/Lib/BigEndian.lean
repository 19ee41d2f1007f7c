import Mathlib.Tactic

/-! # Big-endian words

Words of any number of bytes, most significant byte first.
-/

namespace BigEndian

/-- The word of a byte string. -/
def word (bytes : List UInt8) : Nat :=
  bytes.foldl (fun decoded byte => decoded <<< 8 ||| byte.toNat) 0

/-- The `size` low bytes of a word. -/
def bytes : Nat → Nat → List UInt8
  | 0, _ => []
  | size + 1, word => UInt8.ofNat (word >>> (8 * size)) :: bytes size word

@[simp] theorem length_bytes (size word : Nat) : (bytes size word).length = size := by
  induction size with
  | zero => rfl
  | succ size ih => rw [bytes, List.length_cons, ih]

theorem shift_or (decoded : Nat) (byte : UInt8) :
    decoded <<< 8 ||| byte.toNat = decoded * 256 + byte.toNat := by
  have bound : byte.toNat < 2 ^ 8 := byte.toNat_lt
  rw [← Nat.shiftLeft_add_eq_or_of_lt bound, Nat.shiftLeft_eq]

theorem foldl_word (decoded : Nat) (bs : List UInt8) :
    bs.foldl (fun decoded byte => decoded <<< 8 ||| byte.toNat) decoded =
      decoded * 256 ^ bs.length + word bs := by
  induction bs generalizing decoded with
  | nil => simp [word]
  | cons b bs ih =>
      simp only [word, List.foldl_cons] at ih ⊢
      rw [ih, ih (0 <<< 8 ||| b.toNat), shift_or, shift_or, List.length_cons, pow_succ]
      ring

theorem word_cons (b : UInt8) (bs : List UInt8) :
    word (b :: bs) = b.toNat * 256 ^ bs.length + word bs := by
  rw [word, List.foldl_cons, foldl_word, shift_or]
  simp

theorem word_lt (bs : List UInt8) : word bs < 256 ^ bs.length := by
  induction bs with
  | nil => simp [word]
  | cons b bs ih =>
      have top : b.toNat * 256 ^ bs.length ≤ 255 * 256 ^ bs.length :=
        Nat.mul_le_mul_right _ (by have := b.toNat_lt; omega)
      rw [word_cons, List.length_cons, pow_succ]
      omega

theorem word_bytes (size w : Nat) : word (bytes size w) = w % 256 ^ size := by
  induction size with
  | zero => simp [bytes, word, Nat.mod_one]
  | succ size ih =>
      have digit : (UInt8.ofNat (w >>> (8 * size))).toNat = w / 256 ^ size % 256 := by
        rw [UInt8.toNat_ofNat', Nat.shiftRight_eq_div_pow, pow_mul]
        norm_num
      rw [bytes, word_cons, length_bytes, ih, digit, pow_succ, Nat.mod_mul]
      ring

theorem word_injective {bs cs : List UInt8} (length : bs.length = cs.length)
    (same : word bs = word cs) : bs = cs := by
  induction bs generalizing cs with
  | nil => exact (List.length_eq_zero_iff.mp length.symm).symm
  | cons b bs ih =>
      cases cs with
      | nil => simp at length
      | cons c cs =>
          simp only [List.length_cons, Nat.add_right_cancel_iff] at length
          rw [word_cons, word_cons, ← length] at same
          have lowLeft := word_lt bs
          have lowRight := word_lt cs
          rw [← length] at lowRight
          have positive : 0 < 256 ^ bs.length := by positivity
          have top : b.toNat = c.toNat := by
            have left := congrArg (· / 256 ^ bs.length) same
            simpa [Nat.mul_add_div positive, Nat.mul_comm _ (256 ^ bs.length),
              Nat.div_eq_of_lt lowLeft, Nat.div_eq_of_lt lowRight] using left
          have rest : word bs = word cs := by rw [top] at same; omega
          rw [UInt8.toNat_inj.mp top, ih length rest]

theorem bytes_word {bs : List UInt8} {size : Nat} (length : bs.length = size) :
    bytes size (word bs) = bs := by
  apply word_injective
  · rw [length_bytes, length]
  · rw [word_bytes, ← length, Nat.mod_eq_of_lt (word_lt bs)]

theorem bytes_inj {size v w : Nat} (left : v < 256 ^ size) (right : w < 256 ^ size) :
    bytes size v = bytes size w ↔ v = w := by
  refine ⟨fun same => ?_, fun same => by rw [same]⟩
  have words := congrArg word same
  rwa [word_bytes, word_bytes, Nat.mod_eq_of_lt left, Nat.mod_eq_of_lt right] at words

/-- Words one behind the other. -/
def array (size : Nat) (ws : List Nat) : List UInt8 := (ws.map (bytes size)).flatten

@[simp] theorem length_array (size : Nat) (ws : List Nat) :
    (array size ws).length = ws.length * size := by
  induction ws with
  | nil => simp [array]
  | cons w ws ih =>
      have split : array size (w :: ws) = bytes size w ++ array size ws := rfl
      rw [split, List.length_append, length_bytes, ih, List.length_cons, Nat.succ_mul, Nat.add_comm]

/-- The block of an array at an index is the word there. -/
theorem word_array {size index : Nat} {ws : List Nat} (small : ∀ w ∈ ws, w < 256 ^ size)
    (inside : index < ws.length) :
    word (((array size ws).drop (index * size)).take size) = ws[index] := by
  induction ws generalizing index with
  | nil => simp at inside
  | cons w ws ih =>
      have split : array size (w :: ws) = bytes size w ++ array size ws := rfl
      simp only [List.mem_cons, forall_eq_or_imp] at small
      cases index with
      | zero =>
          rw [split, Nat.zero_mul, List.drop_zero, List.take_left' (length_bytes size w), word_bytes,
            Nat.mod_eq_of_lt small.1]
          rfl
      | succ index =>
          have jump : (index + 1) * size = (bytes size w).length + index * size := by
            rw [length_bytes, Nat.succ_mul, Nat.add_comm]
          rw [split, jump, ← List.drop_drop, List.drop_left]
          exact ih small.2 (by simpa using inside)

end BigEndian
