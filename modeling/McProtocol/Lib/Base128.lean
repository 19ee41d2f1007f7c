import Mathlib.Tactic

/-! # Base-128 codes

Little-endian groups of seven bits: every byte of a code but the last has its
high bit set. `encode` gives the shortest code of a number; `scan` finds the
code at the head of a byte string and tells a truncated code from one that has
outgrown its limit. Readers and writers of any word width are instances.
-/

namespace Base128

def encode (n : Nat) : List UInt8 :=
  if n < 128 then [UInt8.ofNat n] else UInt8.ofNat (n % 128 + 128) :: encode (n / 128)
termination_by n
decreasing_by omega

/-- The number a group sequence stands for, continuation bits dropped. -/
def value : List UInt8 → Nat
  | [] => 0
  | b :: bs => b.toNat % 128 + 128 * value bs

/-- Continued bytes, then one that is not. -/
inductive IsCode : List UInt8 → Prop where
  | last {b} : b.toNat < 128 → IsCode [b]
  | more {b bs} : 128 ≤ b.toNat → IsCode bs → IsCode (b :: bs)

inductive Scan where
  | complete (code : List UInt8)
  | short
  | overlong
  deriving Repr, DecidableEq

/-- The code of at most `limit` bytes at the head of a byte string. -/
def scan : Nat → List UInt8 → Scan
  | 0, _ => .overlong
  | _ + 1, [] => .short
  | limit + 1, b :: bs =>
      if b.toNat < 128 then .complete [b]
      else
        match scan limit bs with
        | .complete code => .complete (b :: code)
        | .short => .short
        | .overlong => .overlong

theorem toNat_ofNat {n : Nat} (h : n < 256) : (UInt8.ofNat n).toNat = n := by
  rw [UInt8.toNat_ofNat']; omega

theorem low_group (n : Nat) : n &&& 0x7f = n % 128 := Nat.and_two_pow_sub_one_eq_mod n 7

theorem continued_iff (b : UInt8) : b.toNat &&& 0x80 ≠ 0 ↔ 128 ≤ b.toNat := by
  have all : ∀ i : Fin 256, i.val &&& 0x80 ≠ 0 ↔ 128 ≤ i.val := by decide +kernel
  exact all ⟨b.toNat, b.toNat_lt⟩

/-- Or-ing a group above everything read so far adds it. -/
theorem or_group {acc i b : Nat} (h : acc < 128 ^ i) :
    acc ||| (b &&& 0x7f) <<< (i * 7) = acc + b % 128 * 128 ^ i := by
  have power : 128 ^ i = 2 ^ (i * 7) := by
    rw [Nat.mul_comm, pow_mul]
    norm_num
  rw [power] at h ⊢
  rw [low_group, Nat.or_comm, ← Nat.shiftLeft_add_eq_or_of_lt h, Nat.shiftLeft_eq, Nat.add_comm]

theorem IsCode.ne_nil {c : List UInt8} (h : IsCode c) : c ≠ [] := by
  cases h <;> simp

theorem IsCode.length_pos {c : List UInt8} (h : IsCode c) : 0 < c.length :=
  List.length_pos_of_ne_nil h.ne_nil

theorem isCode_encode (n : Nat) : IsCode (encode n) := by
  induction n using Nat.strongRecOn with
  | ind n ih =>
      rw [encode]
      split
      · exact .last (by rw [toNat_ofNat] <;> omega)
      · exact .more (by rw [toNat_ofNat] <;> omega) (ih (n / 128) (by omega))

@[simp] theorem value_encode (n : Nat) : value (encode n) = n := by
  induction n using Nat.strongRecOn with
  | ind n ih =>
      rw [encode]
      split
      · rename_i small
        simp only [value, toNat_ofNat (show n < 256 by omega)]
        omega
      · rename_i large
        simp only [value, ih (n / 128) (by omega), toNat_ofNat (show n % 128 + 128 < 256 by omega)]
        omega

/-- A number below `128 ^ k` has a code of at most `k` bytes. -/
theorem encode_length_le {n k : Nat} (hk : 0 < k) (h : n < 128 ^ k) : (encode n).length ≤ k := by
  induction k generalizing n with
  | zero => omega
  | succ k ih =>
      rw [encode]
      split
      · simp
      · rename_i large
        have positive : 0 < k := by
          rcases Nat.eq_zero_or_pos k with rfl | positive
          · simp at h; omega
          · exact positive
        have smaller : n / 128 < 128 ^ k := by
          rw [Nat.div_lt_iff_lt_mul (by decide), ← pow_succ]
          exact h
        simpa using ih positive smaller

theorem encode_pos (n : Nat) : 0 < (encode n).length := (isCode_encode n).length_pos

/-- The shortest code of a value is the only code of its length. -/
theorem IsCode.eq_encode_iff {c : List UInt8} (h : IsCode c) :
    (encode (value c)).length = c.length ↔ c = encode (value c) := by
  refine ⟨fun same => ?_, fun same => congrArg List.length same.symm⟩
  induction h with
  | @last b small =>
      have whole : value [b] = b.toNat := by simp only [value]; omega
      rw [whole, encode, if_pos small]
      simp
  | @more b bs large tail ih =>
      have split : value (b :: bs) = b.toNat % 128 + 128 * value bs := rfl
      have tailPos := tail.length_pos
      have notSmall : ¬ value (b :: bs) < 128 := by
        intro small
        rw [encode, if_pos small] at same
        simp only [List.length_cons, List.length_nil] at same
        omega
      have rest : value (b :: bs) / 128 = value bs := by omega
      have first : value (b :: bs) % 128 = b.toNat % 128 := by omega
      have byte : UInt8.ofNat (b.toNat % 128 + 128) = b := by
        have bound := b.toNat_lt
        apply UInt8.toNat_inj.mp
        rw [toNat_ofNat] <;> omega
      rw [encode, if_neg notSmall, rest, first] at same ⊢
      have lengths : (encode (value bs)).length = bs.length := by simpa using same
      rw [byte, ← ih lengths]

theorem scan_complete_iff {limit : Nat} {bs c : List UInt8} :
    scan limit bs = .complete c ↔ IsCode c ∧ c.length ≤ limit ∧ c <+: bs := by
  induction limit generalizing bs c with
  | zero =>
      simp only [scan, reduceCtorEq, false_iff]
      rintro ⟨code, short, -⟩
      have := code.length_pos
      omega
  | succ limit ih =>
      cases bs with
      | nil =>
          simp only [scan, reduceCtorEq, false_iff]
          rintro ⟨code, -, head⟩
          exact code.ne_nil (List.prefix_nil.mp head)
      | cons b bs =>
          rw [scan]
          split
          · rename_i small
            simp only [Scan.complete.injEq]
            constructor
            · rintro rfl
              exact ⟨.last small, by simp, by simp⟩
            · rintro ⟨code, -, head⟩
              cases code with
              | last => simp only [List.cons_prefix_cons] at head; rw [head.1]
              | more large => simp only [List.cons_prefix_cons] at head; rw [head.1] at large; omega
          · rename_i large
            constructor
            · intro h
              rcases e : scan limit bs with code | _ | _ <;> rw [e] at h <;> simp at h
              subst h
              obtain ⟨code, short, head⟩ := ih.mp e
              exact ⟨.more (by omega) code, by simpa using short, by simpa using head⟩
            · rintro ⟨code, short, head⟩
              cases code with
              | last small => simp at head; rw [head] at small; omega
              | @more b' tail _ code =>
                  simp only [List.cons_prefix_cons] at head
                  have inner : scan limit bs = .complete tail :=
                    ih.mpr ⟨code, by simpa using short, head.2⟩
                  simp only [inner, head.1]

/-- A proper initial part of a code is reported short, never overlong. -/
theorem scan_short {limit : Nat} {p s : List UInt8} (hc : IsCode (p ++ s)) (hs : s ≠ [])
    (hl : (p ++ s).length ≤ limit) : scan limit p = .short := by
  induction p generalizing limit with
  | nil =>
      cases limit with
      | zero => simp at hl; exact absurd hl hs
      | succ limit => rfl
  | cons b p ih =>
      cases limit with
      | zero => simp at hl
      | succ limit =>
          rw [List.cons_append] at hc
          generalize e : p ++ s = rest at hc
          cases hc with
          | last => exact absurd (List.append_eq_nil_iff.mp e).2 hs
          | more large tail =>
              subst e
              have inner := ih tail (by simpa using hl)
              simp only [scan, inner]
              rw [if_neg (by omega)]

end Base128
