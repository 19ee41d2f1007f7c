import Mathlib.Data.Nat.Bitwise
import McProtocol.RoundTrip
import McProtocol.Typed.Item

/-! # Positions

Three coordinates in one word of 64 bits, in an order of the release. The writer and the reader
follow one format, for every position whose coordinates fit their fields.
-/

namespace McProtocol

namespace McPosition

def InRange (value : McPosition) : Prop :=
  -2 ^ 25 ≤ value.x ∧ value.x < 2 ^ 25 ∧ -2 ^ 11 ≤ value.y ∧ value.y < 2 ^ 11 ∧
    -2 ^ 25 ≤ value.z ∧ value.z < 2 ^ 25

/-- `packed`, as a sum of its three fields. -/
def packed (protocol : Int) (value : McPosition) : Nat :=
  let x := toUnsigned 26 value.x
  let y := toUnsigned 12 value.y
  let z := toUnsigned 26 value.z
  if 477 ≤ protocol then x * 2 ^ 38 + (z * 2 ^ 12 + y) else x * 2 ^ 38 + (y * 2 ^ 26 + z)

def unpacked (protocol : Int) (packed : Nat) : McPosition :=
  let x := toSigned 26 (packed / 2 ^ 38 % 2 ^ 26)
  if 477 ≤ protocol then
    ⟨x, toSigned 12 (packed % 2 ^ 12), toSigned 26 (packed / 2 ^ 12 % 2 ^ 26)⟩
  else ⟨x, toSigned 12 (packed / 2 ^ 26 % 2 ^ 12), toSigned 26 (packed % 2 ^ 26)⟩

variable {protocol : Int} {value : McPosition}

theorem packed_lt : value.packed protocol < 2 ^ 64 := by
  have x := toUnsigned_lt 26 value.x
  have y := toUnsigned_lt 12 value.y
  have z := toUnsigned_lt 26 value.z
  simp only [packed]
  split_ifs <;> omega

theorem unpacked_packed (inside : value.InRange) :
    unpacked protocol (value.packed protocol) = value := by
  obtain ⟨lowX, highX, lowY, highY, lowZ, highZ⟩ := inside
  have x := toSigned_toUnsigned (w := 26) (by norm_num) lowX highX
  have y := toSigned_toUnsigned (w := 12) (by norm_num) lowY highY
  have z := toSigned_toUnsigned (w := 26) (by norm_num) lowZ highZ
  have smallX := toUnsigned_lt 26 value.x
  have smallY := toUnsigned_lt 12 value.y
  have smallZ := toUnsigned_lt 26 value.z
  by_cases new : 477 ≤ protocol
  · have first : value.packed protocol / 2 ^ 38 % 2 ^ 26 = toUnsigned 26 value.x := by
      simp only [packed, if_pos new]
      omega
    have second : value.packed protocol / 2 ^ 12 % 2 ^ 26 = toUnsigned 26 value.z := by
      simp only [packed, if_pos new]
      omega
    have third : value.packed protocol % 2 ^ 12 = toUnsigned 12 value.y := by
      simp only [packed, if_pos new]
      omega
    rw [unpacked, if_pos new, first, second, third, x, y, z]
  · have first : value.packed protocol / 2 ^ 38 % 2 ^ 26 = toUnsigned 26 value.x := by
      simp only [packed, if_neg new]
      omega
    have second : value.packed protocol / 2 ^ 26 % 2 ^ 12 = toUnsigned 12 value.y := by
      simp only [packed, if_neg new]
      omega
    have third : value.packed protocol % 2 ^ 26 = toUnsigned 26 value.z := by
      simp only [packed, if_neg new]
      omega
    rw [unpacked, if_neg new, first, second, third, x, y, z]

theorem packed_unpacked {word : Nat} (small : word < 2 ^ 64) :
    (unpacked protocol word).packed protocol = word := by
  by_cases new : 477 ≤ protocol
  · simp only [packed, unpacked, if_pos new]
    rw [toUnsigned_toSigned (Nat.mod_lt _ (by norm_num)),
      toUnsigned_toSigned (Nat.mod_lt _ (by norm_num)),
      toUnsigned_toSigned (Nat.mod_lt _ (by norm_num))]
    omega
  · simp only [packed, unpacked, if_neg new]
    rw [toUnsigned_toSigned (Nat.mod_lt _ (by norm_num)),
      toUnsigned_toSigned (Nat.mod_lt _ (by norm_num)),
      toUnsigned_toSigned (Nat.mod_lt _ (by norm_num))]
    omega

theorem inRange_unpacked (word : Nat) : (unpacked protocol word).InRange := by
  have wide (field : Nat) := toSigned_bounds (w := 26) (n := field % 2 ^ 26) (by norm_num)
    (Nat.mod_lt _ (by norm_num))
  have narrow (field : Nat) := toSigned_bounds (w := 12) (n := field % 2 ^ 12) (by norm_num)
    (Nat.mod_lt _ (by norm_num))
  simp only [unpacked]
  split_ifs
  · exact ⟨(wide _).1, (wide _).2, (narrow _).1, (narrow _).2, (wide _).1, (wide _).2⟩
  · exact ⟨(wide _).1, (wide _).2, (narrow _).1, (narrow _).2, (wide _).1, (wide _).2⟩

end McPosition

theorem positionSigned_eq {value bits : Nat} (small : value < 2 ^ bits) (positive : 0 < bits) :
    positionSigned value bits = toSigned bits value := by
  have double : 2 ^ bits = 2 * 2 ^ (bits - 1) := by
    obtain ⟨rest, rfl⟩ := Nat.exists_eq_add_one.mpr positive
    rw [Nat.add_sub_cancel, pow_succ']
  have unit : 0 < 2 ^ (bits - 1) := by positivity
  rw [positionSigned, toSigned, Nat.one_shiftLeft, Nat.and_two_pow]
  by_cases low : value < 2 ^ (bits - 1)
  · rw [if_pos low, Nat.testBit_lt_two_pow low]
    simp
  · have set : value.testBit (bits - 1) = true := by
      rw [Nat.testBit_eq_decide_div_mod_eq, Nat.div_eq_of_lt_le (k := 1) (by omega) (by omega)]
      rfl
    rw [if_neg low, set]
    simp

theorem toUnsigned_low (bits : Nat) (value : Int) (narrow : bits ≤ 32) :
    toUnsigned 32 value &&& (2 ^ bits - 1) = toUnsigned bits value := by
  rw [Nat.and_two_pow_sub_one_eq_mod]
  have divides : (2 ^ bits : Int) ∣ 2 ^ 32 := pow_dvd_pow 2 narrow
  have wide : (toUnsigned 32 value : Int) = value % 2 ^ 32 :=
    Int.toNat_of_nonneg (Int.emod_nonneg value (by positivity))
  have low : (toUnsigned bits value : Int) = value % 2 ^ bits :=
    Int.toNat_of_nonneg (Int.emod_nonneg value (by positivity))
  have same : ((toUnsigned 32 value % 2 ^ bits : Nat) : Int) = toUnsigned bits value := by
    rw [Int.natCast_mod, wide, low, Nat.cast_pow, Nat.cast_ofNat, Int.emod_emod_of_dvd _ divides]
  exact_mod_cast same

theorem emits_position (protocol : Int) (value : McPosition) :
    Emits (mcPacketPosition protocol value) fun bytes =>
      mcProtocolSupported protocol = true ∧ value.InRange ∧
        bytes = BigEndian.bytes 8 (value.packed protocol) := by
  have x : toUnsigned 32 value.x &&& 0x3ffffff = toUnsigned 26 value.x :=
    toUnsigned_low 26 value.x (by norm_num)
  have y : toUnsigned 32 value.y &&& 0xfff = toUnsigned 12 value.y :=
    toUnsigned_low 12 value.y (by norm_num)
  have z : toUnsigned 32 value.z &&& 0x3ffffff = toUnsigned 26 value.z :=
    toUnsigned_low 26 value.z (by norm_num)
  have smallY := toUnsigned_lt 12 value.y
  have smallZ := toUnsigned_lt 26 value.z
  have packed : (if 477 ≤ protocol then
      toUnsigned 26 value.x <<< 38 ||| toUnsigned 26 value.z <<< 12 ||| toUnsigned 12 value.y
    else toUnsigned 26 value.x <<< 38 ||| toUnsigned 12 value.y <<< 26 ||| toUnsigned 26 value.z) =
      value.packed protocol := by
    simp only [McPosition.packed]
    split_ifs
    · have inner : toUnsigned 26 value.z <<< 12 + toUnsigned 12 value.y < 2 ^ 38 := by
        rw [Nat.shiftLeft_eq]
        omega
      rw [Nat.or_assoc, ← Nat.shiftLeft_add_eq_or_of_lt smallY,
        ← Nat.shiftLeft_add_eq_or_of_lt inner, Nat.shiftLeft_eq, Nat.shiftLeft_eq]
    · have inner : toUnsigned 12 value.y <<< 26 + toUnsigned 26 value.z < 2 ^ 38 := by
        rw [Nat.shiftLeft_eq]
        omega
      rw [Nat.or_assoc, ← Nat.shiftLeft_add_eq_or_of_lt smallZ,
        ← Nat.shiftLeft_add_eq_or_of_lt inner, Nat.shiftLeft_eq, Nat.shiftLeft_eq]
  simp only [mcPacketPosition, x, y, z, packed]
  refine (Emits.checked (Emits.u64 (value.packed protocol))).congr fun bytes => ?_
  simp only [McPosition.InRange]
  constructor
  · rintro ⟨good, rfl⟩
    simp only [not_or, Bool.not_eq_false] at good
    refine ⟨good.1, ?_, rfl⟩
    omega
  · rintro ⟨supported, inside, rfl⟩
    refine ⟨?_, rfl⟩
    simp only [supported, Bool.true_eq_false, false_or]
    omega

theorem positionSigned_low (bits word : Nat) (positive : 0 < bits) :
    positionSigned (word &&& (2 ^ bits - 1)) bits = toSigned bits (word % 2 ^ bits) := by
  rw [Nat.and_two_pow_sub_one_eq_mod]
  exact positionSigned_eq (Nat.mod_lt _ (by positivity)) positive

theorem accepts_position (mode : McDecodeMode) (protocol : Int) :
    Accepts mode (mcReaderPosition protocol).run fun value bytes =>
      mcProtocolSupported protocol = true ∧ value.InRange ∧
        bytes = BigEndian.bytes 8 (value.packed protocol) := by
  have wide (word : Nat) : positionSigned (word &&& 0x3ffffff) 26 = toSigned 26 (word % 2 ^ 26) :=
    positionSigned_low 26 word (by norm_num)
  have narrow (word : Nat) : positionSigned (word &&& 0xfff) 12 = toSigned 12 (word % 2 ^ 12) :=
    positionSigned_low 12 word (by norm_num)
  have unpacks (word : Nat) : Accepts mode (if 477 ≤ protocol then
      (pure ⟨toSigned 26 (word >>> 38 % 2 ^ 26), toSigned 12 (word % 2 ^ 12),
        toSigned 26 (word >>> 12 % 2 ^ 26)⟩ : DecodeM protocol McPosition)
      else pure ⟨toSigned 26 (word >>> 38 % 2 ^ 26), toSigned 12 (word >>> 26 % 2 ^ 12),
        toSigned 26 (word % 2 ^ 26)⟩).run
      fun value bytes => value = .unpacked protocol word ∧ bytes = [] := by
    simp only [McPosition.unpacked, ← Nat.shiftRight_eq_div_pow]
    split_ifs
    · exact .pure _
    · exact .pure _
  have body : Accepts mode (if mcProtocolSupported protocol = false then
      (readerFailProtocol .unsupportedProtocol protocol : DecodeM protocol McPosition)
      else do
        let word ← mcReaderU64
        if 477 ≤ protocol then
          pure ⟨toSigned 26 (word >>> 38 % 2 ^ 26), toSigned 12 (word % 2 ^ 12),
            toSigned 26 (word >>> 12 % 2 ^ 26)⟩
        else pure ⟨toSigned 26 (word >>> 38 % 2 ^ 26), toSigned 12 (word >>> 26 % 2 ^ 12),
          toSigned 26 (word % 2 ^ 26)⟩).run
      fun value bytes => mcProtocolSupported protocol = true ∧ value.InRange ∧
        bytes = BigEndian.bytes 8 (value.packed protocol) := by
    cases supported : mcProtocolSupported protocol with
    | false =>
        rw [if_pos rfl]
        exact (Accepts.refused fun _ => rfl).congr fun value bytes => by simp
    | true =>
        rw [if_neg (by simp)]
        refine (accepts_u64.bind unpacks).congr fun value bytes => ?_
        simp only [true_and]
        constructor
        · rintro ⟨word, _, _, rfl, ⟨small, rfl⟩, rfl, rfl⟩
          rw [List.append_nil, McPosition.packed_unpacked small]
          exact ⟨McPosition.inRange_unpacked word, rfl⟩
        · rintro ⟨inside, rfl⟩
          exact ⟨value.packed protocol, _, [], (List.append_nil _).symm,
            ⟨McPosition.packed_lt, rfl⟩, (McPosition.unpacked_packed inside).symm, rfl⟩
  simp only [mcReaderPosition, wide, narrow]
  refine (accepts_refuseFailed.bind fun _ => body).congr fun value bytes => ?_
  constructor
  · rintro ⟨_, _, _, rfl, rfl, derived⟩
    exact derived
  · exact fun derived => ⟨(), [], bytes, rfl, rfl, derived⟩

/-- Eight bytes are the word of the position they are read as. -/
theorem McPosition.bytes_unpacked {bytes : List UInt8} (length : bytes.length = 8) (protocol : Int) :
    bytes = BigEndian.bytes 8 ((unpacked protocol (BigEndian.word bytes)).packed protocol) := by
  have small : BigEndian.word bytes < 2 ^ 64 := by
    have bound := BigEndian.word_lt bytes
    rw [length] at bound
    exact bound.trans_eq (by norm_num)
  rw [packed_unpacked small, BigEndian.bytes_word length]

/-- The positions whose coordinates fit are the strings of eight bytes: each is written as one that
reads back as it, and each string reads as one that writes it again. -/
theorem position_bijection (protocol : Int) (supported : mcProtocolSupported protocol = true)
    (mode : McDecodeMode) :
    (∀ value : McPosition, value.InRange → ∃ bytes : List UInt8, bytes.length = 8 ∧
      Writes (mcPacketPosition protocol value) bytes ∧
        Reads mode (mcReaderPosition protocol).run value bytes) ∧
    ∀ bytes : List UInt8, bytes.length = 8 → ∃ value : McPosition, value.InRange ∧
      Reads mode (mcReaderPosition protocol).run value bytes ∧
        Writes (mcPacketPosition protocol value) bytes := by
  constructor
  · intro value inside
    exact ⟨_, BigEndian.length_bytes 8 _,
      (emits_position protocol value).complete ⟨supported, inside, rfl⟩,
      (accepts_position mode protocol).complete ⟨supported, inside, rfl⟩⟩
  · intro bytes length
    have inside : (McPosition.unpacked protocol (BigEndian.word bytes)).InRange :=
      McPosition.inRange_unpacked _
    have same := McPosition.bytes_unpacked length protocol
    exact ⟨_, inside, (accepts_position mode protocol).complete ⟨supported, inside, same⟩,
      (emits_position protocol _).complete ⟨supported, inside, same⟩⟩

/-- Both layouts, at the ends of their releases. -/
theorem position_bijection_layouts :
    (∃ value : McPosition, value.InRange ∧
      Reads .strict (mcReaderPosition 404).run value [255, 255, 255, 255, 255, 255, 255, 255] ∧
        Writes (mcPacketPosition 404 value) [255, 255, 255, 255, 255, 255, 255, 255]) ∧
    ∃ bytes : List UInt8, bytes.length = 8 ∧
      Writes (mcPacketPosition 477 ⟨-33554432, -2048, 33554431⟩) bytes ∧
        Reads .strict (mcReaderPosition 477).run ⟨-33554432, -2048, 33554431⟩ bytes :=
  ⟨(position_bijection 404 (by decide) .strict).2 _ rfl,
    (position_bijection 477 (by decide) .strict).1 _ (by unfold McPosition.InRange; decide)⟩

end McProtocol
