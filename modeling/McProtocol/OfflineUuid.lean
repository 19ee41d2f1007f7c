import McProtocol.Lib.Hex
import McProtocol.Lib.Md5
import McProtocol.Uuid

/-! # Offline identities

The digest of a name is MD5: its message is short enough for a single block, whose operations are
made on registers that move by one place each time.
-/

namespace McProtocol

theorem littleEndianWord_cons (byte : UInt8) (bytes : List UInt8) :
    littleEndianWord (byte :: bytes) = littleEndianWord bytes <<< 8 ||| byte.toUInt32 := by
  rw [littleEndianWord, List.reverse_cons, List.foldl_append]
  rfl

theorem littleEndianWord_eq (bytes : List UInt8) : littleEndianWord bytes = Md5.word bytes := by
  induction bytes with
  | nil => rfl
  | cons byte bytes ih =>
      have small : byte.toNat < 2 ^ 8 := byte.toNat_lt
      have low : byte.toUInt32.toNat = byte.toNat := UInt8.toNat_toUInt32 byte
      have shifted : (Md5.word bytes <<< 8).toNat = Md5.number bytes <<< 8 % 2 ^ 32 := by
        have eight : (8 : UInt32).toNat % 32 = 8 := rfl
        rw [UInt32.toNat_shiftLeft, eight, Md5.word, UInt32.toNat_ofNat', Nat.shiftLeft_eq,
          Nat.shiftLeft_eq]
        omega
      rw [littleEndianWord_cons, ih, ← UInt32.toNat_inj, UInt32.toNat_or, shifted, low, Md5.word,
        UInt32.toNat_ofNat', Md5.number]
      have whole : Md5.number bytes <<< 8 % 2 ^ 32 = (Md5.number bytes % 2 ^ 24) <<< 8 := by
        rw [Nat.shiftLeft_eq, Nat.shiftLeft_eq]
        omega
      rw [whole, ← Nat.shiftLeft_add_eq_or_of_lt small, Nat.shiftLeft_eq]
      omega

theorem littleEndianBytes_eq (word : UInt32) : littleEndianBytes word = Md5.bytes 4 word.toNat := by
  refine List.map_congr_left fun index member => ?_
  have small := List.mem_range.mp member
  rw [← UInt8.toNat_inj, UInt32.toNat_toUInt8, UInt32.toNat_shiftRight, UInt32.toNat_ofNat',
    Nat.mod_eq_of_lt (show 8 * index < 2 ^ 32 by omega),
    Nat.mod_eq_of_lt (show 8 * index < 32 by omega), Nat.shiftRight_eq_div_pow, UInt8.toNat_ofNat',
    pow_mul]
  norm_num

theorem toNat_shiftAmount {shift : Nat} (small : shift < 32) :
    ((UInt32.ofNat shift).toBitVec % 32).toNat = shift := by
  rw [BitVec.toNat_umod, UInt32.toNat_toBitVec, UInt32.toNat_ofNat',
    Nat.mod_eq_of_lt (show shift < 2 ^ 32 by omega)]
  exact Nat.mod_eq_of_lt small

theorem rotateLeft_eq (value : UInt32) {shift : Nat} (positive : 0 < shift) (small : shift < 32) :
    rotateLeft value shift = Md5.rotate value shift := by
  rw [← UInt32.toBitVec_inj, rotateLeft, UInt32.toBitVec_or, UInt32.toBitVec_shiftLeft,
    UInt32.toBitVec_shiftRight, BitVec.shiftLeft_eq', BitVec.ushiftRight_eq',
    toNat_shiftAmount small, toNat_shiftAmount (show 32 - shift < 32 by omega), Md5.rotate,
    BitVec.rotateLeft_eq_rotateLeftAux_of_lt small, BitVec.rotateLeftAux]

/-- What the source calls its constants are those of the reference. -/
theorem md5Constants_eq : md5Constants = Md5.table := rfl

theorem md5Shifts_getD : ∀ index < 64, md5Shifts.getD index 0 =
    (Md5.round (index / 16)).shifts.getD (index % 4) 0 := by
  decide

theorem md5Shifts_bounds : ∀ index < 64,
    0 < (Md5.round (index / 16)).shifts.getD (index % 4) 0 ∧
      (Md5.round (index / 16)).shifts.getD (index % 4) 0 < 32 := by
  decide

/-- The word that a round takes, as the source computes it. -/
def md5Word (index : Nat) : Nat :=
  if index < 16 then index
  else if index < 32 then (5 * index + 1) % 16
  else if index < 48 then (3 * index + 5) % 16
  else 7 * index % 16

theorem md5Word_eq : ∀ index < 64,
    md5Word index = (Md5.round (index / 16)).order.getD (index % 16) 0 := by
  decide

theorem md5Mix_word (state : Md5State) (index : Nat) : (md5Mix state index).2 = md5Word index := by
  unfold md5Mix md5Word
  split_ifs <;> rfl

theorem md5Mix_mixed (state : Md5State) {index : Nat} (small : index < 64) :
    (md5Mix state index).1 = (Md5.round (index / 16)).mix state.b state.c state.d := by
  unfold md5Mix
  by_cases first : index < 16
  · have number : index / 16 = 0 := by omega
    rw [if_pos first, number]
    rfl
  · rw [if_neg first]
    by_cases second : index < 32
    · have number : index / 16 = 1 := by omega
      rw [if_pos second, number]
      change state.d &&& state.b ||| ~~~state.d &&& state.c =
        state.b &&& state.d ||| state.c &&& ~~~state.d
      rw [UInt32.and_comm state.d, UInt32.and_comm (~~~state.d)]
    · rw [if_neg second]
      by_cases third : index < 48
      · have number : index / 16 = 2 := by omega
        rw [if_pos third, number]
        rfl
      · have number : index / 16 = 3 := by omega
        rw [if_neg third, number]
        rfl

/-- One round makes the operation of its number, and moves the registers by one place. -/
theorem md5Round_eq (words : List UInt32) (state : Md5State) {index : Nat} (small : index < 64) :
    md5Round words state index =
      ⟨state.d, Md5.operation words index state.a state.b state.c state.d, state.b, state.c⟩ := by
  obtain ⟨positive, narrow⟩ := md5Shifts_bounds index small
  have sum : state.a + (md5Mix state index).1 + md5Constants.getD index 0 +
      words.getD (md5Mix state index).2 0 = state.a +
        (Md5.round (index / 16)).mix state.b state.c state.d +
          words.getD ((Md5.round (index / 16)).order.getD (index % 16) 0) 0 +
            Md5.table.getD index 0 := by
    rw [md5Mix_mixed state small, md5Mix_word, md5Word_eq index small, md5Constants_eq,
      UInt32.add_assoc, UInt32.add_comm (Md5.table.getD index 0), ← UInt32.add_assoc]
  rw [Md5.operation, ← rotateLeft_eq _ positive narrow, ← sum, ← md5Shifts_getD index small]
  rfl

/-- The registers of the source, in the order of the reference. -/
def Md5State.registers (state : Md5State) : Md5.Registers := ⟨state.a, state.b, state.c, state.d⟩

/-- Four rounds are a group. -/
theorem md5Rounds_group (words : List UInt32) (state : Md5State) {number : Nat}
    (small : number < 16) :
    ([4 * number, 4 * number + 1, 4 * number + 2, 4 * number + 3].foldl (md5Round words)
      state).registers = Md5.group words state.registers number := by
  simp only [List.foldl_cons, List.foldl_nil]
  rw [md5Round_eq words state (by omega), md5Round_eq words _ (by omega),
    md5Round_eq words _ (by omega), md5Round_eq words _ (by omega)]
  rfl

theorem md5Rounds_groups (words : List UInt32) (state : Md5State) {numbers : List Nat}
    (small : ∀ number ∈ numbers, number < 16) :
    ((numbers.flatMap fun number => [4 * number, 4 * number + 1, 4 * number + 2, 4 * number + 3]).foldl
      (md5Round words) state).registers = numbers.foldl (Md5.group words) state.registers := by
  induction numbers generalizing state with
  | nil => rfl
  | cons number numbers ih =>
      rw [List.flatMap_cons, List.foldl_append,
        ih _ fun other member => small other (List.mem_cons_of_mem _ member),
        md5Rounds_group words state (small number List.mem_cons_self)]
      rfl

/-- Sixty-four rounds are sixteen groups. -/
theorem md5Rounds_eq (words : List UInt32) (state : Md5State) :
    ((List.range 64).foldl (md5Round words) state).registers =
      (List.range 16).foldl (Md5.group words) state.registers := by
  have rounds : List.range 64 = (List.range 16).flatMap fun number =>
      [4 * number, 4 * number + 1, 4 * number + 2, 4 * number + 3] := by
    decide
  rw [rounds]
  exact md5Rounds_groups words state fun _ => List.mem_range.mp

/-- The block of a message, as the source fills it. -/
def md5Block (input : List UInt8) : List UInt8 :=
  let bits := input.length * 8
  let length := (List.range 8).map fun index => UInt8.ofNat (bits >>> (index * 8))
  input ++ [0x80] ++ List.replicate (55 - input.length) 0 ++ length

theorem md5Block_eq {input : List UInt8} (short : input.length ≤ 55) :
    md5Block input = Md5.pad input := by
  have zeros : 55 - input.length = (119 - input.length % 64) % 64 := by omega
  have length : ((List.range 8).map fun index => UInt8.ofNat ((input.length * 8) >>> (index * 8))) =
      Md5.bytes 8 (8 * input.length) := by
    refine List.map_congr_left fun index _ => ?_
    rw [Nat.shiftRight_eq_div_pow, Nat.mul_comm index, pow_mul, Nat.mul_comm input.length]
    norm_num
  simp only [md5Block]
  rw [Md5.pad, zeros, length]

theorem pad_length {input : List UInt8} (short : input.length ≤ 55) :
    (Md5.pad input).length = 64 := by
  simp only [Md5.pad, Md5.bytes, List.length_append, List.length_singleton, List.length_replicate,
    List.length_map, List.length_range]
  omega

theorem blocks_pad {input : List UInt8} (short : input.length ≤ 55) :
    Md5.blocks (Md5.pad input) = [Md5.pad input] := by
  have length := pad_length short
  have whole : (Md5.pad input).take 64 = Md5.pad input := List.take_of_length_le (le_of_eq length)
  rw [Md5.blocks, length]
  change [((Md5.pad input).drop 0).take 64] = _
  rw [List.drop_zero, whole]

/-- The registers behind the rounds of a block. -/
def md5Mixed (input : List UInt8) : Md5State :=
  (List.range 64).foldl (md5Round ((List.range 16).map fun index =>
    littleEndianWord (((md5Block input).drop (index * 4)).take 4))) md5Initial

theorem md5Mixed_eq {input : List UInt8} (short : input.length ≤ 55) :
    (md5Mixed input).registers = (List.range 16).foldl (Md5.group ((List.range 16).map fun index =>
      Md5.word (((Md5.pad input).drop (4 * index)).take 4))) Md5.initial := by
  rw [md5Mixed, md5Rounds_eq]
  congr 2
  refine List.map_congr_left fun index _ => ?_
  rw [littleEndianWord_eq, md5Block_eq short, Nat.mul_comm]

/-- A message that fits one block has the digest that the source computes. -/
theorem md5SingleBlock_eq {input : List UInt8} (short : input.length ≤ 55) :
    md5SingleBlock input = Md5.digest input := by
  have shape : md5SingleBlock input = littleEndianBytes (md5Initial.a + (md5Mixed input).a) ++
      littleEndianBytes (md5Initial.b + (md5Mixed input).b) ++
        littleEndianBytes (md5Initial.c + (md5Mixed input).c) ++
          littleEndianBytes (md5Initial.d + (md5Mixed input).d) := rfl
  rw [Md5.digest, blocks_pad short, List.foldl_cons, List.foldl_nil, Md5.compress,
    ← md5Mixed_eq short, shape]
  simp only [littleEndianBytes_eq]
  rfl

/-- The bytes of a digest with the version 3 and the variant bits 10, and no other bit changed. -/
structure IsVersion3 (digest bytes : List UInt8) : Prop where
  length : bytes.length = digest.length
  others : ∀ index, index ≠ 6 → index ≠ 8 → bytes[index]? = digest[index]?
  version : ∀ byte ∈ digest[6]?, ∃ stamped ∈ bytes[6]?,
    stamped.toNat / 2 ^ 4 = 3 ∧ stamped.toNat % 2 ^ 4 = byte.toNat % 2 ^ 4
  variant : ∀ byte ∈ digest[8]?, ∃ stamped ∈ bytes[8]?,
    stamped.toNat / 2 ^ 6 = 2 ∧ stamped.toNat % 2 ^ 6 = byte.toNat % 2 ^ 6

theorem uuidVersion3_version (byte : UInt8) : (uuidVersion3 6 byte).toNat / 2 ^ 4 = 3 ∧
    (uuidVersion3 6 byte).toNat % 2 ^ 4 = byte.toNat % 2 ^ 4 := by
  revert byte
  exact Hex.byte_all (by decide +kernel)

theorem uuidVersion3_variant (byte : UInt8) : (uuidVersion3 8 byte).toNat / 2 ^ 6 = 2 ∧
    (uuidVersion3 8 byte).toNat % 2 ^ 6 = byte.toNat % 2 ^ 6 := by
  revert byte
  exact Hex.byte_all (by decide +kernel)

theorem isVersion3_stamped (digest : List UInt8) :
    IsVersion3 digest (digest.mapIdx uuidVersion3) := by
  constructor
  · exact List.length_mapIdx
  · intro index first second
    have same : uuidVersion3 index = id := by
      funext byte
      rw [uuidVersion3, if_neg first, if_neg second, id]
    rw [List.getElem?_mapIdx, same, Option.map_id]
    rfl
  · intro byte there
    refine ⟨uuidVersion3 6 byte, ?_, uuidVersion3_version byte⟩
    rw [List.getElem?_mapIdx, there]
    rfl
  · intro byte there
    refine ⟨uuidVersion3 8 byte, ?_, uuidVersion3_variant byte⟩
    rw [List.getElem?_mapIdx, there]
    rfl

/-- The identity of a valid name is the digest of `OfflinePlayer:` and the name, stamped. -/
theorem offlineUuid_eq (username : List UInt8) (valid : ValidUsername username) :
    ∃ uuid, mcOfflineUuid username = some uuid ∧
      IsVersion3 (Md5.digest ("OfflinePlayer:".toUTF8.toList ++ username)) uuid.bytes := by
  have prefixed : "OfflinePlayer:".toUTF8.toList.length = 14 := by decide +kernel
  have short : ("OfflinePlayer:".toUTF8.toList ++ username).length ≤ 55 := by
    have few := valid.2.1
    rw [List.length_append, prefixed]
    omega
  refine ⟨_, if_pos valid, ?_⟩
  simp only [md5SingleBlock_eq short]
  exact isVersion3_stamped _

/-- The identity of one name. -/
theorem offlineUuid_eq_notch : ∃ uuid, mcOfflineUuid [78, 111, 116, 99, 104] = some uuid ∧
    IsVersion3 (Md5.digest ("OfflinePlayer:".toUTF8.toList ++ [78, 111, 116, 99, 104])) uuid.bytes :=
  offlineUuid_eq [78, 111, 116, 99, 104] (by decide +kernel)

end McProtocol
