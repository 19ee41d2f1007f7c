import McProtocol.Typed.Bodies

/-! # Block changes

The records of a multi block change are checked by the decoder, and read by an iterator that
turns each of them into a block position. The iterator refuses block states that do not fit
its `int32_t`, which the decoder lets pass, and multiplies the coordinates of the chunk, which
before 751 are any `int32_t`.
-/

namespace McProtocol

open Iteration (Yields Drains)
open Base128 (encode)

structure McBlockChangeRecord where
  position : McPosition
  stateId : Int
  rawRecord : Nat
  deriving Repr, DecidableEq

structure McBlockChangeIterator where
  reader : McReader
  packet : McMultiBlockChangePacket
  remaining : Nat

def mcMultiBlockChangeIterator (packet : McMultiBlockChangePacket) : Option McBlockChangeIterator :=
  if mcMaxPacketArrayCount < packet.recordCount then none
  else some ⟨sliceReader packet.records, packet, packet.recordCount⟩

/-- The product of two `int32_t`, which wraps where C leaves the overflow undefined. -/
def mulInt32 (left right : Int) : Int := toSigned 32 (toUnsigned 32 (left * right))

/-- Where a block stands: `chunk * 16 + offset`. -/
def blockCoordinate (chunk offset : Int) : Int := addInt32 (mulInt32 chunk 16) offset

/-- The number that holds the block state above its low twelve bits. -/
def readPackedRecord : McMultiBlockRecordFormat → ReadM Nat
  | .sectionVarlong => do
      let signedRecord ← mcReaderVarlong
      require (0 ≤ signedRecord)
      pure signedRecord.toNat
  | _ => do
      let signedRecord ← mcReaderVarint
      require (0 ≤ signedRecord)
      pure signedRecord.toNat

/-- A record of a column of blocks: `horizontal` holds the place in the chunk. -/
def columnRecord (packet : McMultiBlockChangePacket) (horizontal y : UInt8) (stateId : Int)
    (rawRecord : Nat) : McBlockChangeRecord where
  position := ⟨blockCoordinate packet.chunkX (horizontal.toNat >>> 4 : Nat), y.toNat,
    blockCoordinate packet.chunkZ (horizontal.toNat &&& 0x0f : Nat)⟩
  stateId := stateId
  rawRecord := rawRecord

/-- A record of a section of 16 blocks each way. -/
def sectionRecord (packet : McMultiBlockChangePacket) (packed : Nat) : McBlockChangeRecord where
  position := ⟨blockCoordinate packet.chunkX (packed >>> 8 &&& 0x0f : Nat),
    blockCoordinate packet.sectionY (packed &&& 0x0f : Nat),
    blockCoordinate packet.chunkZ (packed >>> 4 &&& 0x0f : Nat)⟩
  stateId := (packed >>> 12 : Nat)
  rawRecord := packed

def readBlockRecord (packet : McMultiBlockChangePacket) : ReadM McBlockChangeRecord :=
  match packet.format with
  | .legacy17 => do
      let horizontal ← mcReaderU8
      let y ← mcReaderU8
      let state ← mcReaderU16
      pure (columnRecord packet horizontal y state
        (horizontal.toNat <<< 24 ||| y.toNat <<< 16 ||| state))
  | .chunk => do
      let horizontal ← mcReaderU8
      let y ← mcReaderU8
      let stateId ← mcReaderVarint
      require (0 ≤ stateId)
      pure (columnRecord packet horizontal y stateId (horizontal.toNat <<< 8 ||| y.toNat))
  | format => do
      let packed ← readPackedRecord format
      typedRequire (packed >>> 12 ≤ int32Max)
      pure (sectionRecord packet packed)

def mcBlockChangeIteratorNext (iterator : McBlockChangeIterator) :
    Option McBlockChangeRecord × McBlockChangeIterator :=
  let (record, reader, remaining) :=
    nextCounted (readBlockRecord iterator.packet).run iterator.reader iterator.remaining
  (record, { iterator with reader := reader, remaining := remaining })

variable {mode : McDecodeMode} {protocol : Int}

/-- The record formats as the decoder checks them. -/
def IsBlockRecord (mode : McDecodeMode) : McMultiBlockRecordFormat → List UInt8 → Prop
  | .legacy17, bytes => bytes.length = 4
  | .chunk, bytes => ∃ (horizontal y : UInt8) (state : Int) (code : List UInt8),
      bytes = horizontal :: y :: code ∧ IsVarint mode state code ∧ 0 ≤ state
  | .sectionVarlong, bytes => ∃ packed : Int, IsVarlong mode packed bytes ∧ 0 ≤ packed
  | .sectionVarint, bytes => ∃ packed : Int, IsVarint mode packed bytes ∧ 0 ≤ packed

/-- The record formats as the iterator reads them. -/
def IsReadRecord (packet : McMultiBlockChangePacket) (record : McBlockChangeRecord)
    (bytes : List UInt8) : Prop :=
  match packet.format with
  | .legacy17 => ∃ (horizontal y : UInt8) (state : Nat), state < 2 ^ 16 ∧
      bytes = horizontal :: y :: BigEndian.bytes 2 state ∧
      record = columnRecord packet horizontal y state
        (horizontal.toNat <<< 24 ||| y.toNat <<< 16 ||| state)
  | .chunk => ∃ (horizontal y : UInt8) (state : Int), IsInt32 state ∧ 0 ≤ state ∧
      bytes = horizontal :: y :: encodeVarint state ∧
      record = columnRecord packet horizontal y state (horizontal.toNat <<< 8 ||| y.toNat)
  | .sectionVarlong => ∃ packed < 2 ^ 43, bytes = encodeGroups packed ∧
      record = sectionRecord packet packed
  | .sectionVarint => ∃ packed < 2 ^ 31, bytes = encodeGroups packed ∧
      record = sectionRecord packet packed

theorem toUnsigned_nonneg {width : Nat} {value : Int} (natural : 0 ≤ value)
    (small : value < 2 ^ width) : toUnsigned width value = value.toNat := by
  rw [toUnsigned, Int.emod_eq_of_lt natural small]

theorem accepts_skipBlockRecord (format : McMultiBlockRecordFormat) :
    Accepts mode (skipBlockRecord format).run fun _ bytes => IsBlockRecord mode format bytes := by
  cases format with
  | legacy17 => exact accepts_skip 4
  | chunk =>
      refine (accepts_orReject ((accepts_skip 2).bind fun _ => accepts_skipNonnegative) 0).congr
        fun _ bytes => ⟨?_, ?_⟩
      · rintro ⟨_, head, tail, rfl, length, state, isVarint, natural⟩
        obtain ⟨horizontal, y, rfl⟩ := List.length_eq_two.mp length
        exact ⟨horizontal, y, state, tail, rfl, isVarint, natural⟩
      · rintro ⟨horizontal, y, state, code, rfl, isVarint, natural⟩
        exact ⟨(), [horizontal, y], code, rfl, rfl, state, isVarint, natural⟩
  | sectionVarlong =>
      refine (accepts_orReject (accepts_varlong.bind fun _ => accepts_require) 0).congr
        fun _ bytes => ⟨?_, ?_⟩
      · rintro ⟨packed, head, _, rfl, isVarlong, natural, rfl⟩
        exact ⟨packed, by rwa [List.append_nil], natural⟩
      · rintro ⟨packed, isVarlong, natural⟩
        exact ⟨packed, bytes, [], (List.append_nil _).symm, isVarlong, natural, rfl⟩
  | sectionVarint => exact accepts_skipNonnegative

/-- A number in groups that is not negative. -/
theorem accepts_natural {program : Prog McReader Int} (width : Nat)
    (accepts : Accepts .strict program fun value bytes =>
      (-2 ^ width ≤ value ∧ value < 2 ^ width) ∧
        bytes = encodeGroups (toUnsigned (width + 1) value)) :
    Accepts .strict (program >>= fun value => (require (0 ≤ value)).run >>= fun _ =>
        Pure.pure value.toNat)
      fun packed bytes => packed < 2 ^ width ∧ bytes = encodeGroups packed := by
  have cast : ((2 ^ width : Nat) : Int) = 2 ^ width := by push_cast; rfl
  have double : (2 ^ (width + 1) : Int) = 2 * 2 ^ width := by rw [pow_succ, mul_comm]
  refine (accepts.bind fun value => .guarded accepts_require (.pure value.toNat)).congr
    fun packed bytes => ⟨?_, ?_⟩
  · rintro ⟨value, _, _, rfl, ⟨⟨-, high⟩, rfl⟩, natural, rfl, rfl⟩
    rw [List.append_nil, toUnsigned_nonneg natural (by omega)]
    exact ⟨by omega, rfl⟩
  · rintro ⟨small, rfl⟩
    refine ⟨packed, _, [], (List.append_nil _).symm, ⟨⟨by omega, by omega⟩, ?_⟩, by omega, ?_, rfl⟩
    · rw [toUnsigned_nonneg (by omega) (by omega), Int.toNat_natCast]
    · rw [Int.toNat_natCast]

/-- The bits a record may have before its block state is looked at. -/
def packedBits : McMultiBlockRecordFormat → Nat
  | .sectionVarlong => 63
  | _ => 31

theorem accepts_readPackedRecord (format : McMultiBlockRecordFormat) :
    Accepts .strict (readPackedRecord format).run fun packed bytes =>
      packed < 2 ^ packedBits format ∧ bytes = encodeGroups packed := by
  have varint := accepts_natural 31 (accepts_varint.congr fun _ _ => isVarint_strict)
  cases format with
  | sectionVarlong =>
      exact accepts_natural 63 (accepts_varlong.congr fun _ _ => isVarlong_strict)
  | legacy17 | chunk | sectionVarint => exact varint

theorem shiftRight_le_int32Max (packed : Nat) : packed >>> 12 ≤ int32Max ↔ packed < 2 ^ 43 := by
  rw [Nat.shiftRight_eq_div_pow, int32Max]
  omega

/-- Of a packed record the block state takes 31 bits at most. -/
theorem accepts_sectionRecord (packet : McMultiBlockChangePacket)
    (format : McMultiBlockRecordFormat) :
    Accepts .strict ((readPackedRecord format).run >>= fun packed =>
        (typedRequire (packed >>> 12 ≤ int32Max)).run >>= fun _ =>
          Pure.pure (sectionRecord packet packed))
      fun record bytes => ∃ packed < 2 ^ min 43 (packedBits format), bytes = encodeGroups packed ∧
        record = sectionRecord packet packed := by
  refine ((accepts_readPackedRecord format).bind fun packed => .guarded (accepts_rejectWhen 0)
    (.pure (sectionRecord packet packed))).congr fun record bytes => ⟨?_, ?_⟩
  · rintro ⟨packed, _, _, rfl, ⟨small, rfl⟩, short, rfl, rfl⟩
    rw [not_not, shiftRight_le_int32Max] at short
    refine ⟨packed, ?_, List.append_nil _, rfl⟩
    rcases Nat.le_total 43 (packedBits format) with wide | narrow
    · rwa [min_eq_left wide]
    · rwa [min_eq_right narrow]
  · rintro ⟨packed, small, rfl, rfl⟩
    have grows (bits : Nat) (le : min 43 (packedBits format) ≤ bits) : packed < 2 ^ bits :=
      small.trans_le (Nat.pow_le_pow_right (by norm_num) le)
    exact ⟨packed, _, [], (List.append_nil _).symm, ⟨grows _ (min_le_right _ _), rfl⟩,
      not_not.mpr ((shiftRight_le_int32Max packed).mpr (grows _ (min_le_left _ _))), rfl, rfl⟩

theorem accepts_readBlockRecord (packet : McMultiBlockChangePacket) :
    Accepts .strict (readBlockRecord packet).run (IsReadRecord packet) := by
  unfold readBlockRecord IsReadRecord
  cases packet.format with
  | legacy17 =>
      refine (accepts_u8.bind fun horizontal => accepts_u8.bind fun y => accepts_u16.bind
        fun state => .pure (columnRecord packet horizontal y state _)).congr
          fun record bytes => ⟨?_, ?_⟩
      · rintro ⟨horizontal, _, _, rfl, rfl, y, _, _, rfl, rfl, state, _, _, rfl, ⟨small, rfl⟩, rfl,
          rfl⟩
        exact ⟨horizontal, y, state, small, by simp, rfl⟩
      · rintro ⟨horizontal, y, state, small, rfl, rfl⟩
        exact ⟨horizontal, [horizontal], _, rfl, rfl, y, [y], _, rfl, rfl, state, _, [],
          (List.append_nil _).symm, ⟨small, rfl⟩, rfl, rfl⟩
  | chunk =>
      refine (accepts_u8.bind fun horizontal => accepts_u8.bind fun y => accepts_varint.bind
        fun state => .guarded accepts_require (.pure (columnRecord packet horizontal y state
          (horizontal.toNat <<< 8 ||| y.toNat)))).congr fun record bytes => ⟨?_, ?_⟩
      · rintro ⟨horizontal, _, _, rfl, rfl, y, _, _, rfl, rfl, state, _, _, rfl, isVarint, natural,
          rfl, rfl⟩
        obtain ⟨int, rfl⟩ := isVarint_strict.mp isVarint
        exact ⟨horizontal, y, state, int, natural, by simp, rfl⟩
      · rintro ⟨horizontal, y, state, int, natural, rfl, rfl⟩
        exact ⟨horizontal, [horizontal], _, rfl, rfl, y, [y], _, rfl, rfl, state, _, [],
          (List.append_nil _).symm, isVarint_encode int, natural, rfl, rfl⟩
  | sectionVarlong => exact accepts_sectionRecord packet .sectionVarlong
  | sectionVarint => exact accepts_sectionRecord packet .sectionVarint

/-- The byte of a flag that a release may lack. -/
def IsFlag (mode : McDecodeMode) (has : Prop) (flag : Bool) (bytes : List UInt8) : Prop :=
  (has ∧ ∃ byte, bytes = [byte] ∧ flag = (byte != 0) ∧ ¬ (mode = .strict ∧ 1 < byte)) ∨
    (¬ has ∧ bytes = [] ∧ flag = false)

theorem accepts_flag {has : Prop} [Decidable has] :
    Accepts mode (if has then mcReaderBool else pure false : ReadM Bool).run (IsFlag mode has) := by
  by_cases there : has
  · rw [if_pos there]
    have checked (byte : UInt8) : Accepts mode (rejectStrict (1 < byte) .invalidBoolean 1).run
        fun _ bytes => ¬ (mode = .strict ∧ 1 < byte) ∧ bytes = [] :=
      .check fun _ moded => by rw [moded]
    refine (accepts_u8.bind fun byte => .guarded (checked byte) (.pure (byte != 0))).congr
      fun flag bytes => ⟨?_, ?_⟩
    · rintro ⟨byte, _, _, rfl, rfl, low, rfl, rfl⟩
      exact .inl ⟨there, byte, rfl, rfl, low⟩
    · rintro (⟨-, byte, rfl, rfl, low⟩ | ⟨absent, -⟩)
      · exact ⟨byte, [byte], [], rfl, rfl, low, rfl, rfl⟩
      · exact absurd there absent
  · rw [if_neg there]
    refine (Accepts.pure false).congr fun flag bytes => ⟨?_, ?_⟩
    · rintro ⟨rfl, rfl⟩
      exact .inr ⟨there, rfl, rfl⟩
    · rintro (⟨present, -⟩ | ⟨-, rfl, rfl⟩)
      · exact absurd present there
      · exact ⟨rfl, rfl⟩

/-- The header of the release, and what it says. -/
def IsMultiBlockHeader (mode : McDecodeMode) (protocol : Int) (header : MultiBlockHeader)
    (bytes : List UInt8) : Prop :=
  if protocol ≤ 5 then ∃ (x z : Int) (count : Nat), IsInt32 x ∧ IsInt32 z ∧ count < 2 ^ 16 ∧
    bytes = int32Bytes x ++ int32Bytes z ++ BigEndian.bytes 2 count ++ int32Bytes (count * 4) ∧
    header = ⟨x, z, 0, count, .legacy17, false⟩
  else if protocol < 751 then ∃ (x z count : Int) (code : List UInt8), IsInt32 x ∧ IsInt32 z ∧
    IsVarint mode count code ∧ bytes = int32Bytes x ++ int32Bytes z ++ code ∧
    header = ⟨x, z, 0, count, .chunk, false⟩
  else ∃ (word : Nat) (suppress : Bool) (flag : List UInt8) (count : Int) (code : List UInt8),
    word < 2 ^ 64 ∧ IsFlag mode (protocol ≤ 762) suppress flag ∧ IsVarint mode count code ∧
    bytes = BigEndian.bytes 8 word ++ flag ++ code ∧
    header =
      { chunkX := typedSignExtend (word >>> 42) 22
        chunkZ := typedSignExtend (word >>> 20) 22
        sectionY := typedSignExtend word 20
        count := count
        format := if protocol ≤ 758 then .sectionVarlong else .sectionVarint
        suppressLightUpdates := suppress }

theorem accepts_readMultiBlockHeader (protocol : Int) :
    Accepts mode (readMultiBlockHeader protocol).run (IsMultiBlockHeader mode protocol) := by
  unfold readMultiBlockHeader IsMultiBlockHeader
  by_cases legacy : protocol ≤ 5
  · simp only [if_pos legacy]
    refine Accepts.congr (accepts_orReject (accepts_i32.bind fun x => accepts_i32.bind fun z =>
      accepts_u16.bind fun count => accepts_i32.bind fun length => .guarded accepts_require
        (.pure (⟨x, z, 0, count, .legacy17, false⟩ : MultiBlockHeader))) 0)
          fun header bytes => ⟨?_, ?_⟩
    · rintro ⟨x, _, _, rfl, ⟨intX, rfl⟩, z, _, _, rfl, ⟨intZ, rfl⟩, count, _, _, rfl, ⟨small, rfl⟩,
        length, _, _, rfl, ⟨_, rfl⟩, rfl, rfl, rfl⟩
      exact ⟨x, z, count, intX, intZ, small, by simp, rfl⟩
    · rintro ⟨x, z, count, intX, intZ, small, rfl, rfl⟩
      have int : IsInt32 ((count : Int) * 4) := ⟨by omega, by omega⟩
      exact ⟨x, _, _, by rw [List.append_assoc, List.append_assoc], ⟨intX, rfl⟩, z, _, _, rfl,
        ⟨intZ, rfl⟩, count, _, _, rfl, ⟨small, rfl⟩, count * 4, _, [], (List.append_nil _).symm,
        ⟨int, rfl⟩, rfl, rfl, rfl⟩
  simp only [if_neg legacy]
  by_cases column : protocol < 751
  · simp only [if_pos column]
    refine Accepts.congr (accepts_i32.bind fun x => accepts_i32.bind fun z => accepts_varint.bind
      fun count => .pure (⟨x, z, 0, count, .chunk, false⟩ : MultiBlockHeader))
        fun header bytes => ⟨?_, ?_⟩
    · rintro ⟨x, _, _, rfl, ⟨intX, rfl⟩, z, _, _, rfl, ⟨intZ, rfl⟩, count, code, _, rfl, isVarint,
        rfl, rfl⟩
      exact ⟨x, z, count, code, intX, intZ, isVarint, by simp, rfl⟩
    · rintro ⟨x, z, count, code, intX, intZ, isVarint, rfl, rfl⟩
      exact ⟨x, _, _, by rw [List.append_assoc], ⟨intX, rfl⟩, z, _, _, rfl, ⟨intZ, rfl⟩, count,
        code, [], (List.append_nil _).symm, isVarint, rfl, rfl⟩
  · simp only [if_neg column]
    refine Accepts.congr (accepts_u64.bind fun word => accepts_flag.bind fun suppress =>
      accepts_varint.bind fun count => .pure _) fun header bytes => ⟨?_, ?_⟩
    · rintro ⟨word, _, _, rfl, ⟨small, rfl⟩, suppress, flag, _, rfl, isFlag, count, code, _, rfl,
        isVarint, rfl, rfl⟩
      exact ⟨word, suppress, flag, count, code, small, isFlag, isVarint, by simp, rfl⟩
    · rintro ⟨word, suppress, flag, count, code, small, isFlag, isVarint, rfl, rfl⟩
      exact ⟨word, _, _, by rw [List.append_assoc], ⟨small, rfl⟩, suppress, flag, _, rfl, isFlag,
        count, code, [], (List.append_nil _).symm, isVarint, rfl, rfl⟩

/-- What a header and the records behind it say. -/
def MultiBlockHeader.packet (header : MultiBlockHeader) (protocol : Int) (records : List UInt8) :
    McMultiBlockChangePacket where
  chunkX := header.chunkX
  chunkZ := header.chunkZ
  sectionY := header.sectionY
  recordCount := header.count.toNat
  records := records
  format := header.format
  suppressLightUpdates := header.suppressLightUpdates
  hasLightUpdateFlag := decide (751 ≤ protocol ∧ protocol ≤ 762)

/-- A payload of a header and as many records as it counts. -/
structure IsMultiBlockChange (mode : McDecodeMode) (protocol : Int)
    (packet : McMultiBlockChangePacket) (header : MultiBlockHeader) (head : List UInt8)
    (parts : List (List UInt8)) : Prop where
  isHeader : IsMultiBlockHeader mode protocol header head
  count : header.count = parts.length
  few : parts.length ≤ mcMaxPacketArrayCount
  records : ∀ part ∈ parts, IsBlockRecord mode header.format part
  packet_eq : packet = header.packet protocol parts.flatten

theorem accepts_typedDecodeMultiBlockChange (protocol : Int) :
    Accepts mode (typedDecodeMultiBlockChange protocol).run fun packet bytes =>
      ∃ header head parts, IsMultiBlockChange mode protocol packet header head parts ∧
        bytes = head ++ parts.flatten := by
  refine ((accepts_readMultiBlockHeader protocol).bind fun header =>
    .guarded (accepts_rejectWhen 0) (((accepts_skipBlockRecord header.format).iterate
      header.count.toNat).slicedWith (f := fun _ records => header.packet protocol records))).congr
        fun packet bytes => ⟨?_, ?_⟩
  · rintro ⟨header, head, _, rfl, isHeader, bounds, _, ⟨parts, length, all, rfl⟩, rfl⟩
    rw [not_or, not_lt, not_lt] at bounds
    exact ⟨header, head, parts, ⟨isHeader, by omega, by omega, all, rfl⟩, rfl⟩
  · rintro ⟨header, head, parts, shape, rfl⟩
    have count := shape.count
    have few := shape.few
    exact ⟨header, head, _, rfl, shape.isHeader, by omega, (), ⟨parts, by omega, shape.records, rfl⟩,
      shape.packet_eq⟩

theorem isVarint_natural {packed : Nat} (small : packed < 2 ^ 31) :
    IsVarint mode packed (encodeGroups packed) := by
  have same : encodeVarint packed = encodeGroups packed := by
    rw [encodeVarint, toUnsigned_nonneg (by omega) (by omega), Int.toNat_natCast]
  exact same ▸ isVarint_encode ⟨by omega, by omega⟩

theorem isVarlong_natural {packed : Nat} (small : packed < 2 ^ 63) :
    IsVarlong mode packed (encodeGroups packed) := by
  have same : toUnsigned 64 (packed : Int) = packed := by
    rw [toUnsigned_nonneg (by omega) (by omega), Int.toNat_natCast]
  exact (isVarlong_strict.mpr ⟨⟨by omega, by omega⟩, by rw [same]⟩).relax

theorem IsReadRecord.isBlockRecord {packet : McMultiBlockChangePacket}
    {record : McBlockChangeRecord} {bytes : List UInt8} (isRead : IsReadRecord packet record bytes) :
    IsBlockRecord mode packet.format bytes := by
  unfold IsReadRecord at isRead
  cases format : packet.format with
  | legacy17 =>
      simp only [format] at isRead
      obtain ⟨horizontal, y, state, -, rfl, -⟩ := isRead
      exact congrArg (· + 2) (BigEndian.length_bytes 2 state)
  | chunk =>
      simp only [format] at isRead
      obtain ⟨horizontal, y, state, int, natural, rfl, -⟩ := isRead
      exact ⟨horizontal, y, state, _, rfl, isVarint_encode int, natural⟩
  | sectionVarlong =>
      simp only [format] at isRead
      obtain ⟨packed, small, rfl, -⟩ := isRead
      exact ⟨packed, isVarlong_natural (small.trans (by norm_num)), by omega⟩
  | sectionVarint =>
      simp only [format] at isRead
      obtain ⟨packed, small, rfl, -⟩ := isRead
      exact ⟨packed, isVarint_natural small, by omega⟩

/-- The numbers of 751 to 758 whose block state fits its `int32_t`. -/
def IsShortRecord (bytes : List UInt8) : Prop := ∃ packed < 2 ^ 43, bytes = encodeGroups packed

theorem isReadRecord_legacy {packet : McMultiBlockChangePacket} {part : List UInt8}
    (format : packet.format = .legacy17) (length : part.length = 4) :
    ∃ record, IsReadRecord packet record part := by
  match part, length with
  | [horizontal, y, high, low], _ =>
      have small : BigEndian.word [high, low] < 2 ^ 16 :=
        lt_of_lt_of_eq (BigEndian.word_lt [high, low]) (by norm_num)
      simp only [IsReadRecord, format]
      exact ⟨_, horizontal, y, BigEndian.word [high, low], small,
        by rw [BigEndian.bytes_word (show [high, low].length = 2 from rfl)], rfl⟩

/-- What strict mode accepts as a record the iterator reads, but for the numbers that are too
long. -/
theorem IsBlockRecord.isReadRecord_iff {packet : McMultiBlockChangePacket} {part : List UInt8}
    (record : IsBlockRecord .strict packet.format part) :
    (∃ read, IsReadRecord packet read part) ↔
      (packet.format = .sectionVarlong → IsShortRecord part) := by
  cases format : packet.format with
  | legacy17 =>
      rw [format] at record
      exact iff_of_true (isReadRecord_legacy format record) nofun
  | chunk =>
      rw [format] at record
      obtain ⟨horizontal, y, state, code, rfl, isVarint, natural⟩ := record
      obtain ⟨int, rfl⟩ := isVarint_strict.mp isVarint
      simp only [IsReadRecord, format]
      exact iff_of_true ⟨_, horizontal, y, state, int, natural, rfl, rfl⟩ nofun
  | sectionVarlong =>
      simp only [IsReadRecord, format, forall_const]
      constructor
      · rintro ⟨_, packed, small, same, -⟩
        exact ⟨packed, small, same⟩
      · rintro ⟨packed, small, same⟩
        exact ⟨_, packed, small, same, rfl⟩
  | sectionVarint =>
      rw [format] at record
      obtain ⟨packed, isVarint, natural⟩ := record
      obtain ⟨int, rfl⟩ := isVarint_strict.mp isVarint
      have high := int.2
      simp only [IsReadRecord, format]
      refine iff_of_true ⟨_, packed.toNat, by omega, ?_, rfl⟩ nofun
      rw [encodeVarint, toUnsigned_nonneg natural (by omega)]

/-- The iterator stands in front of records that the decoder has accepted. -/
structure McBlockChangeIterator.Ahead (iterator : McBlockChangeIterator) (mode : McDecodeMode)
    (packet : McMultiBlockChangePacket) (parts : List (List UInt8)) : Prop where
  packet_eq : iterator.packet = packet
  size_eq : iterator.reader.size = packet.records.length
  reader : iterator.reader.Ahead parts
  remaining : iterator.remaining = parts.length
  records : ∀ part ∈ parts, IsBlockRecord mode packet.format part

section calls

variable {packet : McMultiBlockChangePacket} {iterator : McBlockChangeIterator}
variable {part : List UInt8} {rest parts : List (List UInt8)} {record : McBlockChangeRecord}

theorem mcBlockChangeIteratorNext_stop (ahead : iterator.Ahead mode packet []) :
    mcBlockChangeIteratorNext iterator = (none, iterator) := by
  have none : iterator.remaining = 0 := ahead.remaining
  obtain ⟨reader, packet, remaining⟩ := iterator
  obtain rfl : remaining = 0 := none
  rfl

theorem mcBlockChangeIteratorNext_part (ahead : iterator.Ahead mode packet (part :: rest))
    (isRead : IsReadRecord packet record part) :
    ∃ next, mcBlockChangeIteratorNext iterator = (some record, next) ∧
      next.Ahead mode packet rest := by
  obtain ⟨rfl, size, reader, remaining, records⟩ := ahead
  have run := nextCounted_part reader ((accepts_readBlockRecord iterator.packet).complete isRead)
  rw [show rest.length + 1 = iterator.remaining from remaining.symm] at run
  refine ⟨⟨iterator.reader.advance part.length, iterator.packet, rest.length⟩, ?_, rfl, size,
    reader.advance, rfl, ?_⟩
  · rw [mcBlockChangeIteratorNext, run]
  · exact fun other mem => records other (List.mem_cons_of_mem part mem)

/-- A call that returns has read the record in front. -/
theorem mcBlockChangeIteratorNext_some {next : McBlockChangeIterator}
    (ahead : iterator.Ahead mode packet (part :: rest))
    (run : mcBlockChangeIteratorNext iterator = (some record, next)) :
    IsReadRecord packet record part ∧ next.Ahead mode packet rest := by
  have kept := ahead.packet_eq
  rcases counted : nextCounted (readBlockRecord iterator.packet).run iterator.reader
    iterator.remaining with ⟨found, reader, left⟩
  simp only [mcBlockChangeIteratorNext, counted, Prod.mk.injEq] at run
  obtain ⟨rfl, rfl⟩ := run
  obtain ⟨-, ran⟩ := nextCounted_eq_some counted
  rw [kept] at ran
  obtain ⟨bytes, tail, split, isRead, -⟩ :=
    (accepts_readBlockRecord packet).sound ahead.reader.strict ahead.reader.before ran
  -- the decoder and the iterator end the record at the same byte
  obtain ⟨-, same, -⟩ := (accepts_skipBlockRecord packet.format).unambiguous (a := ()) (b := ())
    (ahead.records part List.mem_cons_self) isRead.isBlockRecord split
  obtain rfl := same
  obtain ⟨after, again, behind⟩ := mcBlockChangeIteratorNext_part ahead isRead
  rw [mcBlockChangeIteratorNext, counted] at again
  cases again
  exact ⟨isRead, behind⟩

end calls

/-- What an accepted packet gives the iterator: the records, one after the other. -/
theorem IsMultiBlockChange.iterator {packet : McMultiBlockChangePacket}
    {header : MultiBlockHeader} {head : List UInt8} {parts : List (List UInt8)}
    (shape : IsMultiBlockChange mode protocol packet header head parts) :
    ∃ iterator, mcMultiBlockChangeIterator packet = some iterator ∧
      iterator.Ahead mode packet parts := by
  obtain rfl := shape.packet_eq
  have count : header.count.toNat = parts.length := by
    rw [shape.count, Int.toNat_natCast]
  have few : ¬ mcMaxPacketArrayCount < header.count.toNat := by
    rw [count]
    exact not_lt.mpr shape.few
  exact ⟨_, if_neg few, rfl, rfl, sliceReader_ahead parts, count, shape.records⟩

/-- The iterator returns as many records as the packet counts, reads the whole slice with them,
and returns no more. -/
def McMultiBlockChangePacket.Iterates (packet : McMultiBlockChangePacket) : Prop :=
  ∃ iterator records last, mcMultiBlockChangeIterator packet = some iterator ∧
    Drains mcBlockChangeIteratorNext iterator records last ∧
    records.length = packet.recordCount ∧
    last.reader.failed = false ∧ last.reader.offset = packet.records.length

/-- Where the records can all be read the iterator goes through them, and only there. -/
theorem IsMultiBlockChange.iterates_iff {packet : McMultiBlockChangePacket}
    {header : MultiBlockHeader} {head : List UInt8} {parts : List (List UInt8)}
    (shape : IsMultiBlockChange mode protocol packet header head parts) :
    packet.Iterates ↔ ∀ part ∈ parts, ∃ record, IsReadRecord packet record part := by
  obtain ⟨iterator, made, ahead⟩ := shape.iterator
  have count : packet.recordCount = parts.length := by
    rw [shape.packet_eq]
    change header.count.toNat = _
    rw [shape.count, Int.toNat_natCast]
  constructor
  · rintro ⟨_, records, last, made', ⟨yields, -⟩, length, -⟩
    obtain rfl : iterator = _ := Option.some.inj (made.symm.trans made')
    obtain ⟨front, back, split, all, -⟩ := yields.parts
      (fun parts iterator => iterator.Ahead mode packet parts)
      (fun part record => IsReadRecord packet record part)
      (fun _ _ _ _ _ ahead run => mcBlockChangeIteratorNext_some ahead run)
      (fun _ ahead => congrArg Prod.fst (mcBlockChangeIteratorNext_stop ahead)) ahead
    -- as many records as parts leave no part behind
    have whole : back = [] := by
      have lengths := congrArg List.length split
      rw [List.length_append, all.length_eq, length, count] at lengths
      exact List.length_eq_zero_iff.mp (by omega)
    rw [split, whole, List.append_nil]
    intro part mem
    obtain ⟨record, -, isRead⟩ := Iteration.exists_item all mem
    exact ⟨record, isRead⟩
  · intro readable
    obtain ⟨records, last, yields, all, stop⟩ := Iteration.yields_of_parts
      (fun parts (iterator : McBlockChangeIterator) => iterator.Ahead mode packet parts ∧
        ∀ part ∈ parts, ∃ record, IsReadRecord packet record part)
      (fun part record => IsReadRecord packet record part)
      (fun part rest iterator ⟨ahead, readable⟩ => by
        obtain ⟨record, isRead⟩ := readable part List.mem_cons_self
        obtain ⟨next, run, behind⟩ := mcBlockChangeIteratorNext_part ahead isRead
        exact ⟨record, next, run, isRead, behind,
          fun other mem => readable other (List.mem_cons_of_mem part mem)⟩)
      ⟨ahead, readable⟩
    refine ⟨iterator, records, last, made, ⟨yields, mcBlockChangeIteratorNext_stop stop.1⟩, ?_,
      stop.1.reader.before.clean, ?_⟩
    · rw [← all.length_eq, count]
    · have size := stop.1.reader.before.size_eq
      rw [stop.1.size_eq] at size
      exact size.symm

section headers

variable {header : MultiBlockHeader} {head : List UInt8}

theorem IsMultiBlockHeader.format_eq (isHeader : IsMultiBlockHeader mode protocol header head) :
    header.format = if protocol ≤ 5 then .legacy17 else if protocol < 751 then .chunk
      else if protocol ≤ 758 then .sectionVarlong else .sectionVarint := by
  unfold IsMultiBlockHeader at isHeader
  by_cases legacy : protocol ≤ 5
  · simp only [if_pos legacy] at isHeader ⊢
    obtain ⟨_, _, _, _, _, _, _, rfl⟩ := isHeader
    rfl
  by_cases column : protocol < 751
  · simp only [if_neg legacy, if_pos column] at isHeader ⊢
    obtain ⟨_, _, _, _, _, _, _, _, rfl⟩ := isHeader
    rfl
  · simp only [if_neg legacy, if_neg column] at isHeader ⊢
    obtain ⟨_, _, _, _, _, _, _, _, _, rfl⟩ := isHeader
    rfl

theorem IsMultiBlockHeader.varlong_iff (isHeader : IsMultiBlockHeader mode protocol header head) :
    header.format = .sectionVarlong ↔ 751 ≤ protocol ∧ protocol ≤ 758 := by
  rw [isHeader.format_eq]
  split_ifs <;> simp <;> omega

/-- From 751 to 762 the count stands behind the section and the flag. -/
theorem IsMultiBlockHeader.flagged (isHeader : IsMultiBlockHeader mode protocol header head)
    (low : 751 ≤ protocol) (high : protocol ≤ 762) :
    ∃ front code, head = front ++ code ∧ front.length = 9 ∧ IsVarint mode header.count code := by
  have late : ¬ protocol ≤ 5 := by omega
  have sections : ¬ protocol < 751 := by omega
  simp only [IsMultiBlockHeader, if_neg late, if_neg sections] at isHeader
  obtain ⟨word, suppress, flag, count, code, -, isFlag, isVarint, rfl, rfl⟩ := isHeader
  obtain ⟨-, byte, rfl, -⟩ | ⟨absent, -⟩ := isFlag
  · exact ⟨_, code, rfl, by simp, isVarint⟩
  · exact absurd high absent

end headers

/-- The records of a payload of 751 to 758 are numbers whose block states have 31 bits at
most. -/
def HasShortRecords (payload : List UInt8) : Prop :=
  ∃ (front code : List UInt8) (packed : List Nat), front.length = 9 ∧
    IsVarint .strict packed.length code ∧ (∀ number ∈ packed, number < 2 ^ 43) ∧
    payload = front ++ code ++ (packed.map encodeGroups).flatten

theorem IsShortRecord.isBlockRecord {part : List UInt8} (short : IsShortRecord part) :
    IsBlockRecord mode .sectionVarlong part := by
  obtain ⟨packed, small, rfl⟩ := short
  exact ⟨packed, isVarlong_natural (small.trans (by norm_num)), by omega⟩

/-- The records of an accepted payload are the ones that the payload shows. -/
theorem IsMultiBlockChange.hasShortRecords_iff {packet : McMultiBlockChangePacket}
    {header : MultiBlockHeader} {head : List UInt8} {parts : List (List UInt8)}
    (shape : IsMultiBlockChange .strict protocol packet header head parts)
    (low : 751 ≤ protocol) (high : protocol ≤ 758) :
    HasShortRecords (head ++ parts.flatten) ↔ ∀ part ∈ parts, IsShortRecord part := by
  obtain ⟨front, code, rfl, nine, isVarint⟩ := shape.isHeader.flagged low (by omega)
  have format := shape.isHeader.varlong_iff.mpr ⟨low, high⟩
  have records := shape.records
  rw [format] at records
  rw [shape.count] at isVarint
  constructor
  · rintro ⟨front', code', packed, nine', isVarint', small, same⟩
    rw [List.append_assoc, List.append_assoc] at same
    obtain ⟨rfl, counted⟩ := List.append_inj same (nine.trans nine'.symm)
    obtain ⟨length, rfl, records_eq⟩ := accepts_varint.unambiguous isVarint isVarint' counted
    have shown : ∀ part ∈ packed.map encodeGroups, IsShortRecord part := by
      intro part mem
      obtain ⟨number, listed, rfl⟩ := List.mem_map.mp mem
      exact ⟨number, small number listed, rfl⟩
    have parts_eq := (accepts_skipBlockRecord .sectionVarlong).flatten_unambiguous records
      (fun part mem => (shown part mem).isBlockRecord) (by simpa using length) records_eq
    rw [parts_eq]
    exact shown
  · intro short
    obtain ⟨packed, small, rfl⟩ := exists_map_of_parts short
    rw [List.length_map] at isVarint
    exact ⟨front, code, packed, nine, isVarint, small, rfl⟩

/-- Of what strict mode accepts the iterator goes through the records, except for the releases
751 to 758, whose decoder does not limit the block state: there it does exactly when all
block states fit. -/
theorem blockChangeIterator_agrees (library : PacketLibrary) (arguments : McDecodeArguments)
    (error : Option McError) (packet : McMultiBlockChangePacket)
    (accepted : (mcDecodePacket library { arguments with mode := 1 } error).packet =
      some (.multiBlockChange packet)) :
    packet.Iterates ↔ (751 ≤ arguments.protocol ∧ arguments.protocol ≤ 758 →
      HasShortRecords arguments.payload.content) := by
  obtain ⟨after, accepted⟩ := mcDecodePacket_accepted accepted
  obtain ⟨header, head, parts, shape, split⟩ := (accepts_typedDecodeMultiBlockChange
    arguments.protocol).payload (show _ = McDecodeMode.strict from rfl) accepted.decoded
      accepted.whole
  have split : arguments.payload.content = head ++ parts.flatten := split
  have format : packet.format = header.format := by
    rw [shape.packet_eq]
    rfl
  have readable : (∀ part ∈ parts, ∃ record, IsReadRecord packet record part) ↔
      (packet.format = .sectionVarlong → ∀ part ∈ parts, IsShortRecord part) := by
    constructor
    · intro readable varlong part mem
      exact (IsBlockRecord.isReadRecord_iff (format ▸ shape.records part mem)).mp
        (readable part mem) varlong
    · intro short part mem
      exact (IsBlockRecord.isReadRecord_iff (format ▸ shape.records part mem)).mpr
        fun varlong => short varlong part mem
  rw [shape.iterates_iff, readable, format, shape.isHeader.varlong_iff, split]
  exact forall_congr' fun release => (shape.hasShortRecords_iff release.1 release.2).symm

/-- One record of 751 whose block state has 32 bits. -/
theorem blockChangeIterator_agrees_long_state :
    let packet : McMultiBlockChangePacket :=
      ⟨0, 0, 0, 1, [0x80, 0x80, 0x80, 0x80, 0x80, 0x80, 0x02], .sectionVarlong, false, true⟩
    (mcDecodePacket (plainLibrary ["multi_block_change"] 40 (by decide))
      (playArguments 751 1 0 1 ([0, 0, 0, 0, 0, 0, 0, 0, 0, 1] ++ packet.records) 40) none).packet =
        some (.multiBlockChange packet) ∧ ¬ packet.Iterates := by
  intro packet
  refine ⟨by decide +kernel, ?_⟩
  rintro ⟨iterator, records, last, made, ⟨yields, -⟩, length, -⟩
  obtain rfl := Option.some.inj made
  cases yields with
  | nil => cases length
  | cons run _ =>
      have refused : (mcBlockChangeIteratorNext ⟨sliceReader packet.records, packet, 1⟩).1 = none := by
        decide +kernel
      have returned := congrArg Prod.fst run
      cases refused.symm.trans returned

theorem blockChangeIterator_agrees_section :
    let packet : McMultiBlockChangePacket := ⟨0, 0, 0, 1, [0x80, 0x20], .sectionVarlong, false, true⟩
    packet.Iterates ↔ (751 ≤ (751 : Int) ∧ (751 : Int) ≤ 758 →
      HasShortRecords [0, 0, 0, 0, 0, 0, 0, 0, 0, 1, 0x80, 0x20]) :=
  blockChangeIterator_agrees (plainLibrary ["multi_block_change"] 40 (by decide))
    (playArguments 751 1 0 1 [0, 0, 0, 0, 0, 0, 0, 0, 0, 1, 0x80, 0x20] 40) none _
    (by decide +kernel)

/-- `chunk * 16 + offset` is computed without leaving `int32_t`. -/
structure ExactCoordinate (chunk offset coordinate : Int) : Prop where
  product : IsInt32 (chunk * 16)
  sum : IsInt32 (chunk * 16 + offset)
  coordinate_eq : coordinate = chunk * 16 + offset

/-- The chunk coordinates whose blocks have `int32_t` coordinates. -/
def IsNearChunk (chunk : Int) : Prop := -2 ^ 27 ≤ chunk ∧ chunk < 2 ^ 27

theorem exactCoordinate_iff {chunk : Int} {offset : Nat} (inside : offset < 16) :
    ExactCoordinate chunk offset (blockCoordinate chunk offset) ↔ IsNearChunk chunk := by
  constructor
  · rintro ⟨⟨low, high⟩, -, -⟩
    exact ⟨by omega, by omega⟩
  · rintro ⟨low, high⟩
    have product : IsInt32 (chunk * 16) := ⟨by omega, by omega⟩
    have sum : IsInt32 (chunk * 16 + offset) := ⟨by omega, by omega⟩
    refine ⟨product, sum, ?_⟩
    rw [blockCoordinate, mulInt32, toSigned_toUnsigned_32 product, addInt32,
      toSigned_toUnsigned_32 sum]

/-- The places in the chunk or the section, as a record of the format has them. -/
structure BlockOffsets where
  x : Nat
  y : Nat
  z : Nat

def blockOffsets : McMultiBlockRecordFormat → Nat → BlockOffsets
  | .legacy17, rawRecord =>
      ⟨rawRecord >>> 24 >>> 4, rawRecord >>> 16 &&& 0xff, rawRecord >>> 24 &&& 0x0f⟩
  | .chunk, rawRecord => ⟨rawRecord >>> 8 >>> 4, rawRecord &&& 0xff, rawRecord >>> 8 &&& 0x0f⟩
  | _, rawRecord => ⟨rawRecord >>> 8 &&& 0x0f, rawRecord &&& 0x0f, rawRecord >>> 4 &&& 0x0f⟩

/-- A record of a section, whose height is counted in sections too. -/
def McMultiBlockRecordFormat.OfSection (format : McMultiBlockRecordFormat) : Prop :=
  format = .sectionVarlong ∨ format = .sectionVarint

/-- The position of a record is the one it says, and no step to it overflows. -/
structure McBlockChangeRecord.Exact (record : McBlockChangeRecord)
    (packet : McMultiBlockChangePacket) : Prop where
  x : ExactCoordinate packet.chunkX (blockOffsets packet.format record.rawRecord).x record.position.x
  z : ExactCoordinate packet.chunkZ (blockOffsets packet.format record.rawRecord).z record.position.z
  y : packet.format.OfSection → ExactCoordinate packet.sectionY
    (blockOffsets packet.format record.rawRecord).y record.position.y
  column : ¬ packet.format.OfSection →
    record.position.y = (blockOffsets packet.format record.rawRecord).y

/-- All blocks of the packet have `int32_t` coordinates. -/
structure McMultiBlockChangePacket.Near (packet : McMultiBlockChangePacket) : Prop where
  x : IsNearChunk packet.chunkX
  z : IsNearChunk packet.chunkZ
  y : packet.format.OfSection → IsNearChunk packet.sectionY

theorem nibble_lt (value : Nat) : value &&& 0x0f < 16 :=
  Nat.and_lt_two_pow value (show 0x0f < 2 ^ 4 by norm_num)

theorem high_nibble_lt (byte : UInt8) : byte.toNat >>> 4 < 16 := by
  have small := byte.toNat_lt
  rw [Nat.shiftRight_eq_div_pow]
  omega

/-- The bytes of a record of a column are found in its raw number. -/
theorem blockOffsets_legacy (horizontal y : UInt8) {state : Nat} (small : state < 2 ^ 16) :
    blockOffsets .legacy17 (horizontal.toNat <<< 24 ||| y.toNat <<< 16 ||| state) =
      ⟨horizontal.toNat >>> 4, y.toNat, horizontal.toNat &&& 0x0f⟩ := by
  have low := y.toNat_lt
  have tail : y.toNat <<< 16 ||| state = y.toNat * 2 ^ 16 + state := by
    rw [← Nat.shiftLeft_add_eq_or_of_lt small, Nat.shiftLeft_eq]
  have raw : horizontal.toNat <<< 24 ||| y.toNat <<< 16 ||| state =
      horizontal.toNat * 2 ^ 24 + (y.toNat * 2 ^ 16 + state) := by
    rw [Nat.or_assoc, tail, ← Nat.shiftLeft_add_eq_or_of_lt (by omega), Nat.shiftLeft_eq]
  have first : (horizontal.toNat * 2 ^ 24 + (y.toNat * 2 ^ 16 + state)) >>> 24 =
      horizontal.toNat := by
    rw [Nat.shiftRight_eq_div_pow]
    omega
  have second : (horizontal.toNat * 2 ^ 24 + (y.toNat * 2 ^ 16 + state)) >>> 16 &&& 0xff =
      y.toNat := by
    rw [Nat.shiftRight_eq_div_pow, show 0xff = 2 ^ 8 - 1 by norm_num, Nat.and_two_pow_sub_one_eq_mod]
    omega
  rw [blockOffsets, raw, first, second]

theorem blockOffsets_chunk (horizontal y : UInt8) :
    blockOffsets .chunk (horizontal.toNat <<< 8 ||| y.toNat) =
      ⟨horizontal.toNat >>> 4, y.toNat, horizontal.toNat &&& 0x0f⟩ := by
  have low := y.toNat_lt
  have raw : horizontal.toNat <<< 8 ||| y.toNat = horizontal.toNat * 2 ^ 8 + y.toNat := by
    rw [← Nat.shiftLeft_add_eq_or_of_lt low, Nat.shiftLeft_eq]
  have first : (horizontal.toNat * 2 ^ 8 + y.toNat) >>> 8 = horizontal.toNat := by
    rw [Nat.shiftRight_eq_div_pow]
    omega
  have second : (horizontal.toNat * 2 ^ 8 + y.toNat) &&& 0xff = y.toNat := by
    rw [show 0xff = 2 ^ 8 - 1 by norm_num, Nat.and_two_pow_sub_one_eq_mod]
    omega
  rw [blockOffsets, raw, first, second]

section exactness

variable {packet : McMultiBlockChangePacket} {record : McBlockChangeRecord}

theorem columnRecord_exact {horizontal y : UInt8} {stateId : Int} {rawRecord : Nat}
    (column : ¬ packet.format.OfSection)
    (offsets : blockOffsets packet.format rawRecord =
      ⟨horizontal.toNat >>> 4, y.toNat, horizontal.toNat &&& 0x0f⟩) :
    (columnRecord packet horizontal y stateId rawRecord).Exact packet ↔ packet.Near := by
  constructor
  · rintro ⟨x, z, -, -⟩
    simp only [columnRecord, offsets] at x z
    exact ⟨(exactCoordinate_iff (high_nibble_lt horizontal)).mp x,
      (exactCoordinate_iff (nibble_lt _)).mp z, fun sections => absurd sections column⟩
  · rintro ⟨x, z, -⟩
    refine ⟨?_, ?_, fun sections => absurd sections column, fun _ => ?_⟩ <;>
      simp only [columnRecord, offsets]
    · exact (exactCoordinate_iff (high_nibble_lt horizontal)).mpr x
    · exact (exactCoordinate_iff (nibble_lt _)).mpr z

theorem sectionRecord_exact {packed : Nat} (sections : packet.format.OfSection) :
    (sectionRecord packet packed).Exact packet ↔ packet.Near := by
  have offsets : blockOffsets packet.format packed =
      ⟨packed >>> 8 &&& 0x0f, packed &&& 0x0f, packed >>> 4 &&& 0x0f⟩ := by
    rcases sections with format | format <;> rw [format, blockOffsets] <;> simp
  constructor
  · rintro ⟨x, z, y, -⟩
    simp only [sectionRecord, offsets] at x z y
    exact ⟨(exactCoordinate_iff (nibble_lt _)).mp x, (exactCoordinate_iff (nibble_lt _)).mp z,
      fun sections => (exactCoordinate_iff (nibble_lt _)).mp (y sections)⟩
  · rintro ⟨x, z, y⟩
    refine ⟨?_, ?_, fun sections => ?_, fun column => absurd sections column⟩ <;>
      simp only [sectionRecord, offsets]
    · exact (exactCoordinate_iff (nibble_lt _)).mpr x
    · exact (exactCoordinate_iff (nibble_lt _)).mpr z
    · exact (exactCoordinate_iff (nibble_lt _)).mpr (y sections)

/-- Whether positions overflow depends on the packet alone. -/
theorem IsReadRecord.exact_iff {bytes : List UInt8} (isRead : IsReadRecord packet record bytes) :
    record.Exact packet ↔ packet.Near := by
  unfold IsReadRecord at isRead
  cases format : packet.format with
  | legacy17 =>
      simp only [format] at isRead
      obtain ⟨horizontal, y, state, small, -, rfl⟩ := isRead
      exact columnRecord_exact (by simp [McMultiBlockRecordFormat.OfSection, format])
        (format ▸ blockOffsets_legacy horizontal y small)
  | chunk =>
      simp only [format] at isRead
      obtain ⟨horizontal, y, state, -, -, -, rfl⟩ := isRead
      exact columnRecord_exact (by simp [McMultiBlockRecordFormat.OfSection, format])
        (format ▸ blockOffsets_chunk horizontal y)
  | sectionVarlong =>
      simp only [format] at isRead
      obtain ⟨packed, -, -, rfl⟩ := isRead
      exact sectionRecord_exact (.inl format)
  | sectionVarint =>
      simp only [format] at isRead
      obtain ⟨packed, -, -, rfl⟩ := isRead
      exact sectionRecord_exact (.inr format)

end exactness

/-- The positions that the iterator returns are exact. -/
def McMultiBlockChangePacket.ExactPositions (packet : McMultiBlockChangePacket) : Prop :=
  ∀ iterator records last, mcMultiBlockChangeIterator packet = some iterator →
    Yields mcBlockChangeIteratorNext iterator records last → ∀ record ∈ records, record.Exact packet

/-- The positions are exact unless the first record is read and the blocks are too far out. -/
theorem IsMultiBlockChange.exactPositions_iff {packet : McMultiBlockChangePacket}
    {header : MultiBlockHeader} {head : List UInt8} {parts : List (List UInt8)}
    (shape : IsMultiBlockChange mode protocol packet header head parts) :
    packet.ExactPositions ↔
      ((∃ part ∈ parts.head?, ∃ record, IsReadRecord packet record part) → packet.Near) := by
  obtain ⟨iterator, made, ahead⟩ := shape.iterator
  constructor
  · rintro exact_positions ⟨part, first, record, isRead⟩
    obtain ⟨rest, rfl⟩ := List.head?_eq_some_iff.mp first
    obtain ⟨next, run, -⟩ := mcBlockChangeIteratorNext_part ahead isRead
    have exact_record := exact_positions iterator [record] next made (.cons run (.nil next)) record
      List.mem_cons_self
    exact isRead.exact_iff.mp exact_record
  · intro near iterator' records last made' yields record mem
    obtain rfl : iterator = iterator' := Option.some.inj (made.symm.trans made')
    obtain ⟨front, back, rfl, all, -⟩ := yields.parts
      (fun parts iterator => iterator.Ahead mode packet parts)
      (fun part record => IsReadRecord packet record part)
      (fun _ _ _ _ _ ahead run => mcBlockChangeIteratorNext_some ahead run)
      (fun _ ahead => congrArg Prod.fst (mcBlockChangeIteratorNext_stop ahead)) ahead
    obtain ⟨part, -, isRead⟩ := Iteration.exists_part all mem
    refine isRead.exact_iff.mpr (near ?_)
    cases all with
    | nil => cases mem
    | cons related _ => exact ⟨_, rfl, _, related⟩

/-- The next `int32_t`. -/
def wireInt32 (bytes : List UInt8) : Int := toSigned 32 (BigEndian.word (bytes.take 4))

theorem wireInt32_append {value : Int} (int : IsInt32 value) (rest : List UInt8) :
    wireInt32 (int32Bytes value ++ rest) = value := by
  have small : toUnsigned 32 value < 256 ^ 4 := (toUnsigned_lt 32 value).trans_eq (by norm_num)
  rw [wireInt32, List.take_left' (by simp), BigEndian.word_bytes, Nat.mod_eq_of_lt small,
    toSigned_toUnsigned_32 int]

/-- The payload of a release before 751 has a record that the iterator reads: a block state in
front that is not over-long. -/
def OffersRecord (protocol : Int) (payload : List UInt8) : Prop :=
  if protocol ≤ 5 then 14 < payload.length
  else ∃ (front code : List UInt8) (count state : Int) (horizontal y : UInt8) (rest : List UInt8),
    front.length = 8 ∧ IsVarint .vanillaCompat count code ∧ IsInt32 state ∧
    payload = front ++ code ++ (horizontal :: y :: encodeVarint state) ++ rest

section payloads

variable {packet : McMultiBlockChangePacket} {header : MultiBlockHeader} {head : List UInt8}
variable {parts : List (List UInt8)}

theorem IsMultiBlockChange.format_eq
    (shape : IsMultiBlockChange mode protocol packet header head parts) :
    packet.format = header.format := by
  rw [shape.packet_eq]
  rfl

theorem IsMultiBlockChange.offersRecord_iff
    (shape : IsMultiBlockChange mode protocol packet header head parts) (column : protocol < 751) :
    OffersRecord protocol (head ++ parts.flatten) ↔
      ∃ part ∈ parts.head?, ∃ record, IsReadRecord packet record part := by
  have records := shape.records
  have isHeader := shape.isHeader
  have format := shape.format_eq.trans isHeader.format_eq
  rw [isHeader.format_eq] at records
  unfold OffersRecord
  unfold IsMultiBlockHeader at isHeader
  by_cases legacy : protocol ≤ 5
  · simp only [if_pos legacy] at isHeader records format ⊢
    obtain ⟨x, z, count, -, -, -, rfl, -⟩ := isHeader
    cases parts with
    | nil => simp
    | cons part rest =>
        have length : part.length = 4 := records part List.mem_cons_self
        refine iff_of_true ?_ ⟨part, rfl, isReadRecord_legacy format length⟩
        simp only [List.flatten_cons, List.length_append, BigEndian.length_bytes, length]
        omega
  · simp only [if_neg legacy, if_pos column] at isHeader records format ⊢
    obtain ⟨x, z, count, code, -, -, isVarint, rfl, -⟩ := isHeader
    constructor
    · rintro ⟨front, code', count', state, horizontal, y, rest, eight, isVarint', int, same⟩
      have front_length : (int32Bytes x ++ int32Bytes z).length = front.length := by simp [eight]
      simp only [List.append_assoc] at same
      rw [← List.append_assoc (int32Bytes x)] at same
      obtain ⟨-, counted⟩ := List.append_inj same front_length
      obtain ⟨-, -, found⟩ := accepts_varint.unambiguous isVarint.compat isVarint' counted
      cases parts with
      | nil => cases found
      | cons part tail =>
          obtain ⟨horizontal', y', state', code, rfl, isState, natural⟩ :=
            records part List.mem_cons_self
          simp only [List.flatten_cons, List.cons_append, List.cons.injEq] at found
          obtain ⟨rfl, rfl, found⟩ := found
          obtain ⟨rfl, rfl, -⟩ := accepts_varint.unambiguous isState.compat
            (isVarint_encode int) found
          refine ⟨_, rfl, ?_⟩
          simp only [IsReadRecord, format]
          exact ⟨_, horizontal', y', state', int, natural, rfl, rfl⟩
    · rintro ⟨part, first, record, isRead⟩
      obtain ⟨rest, rfl⟩ := List.head?_eq_some_iff.mp first
      simp only [IsReadRecord, format] at isRead
      obtain ⟨horizontal, y, state, int, -, rfl, -⟩ := isRead
      exact ⟨int32Bytes x ++ int32Bytes z, code, count, state, horizontal, y, rest.flatten,
        by simp, isVarint.compat, int, by simp⟩

/-- The chunk of a release before 751 is where the first eight bytes say. -/
theorem IsMultiBlockChange.near_iff
    (shape : IsMultiBlockChange mode protocol packet header head parts) (column : protocol < 751) :
    packet.Near ↔ IsNearChunk (wireInt32 (head ++ parts.flatten)) ∧
      IsNearChunk (wireInt32 ((head ++ parts.flatten).drop 4)) := by
  have isHeader := shape.isHeader
  have chunk : ∃ x z rest, IsInt32 x ∧ IsInt32 z ∧
      head ++ parts.flatten = int32Bytes x ++ (int32Bytes z ++ rest) ∧ header.chunkX = x ∧
      header.chunkZ = z ∧ ¬ header.format.OfSection := by
    unfold IsMultiBlockHeader at isHeader
    by_cases legacy : protocol ≤ 5
    · simp only [if_pos legacy] at isHeader
      obtain ⟨x, z, count, intX, intZ, -, rfl, rfl⟩ := isHeader
      exact ⟨x, z, _, intX, intZ, by simp only [List.append_assoc]; rfl, rfl, rfl,
        by simp [McMultiBlockRecordFormat.OfSection]⟩
    · simp only [if_neg legacy, if_pos column] at isHeader
      obtain ⟨x, z, count, code, intX, intZ, -, rfl, rfl⟩ := isHeader
      exact ⟨x, z, _, intX, intZ, by simp only [List.append_assoc]; rfl, rfl, rfl,
        by simp [McMultiBlockRecordFormat.OfSection]⟩
  obtain ⟨x, z, rest, intX, intZ, split, chunkX, chunkZ, other⟩ := chunk
  obtain rfl := shape.packet_eq
  rw [split, wireInt32_append intX, List.drop_left' (by simp), wireInt32_append intZ]
  constructor
  · rintro ⟨nearX, nearZ, -⟩
    exact ⟨chunkX ▸ nearX, chunkZ ▸ nearZ⟩
  · rintro ⟨nearX, nearZ⟩
    rw [← chunkX] at nearX
    rw [← chunkZ] at nearZ
    exact ⟨nearX, nearZ, fun sections => absurd sections other⟩

theorem isNearChunk_typedSignExtend (word : Nat) {bits : Nat} (positive : 0 < bits)
    (few : bits ≤ 28) : IsNearChunk (typedSignExtend word bits) := by
  obtain ⟨low, high⟩ := toSigned_bounds positive (Nat.mod_lt word (Nat.two_pow_pos bits))
  have grows : (2 ^ (bits - 1) : Int) ≤ 2 ^ 27 := pow_le_pow_right₀ (by norm_num) (by omega)
  exact ⟨by rw [typedSignExtend]; omega, by rw [typedSignExtend]; omega⟩

/-- The coordinates of a section have 22 and 20 bits. -/
theorem IsMultiBlockChange.near_section
    (shape : IsMultiBlockChange mode protocol packet header head parts) (late : 751 ≤ protocol) :
    packet.Near := by
  have isHeader := shape.isHeader
  simp only [IsMultiBlockHeader, if_neg (show ¬ protocol ≤ 5 by omega),
    if_neg (show ¬ protocol < 751 by omega)] at isHeader
  obtain ⟨word, _, _, _, _, -, -, -, -, rfl⟩ := isHeader
  obtain rfl := shape.packet_eq
  exact ⟨isNearChunk_typedSignExtend _ (by norm_num) (by norm_num),
    isNearChunk_typedSignExtend _ (by norm_num) (by norm_num),
    fun _ => isNearChunk_typedSignExtend _ (by norm_num) (by norm_num)⟩

end payloads

/-- The positions of an accepted payload are computed without overflow from 751 on, and before
where the chunk is near or no record is read. -/
theorem blockChangeIterator_positions (library : PacketLibrary) (arguments : McDecodeArguments)
    (error : Option McError) (packet : McMultiBlockChangePacket)
    (accepted : (mcDecodePacket library arguments error).packet = some (.multiBlockChange packet)) :
    packet.ExactPositions ↔ 751 ≤ arguments.protocol ∨
      ¬ OffersRecord arguments.protocol arguments.payload.content ∨
      (IsNearChunk (wireInt32 arguments.payload.content) ∧
        IsNearChunk (wireInt32 (arguments.payload.content.drop 4))) := by
  obtain ⟨after, accepted⟩ := mcDecodePacket_accepted accepted
  obtain ⟨mode, moded⟩ : ∃ mode, (arguments.bodyReader error).mode = mode := ⟨_, rfl⟩
  obtain ⟨header, head, parts, shape, split⟩ :=
    (accepts_typedDecodeMultiBlockChange arguments.protocol).payload moded accepted.decoded
      accepted.whole
  rw [shape.exactPositions_iff]
  by_cases late : 751 ≤ arguments.protocol
  · exact iff_of_true (fun _ => shape.near_section late) (.inl late)
  · rw [split, shape.near_iff (by omega), ← shape.offersRecord_iff (by omega)]
    simp only [late, false_or]
    exact imp_iff_not_or

/-- A chunk of 47 that lies 2 ^ 27 chunks out. -/
theorem blockChangeIterator_positions_far :
    let packet : McMultiBlockChangePacket :=
      ⟨2 ^ 27, 0, 0, 1, [0, 0, 0], .chunk, false, false⟩
    (mcDecodePacket (plainLibrary ["multi_block_change"] 40 (by decide))
      (playArguments 47 1 0 1 [8, 0, 0, 0, 0, 0, 0, 0, 1, 0, 0, 0] 40) none).packet =
        some (.multiBlockChange packet) ∧ ¬ packet.ExactPositions := by
  intro packet
  refine ⟨by decide +kernel, fun exact_positions => ?_⟩
  have isRead : IsReadRecord packet (columnRecord packet 0 0 0 0) [0, 0, 0] :=
    ⟨0, 0, 0, ⟨by norm_num, by norm_num⟩, le_refl 0, by decide +kernel, rfl⟩
  have ahead : (⟨sliceReader [0, 0, 0], packet, 1⟩ : McBlockChangeIterator).Ahead .strict packet
      [[0, 0, 0]] :=
    ⟨rfl, rfl, sliceReader_ahead [[0, 0, 0]], rfl, by simpa using isRead.isBlockRecord⟩
  obtain ⟨next, run, -⟩ := mcBlockChangeIteratorNext_part ahead isRead
  have overflow := exact_positions _ _ _ rfl (.cons run (.nil next)) _ List.mem_cons_self
  have high := overflow.x.product.2
  norm_num [packet] at high

/-- Two blocks of the chunk at -1 and 2. -/
theorem blockChangeIterator_positions_near :
    let payload : List UInt8 :=
      [255, 255, 255, 255, 0, 0, 0, 2, 2, 0x34, 70, 5, 0xa1, 12, 0x80, 1]
    let packet : McMultiBlockChangePacket :=
      ⟨-1, 2, 0, 2, [0x34, 70, 5, 0xa1, 12, 0x80, 1], .chunk, false, false⟩
    packet.ExactPositions ↔ 751 ≤ (47 : Int) ∨ ¬ OffersRecord 47 payload ∨
      (IsNearChunk (wireInt32 payload) ∧ IsNearChunk (wireInt32 (payload.drop 4))) :=
  blockChangeIterator_positions (plainLibrary ["multi_block_change"] 40 (by decide))
    (playArguments 47 1 0 1 [255, 255, 255, 255, 0, 0, 0, 2, 2, 0x34, 70, 5, 0xa1, 12, 0x80, 1] 40)
    none _ (by decide +kernel)

end McProtocol
