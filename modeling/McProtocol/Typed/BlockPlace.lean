import McProtocol.Direct.LegacyItem
import McProtocol.Typed.BlockDig
import McProtocol.Typed.PlainItems

/-! # Placing a block

A placement is built and decoded in five layouts. Up to 5 its height is one byte, and the decoder
takes the greatest for the height of an item used in the air.
-/

namespace McProtocol

/-- Sixteenths of what is between 0 and 1 are between 0 and 16. -/
theorem InUnit.sixteenths {value : McFloat} (inside : InUnit value) :
    0 ≤ sixteenths value ∧ sixteenths value ≤ 16 := by
  obtain ⟨finite, low, high⟩ := inside
  obtain ⟨number, -⟩ := Ieee.Binary.ordinary_of_isFinite finite
  have zero : (0 : McFloat).isNan = false ∧ (0 : McFloat).units = 0 := by decide +kernel
  have one : (1 : McFloat).isNan = false ∧ (1 : McFloat).units = 2 ^ 149 := by decide +kernel
  have sixteen : (16 : McFloat).isFinite = true ∧ (16 : McFloat).negative = false ∧
      (16 : McFloat).absUnits = 2 ^ 4 * Ieee.binary32.one := by decide +kernel
  have natural : 0 ≤ value.units := by
    by_contra below
    exact low ⟨number, zero.1, by rw [zero.2]; omega⟩
  have small : value.units ≤ 2 ^ 149 := by
    by_contra above
    exact high ⟨one.1, number, by rw [one.2]; omega⟩
  have size : value.absUnits * 2 ^ 4 ≤ 2 ^ 153 := by
    have units := small
    unfold Ieee.Binary.units at units natural
    split_ifs at units natural <;> omega
  obtain ⟨least, greatest⟩ := Ieee.Binary.units_mul_bounds finite natural sixteen.1 sixteen.2.1
    sixteen.2.2 (by decide) size
  have unit : (Ieee.binary32.one : Int) = 2 ^ 149 := by decide +kernel
  rw [McProtocol.sixteenths, unit, Int.tdiv_eq_ediv_of_nonneg least]
  omega

/-- The bytes of a cursor. -/
def cursorBytes (protocol : Int) (x y z : McFloat) : List UInt8 :=
  if protocol ≤ 210 then [toByte (sixteenths x), toByte (sixteenths y), toByte (sixteenths z)]
  else BigEndian.bytes 4 x.bits.toNat ++
    (BigEndian.bytes 4 y.bits.toNat ++ BigEndian.bytes 4 z.bits.toNat)

/-- What the builder insists on of a cursor. -/
structure ValidCursor (protocol : Int) (x y z : McFloat) : Prop where
  inside : InUnit x ∧ InUnit y ∧ InUnit z
  whole : protocol ≤ 210 → Sixteenth x ∧ Sixteenth y ∧ Sixteenth z

theorem emits_cursor (protocol : Int) (x y z : McFloat) :
    Emits (packetBlockPlaceCursor protocol x y z) fun bytes =>
      ValidCursor protocol x y z ∧ bytes = cursorBytes protocol x y z := by
  refine (Emits.checked (.either (.checked (.bind (.i8 _) (.bind (.i8 _) (.i8 _))))
    (.bind (.float _) (.bind (.float _) (.float _))))).congr fun bytes => ?_
  simp only [not_or, not_not]
  by_cases old : protocol ≤ 210
  · simp only [if_pos old, cursorBytes]
    constructor
    · rintro ⟨inside, whole, _, _, rfl, rfl, _, _, rfl, rfl, rfl⟩
      exact ⟨⟨inside, fun _ => whole⟩, rfl⟩
    · rintro ⟨⟨inside, whole⟩, rfl⟩
      exact ⟨inside, whole old, _, _, rfl, rfl, _, _, rfl, rfl, rfl⟩
  · simp only [if_neg old, cursorBytes]
    constructor
    · rintro ⟨inside, _, _, rfl, rfl, _, _, rfl, rfl, rfl⟩
      exact ⟨⟨inside, fun now => absurd now old⟩, rfl⟩
    · rintro ⟨⟨inside, -⟩, rfl⟩
      exact ⟨inside, _, _, rfl, rfl, _, _, rfl, rfl, rfl⟩

theorem toByte_le {value : Int} (low : 0 ≤ value) (high : value ≤ 16) : toByte value ≤ 16 := by
  have same := toNat_toByte low (by omega : value < 2 ^ 8)
  rw [UInt8.le_iff_toNat_le]
  change (toByte value).toNat ≤ 16
  omega

/-- The cursor that was written, or a rounded one, is read. -/
theorem reads_cursor {mode : McDecodeMode} {protocol : Int} {x y z : McFloat}
    (inside : InUnit x ∧ InUnit y ∧ InUnit z) :
    ∃ cursor, Reads mode (typedReadCursor protocol).run cursor (cursorBytes protocol x y z) := by
  unfold typedReadCursor cursorBytes
  by_cases old : protocol ≤ 210
  · simp only [if_pos old]
    obtain ⟨lowX, highX⟩ := inside.1.sixteenths
    obtain ⟨lowY, highY⟩ := inside.2.1.sixteenths
    obtain ⟨lowZ, highZ⟩ := inside.2.2.sixteenths
    exact ⟨_, .rescue (.bind (.u8 _) (.bind (.u8 _) (.thenPure (.u8 _) (.after (.require
      ⟨toByte_le lowX highX, toByte_le lowY highY, toByte_le lowZ highZ⟩) (.pure _)))))⟩
  · simp only [if_neg old]
    exact ⟨_, .rescue (.bind (.float x) (.bind (.float y) (.thenPure (.float z)
      (.after (.require inside) (.pure _)))))⟩

/-- Compressed data begins as a gzip member does. -/
def Compressor.Standard (compressor : Compressor) : Prop :=
  ∀ content capacity member, compressor.gzip content capacity = some member →
    10 ≤ member.length ∧ [0x1f, 0x8b, 8] <+: member

theorem wholeNbt_iff {content : List UInt8} :
    WholeNbt content ↔ ∃ root : NbtRoot true, content = root.encode := by
  rw [← whole_document_iff, not_or, not_not]
  rfl

/-- The data of a held stack, as it is sent. -/
inductive SentNbt (compressor : Compressor) (protocol : Int) (nbt : Buffer) : List UInt8 → Prop where
  | none (empty : nbt.size = 0) : SentNbt compressor protocol nbt (noItemTagBytes protocol)
  | plain (some : nbt.size ≠ 0) (whole : WholeNbt nbt.content) (later : 5 < protocol) :
      SentNbt compressor protocol nbt nbt.content
  | gzip {member : List UInt8} (some : nbt.size ≠ 0) (whole : WholeNbt nbt.content)
      (old : protocol ≤ 5)
      (granted : compressor.compressBound nbt.content.length + 32 ≤ int16Max ∧
        compressor.grants (compressor.compressBound nbt.content.length + 32) = true)
      (compressed : compressor.gzip nbt.content (compressor.compressBound nbt.content.length + 32) =
        Option.some member) (small : member.length ≤ int16Max) :
      SentNbt compressor protocol nbt (int16Bytes member.length ++ member)

/-- A held stack, as it is sent. -/
inductive SentItem (compressor : Compressor) (protocol : Int) (value : McBlockPlace) :
    List UInt8 → Prop where
  | absent (none : value.heldItemCount = 0) (empty : value.heldItemId = 0 ∧
      value.heldItemDamage = 0 ∧ value.heldItemNbt.size = 0) :
      SentItem compressor protocol value (BigEndian.bytes 2 uint16Max)
  | stack {nbt : List UInt8} (id : 0 < value.heldItemId ∧ value.heldItemId ≤ int16Max)
      (few : 0 < value.heldItemCount ∧ value.heldItemCount ≤ 127)
      (damage : 0 ≤ value.heldItemDamage ∧ value.heldItemDamage ≤ uint16Max)
      (there : ¬ value.heldItemNbt.Missing) (sent : SentNbt compressor protocol value.heldItemNbt nbt) :
      SentItem compressor protocol value (BigEndian.bytes 2 (toUnsigned 16 value.heldItemId) ++
        ([toByte value.heldItemCount] ++
          (BigEndian.bytes 2 (toUnsigned 16 value.heldItemDamage) ++ nbt)))

section item

variable {compressor : Compressor} {protocol : Int} {value : McBlockPlace}

theorem emits_gzip (content : List UInt8) :
    Emits (packetGzip compressor content) fun bytes =>
      (compressor.compressBound content.length + 32 ≤ int16Max ∧
        compressor.grants (compressor.compressBound content.length + 32) = true) ∧
      ∃ member, compressor.gzip content (compressor.compressBound content.length + 32) =
        some member ∧ member.length ≤ int16Max ∧ bytes = int16Bytes member.length ++ member := by
  unfold packetGzip
  dsimp only
  cases compressed : compressor.gzip content (compressor.compressBound content.length + 32) with
  | none =>
      refine (Emits.checked .never).congr fun bytes => ?_
      simp
  | some member =>
      refine (Emits.checked (.checked (.bind (.i16 _) (.data _)))).congr fun bytes => ?_
      simp only [not_or, not_lt, Bool.not_eq_false, Option.some.injEq, exists_eq_left']
      refine and_congr_right fun _ => and_congr_right fun _ => ⟨?_, ?_⟩
      · rintro ⟨_, _, rfl, rfl, rfl⟩
        rfl
      · rintro rfl
        exact ⟨_, _, rfl, rfl, rfl⟩

theorem emits_heldNbt {nbt : Buffer} (there : ¬ nbt.Missing) :
    Emits (if nbt.size = 0 then noItemTag protocol
      else do
        refuseWhen (¬ WholeNbt nbt.content)
        if 5 < protocol then mcPacketBytes nbt else packetGzip compressor nbt.content)
      (SentNbt compressor protocol nbt) := by
  refine (Emits.either (emits_noItemTag protocol) (.checked (.either (.buffer nbt)
    (emits_gzip nbt.content)))).congr fun bytes => ⟨?_, ?_⟩
  · intro wrote
    by_cases empty : nbt.size = 0
    · rw [if_pos empty] at wrote
      exact wrote ▸ .none empty
    · rw [if_neg empty, not_not] at wrote
      obtain ⟨whole, wrote⟩ := wrote
      by_cases later : 5 < protocol
      · rw [if_pos later] at wrote
        exact wrote.2 ▸ .plain empty whole later
      · rw [if_neg later] at wrote
        obtain ⟨granted, member, compressed, small, rfl⟩ := wrote
        exact .gzip empty whole (not_lt.mp later) granted compressed small
  · intro sent
    cases sent with
    | none empty =>
        rw [if_pos empty]
    | plain some whole later =>
        rw [if_neg some, if_pos later, not_not]
        exact ⟨whole, there, rfl⟩
    | gzip some whole old granted compressed small =>
        rw [if_neg some, if_neg (not_lt.mpr old), not_not]
        exact ⟨whole, granted, _, compressed, small, rfl⟩

theorem emits_reportedItem (plain : value.heldItemNbtCompressed = false) :
    Emits (packetLegacyReportedItem compressor protocol value)
      (SentItem compressor protocol value) := by
  refine Emits.congr (.checked (.either (.checked (.u16 _)) (.checkedThen fun good => .bind (.u16 _)
    (.bind (.u8 _) (.bind (.u16 _) (emits_heldNbt ?_)))))) fun bytes => ⟨?_, ?_⟩
  · simp only [not_or] at good
    exact good.2.2.2.2.2.2
  · rintro ⟨-, wrote⟩
    by_cases none : value.heldItemCount = 0
    · rw [if_pos none] at wrote
      obtain ⟨empty, rfl⟩ := wrote
      exact .absent none (by omega)
    · rw [if_neg none] at wrote
      obtain ⟨good, _, _, rfl, rfl, _, _, rfl, rfl, _, _, rfl, rfl, sent⟩ := wrote
      simp only [not_or] at good
      exact .stack (by omega) (by omega) (by omega) good.2.2.2.2.2.2 sent
  · intro sent
    rw [plain]
    cases sent with
    | absent none empty =>
        rw [if_pos none]
        exact ⟨nofun, by omega, rfl⟩
    | stack id few damage there sent =>
        rw [if_neg (by omega)]
        refine ⟨nofun, ?_, _, _, rfl, rfl, _, _, rfl, rfl, _, _, rfl, rfl, sent⟩
        simp only [not_or]
        exact ⟨by omega, by omega, by omega, by omega, by omega, by omega, there⟩

theorem SentNbt.isLegacyNbt (standard : compressor.Standard) {nbt : Buffer} {bytes : List UInt8}
    (sent : SentNbt compressor protocol nbt bytes) : ∃ read, IsLegacyNbt protocol read bytes := by
  cases sent with
  | none empty =>
      by_cases old : protocol ≤ 5
      · rw [noItemTagBytes, if_pos old]
        exact ⟨_, .none old⟩
      · rw [noItemTagBytes, if_neg old]
        exact ⟨_, .plain .empty (by omega)⟩
  | plain some whole later =>
      obtain ⟨root, same⟩ := wholeNbt_iff.mp whole
      rw [same]
      exact ⟨_, .plain root later⟩
  | gzip some whole old granted compressed small =>
      obtain ⟨headed, magic⟩ := standard _ _ _ compressed
      exact ⟨_, .gzip old headed small magic⟩

/-- What is sent of a held stack is such a stack. -/
theorem SentItem.isLegacyItem (standard : compressor.Standard) {bytes : List UInt8}
    (sent : SentItem compressor protocol value bytes) :
    ∃ item, IsLegacyItem (IsLegacyNbt protocol) item bytes ∧ item.itemId = value.heldItemId ∧
      item.count = value.heldItemCount ∧ item.damage = value.heldItemDamage := by
  cases sent with
  | absent none empty =>
      exact ⟨_, .absent, empty.1.symm, none.symm, empty.2.1.symm⟩
  | stack id few damage there sent =>
      obtain ⟨nbt, isNbt⟩ := sent.isLegacyNbt standard
      rw [int16Max] at id
      rw [uint16Max] at damage
      have idSame : (toUnsigned 16 value.heldItemId : Int) = value.heldItemId := by
        rw [toUnsigned]
        omega
      have damageSame : (toUnsigned 16 value.heldItemDamage : Int) = value.heldItemDamage := by
        rw [toUnsigned]
        omega
      have count := toNat_toByte few.1.le (by omega : value.heldItemCount < 2 ^ 8)
      have some : toByte value.heldItemCount ≠ 0 := by
        intro zero
        rw [zero] at count
        have nothing : ((0 : UInt8).toNat : Int) = 0 := rfl
        omega
      have most : toByte value.heldItemCount ≤ 127 := by
        rw [UInt8.le_iff_toNat_le]
        change (toByte value.heldItemCount).toNat ≤ 127
        omega
      exact ⟨_, .stack (by omega) (by rw [int16Max]; omega) some most (toUnsigned_lt 16 _) isNbt,
        idSame, count, damageSame⟩

end item

/-- The values of the C structure. -/
structure McBlockPlace.Representable (value : McBlockPlace) : Prop where
  x : IsInt32 value.location.x
  z : IsInt32 value.location.z
  sequence : IsInt32 value.sequence

/-- What the builder insists on. -/
structure McBlockPlace.Accepted (value : McBlockPlace) (protocol : Int) : Prop where
  supported : mcProtocolSupported protocol = true
  direction : 0 ≤ value.direction ∧ value.direction ≤ 5
  hand : 0 ≤ value.hand ∧ value.hand ≤ 1
  sequence : 0 ≤ value.sequence
  location : if protocol ≤ 5 then 0 ≤ value.location.y ∧ value.location.y ≤ 255
    else value.location.InRange
  cursor : ValidCursor protocol value.cursorX value.cursorY value.cursorZ

def locationBytes (protocol : Int) (location : McPosition) : List UInt8 :=
  if protocol ≤ 5 then int32Bytes location.x ++ ([toByte location.y] ++ int32Bytes location.z)
  else BigEndian.bytes 8 (location.packed protocol)

/-- A placement around the bytes of the held item, which is sent up to 47. -/
def placeBytes (protocol : Int) (value : McBlockPlace) (item : List UInt8) : List UInt8 :=
  let location := locationBytes protocol value.location
  let cursor := cursorBytes protocol value.cursorX value.cursorY value.cursorZ
  if protocol ≤ 47 then location ++ ([toByte value.direction] ++ (item ++ cursor))
  else if protocol ≤ 404 then
    location ++ (encodeVarint value.direction ++ (encodeVarint value.hand ++ cursor))
  else
    encodeVarint value.hand ++ (location ++ (encodeVarint value.direction ++ (cursor ++
      ([if value.insideBlock then 1 else 0] ++
        ((if 768 ≤ protocol then [if value.worldBorderHit then 1 else 0] else []) ++
          if 759 ≤ protocol then encodeVarint value.sequence else [])))))

section place

variable {compressor : Compressor} {protocol : Int} {value : McBlockPlace}

theorem emits_blockPlace :
    Emits (mcPacketBlockPlace compressor protocol value) fun bytes =>
      value.heldItemNbtCompressed = false ∧ value.Accepted protocol ∧
        ∃ item, (if protocol ≤ 47 then SentItem compressor protocol value item else item = []) ∧
          bytes = placeBytes protocol value item := by
  have cursor := emits_cursor protocol value.cursorX value.cursorY value.cursorZ
  have location := emits_position protocol value.location
  refine Emits.congr (.checkedThen fun good => .bind (.when (.checked (.bind (.i32 _)
    (.bind (.u8 _) (.i32 _))))) (.bind (.when location) (.either
      (.bind (.i8 _) (.bind (emits_reportedItem ?_) cursor))
      (.either (.bind (.varint _) (.bind (.varint _) cursor))
        (.bind (.varint _) (.bind location (.bind (.varint _) (.bind cursor
          (.bind (.bool _) (.bind (.when (.bool _)) (.when (.varint _)))))))))))) fun bytes => ?_
  · simp only [not_or, Bool.not_eq_true] at good
    exact good.2.2.2.2.2.2
  have checks : ¬ (mcProtocolSupported protocol = false ∨ value.direction < 0
      ∨ 5 < value.direction ∨ value.hand < 0 ∨ 1 < value.hand ∨ value.sequence < 0
      ∨ value.heldItemNbtCompressed = true) ↔
      mcProtocolSupported protocol = true ∧ (0 ≤ value.direction ∧ value.direction ≤ 5) ∧
        (0 ≤ value.hand ∧ value.hand ≤ 1) ∧ 0 ≤ value.sequence ∧
        value.heldItemNbtCompressed = false := by
    simp only [not_or, Bool.not_eq_false, Bool.not_eq_true, not_lt]
    constructor
    · rintro ⟨supported, low, high, least, greatest, natural, plain⟩
      exact ⟨supported, ⟨low, high⟩, ⟨least, greatest⟩, natural, plain⟩
    · rintro ⟨supported, ⟨low, high⟩, ⟨least, greatest⟩, natural, plain⟩
      exact ⟨supported, low, high, least, greatest, natural, plain⟩
  rw [checks]
  by_cases legacy : protocol ≤ 5
  · have unpacked : ¬ (5 < protocol ∧ protocol ≤ 404) := by omega
    have reported : protocol ≤ 47 := by omega
    simp only [if_pos legacy, if_neg unpacked, if_pos reported, placeBytes, locationBytes, not_or,
      not_lt]
    constructor
    · rintro ⟨⟨supported, direction, hand, natural, plain⟩, _, _, rfl, ⟨inside, _, _, rfl, rfl, _, _,
        rfl, rfl, rfl⟩, _, _, rfl, rfl, _, _, rfl, rfl, item, _, rfl, sent, valid, rfl⟩
      refine ⟨plain, ⟨supported, direction, hand, natural, ?_, valid⟩, item, sent, rfl⟩
      rwa [if_pos legacy]
    · rintro ⟨plain, ⟨supported, direction, hand, natural, inside, valid⟩, item, sent, rfl⟩
      rw [if_pos legacy] at inside
      exact ⟨⟨supported, direction, hand, natural, plain⟩, _, _, rfl, ⟨inside, _, _, rfl, rfl, _, _,
        rfl, rfl, rfl⟩, [], _, rfl, rfl, _, _, rfl, rfl, item, _, rfl, sent, valid, rfl⟩
  by_cases reported : protocol ≤ 47
  · have packed : 5 < protocol ∧ protocol ≤ 404 := by omega
    simp only [if_neg legacy, if_pos packed, if_pos reported, placeBytes, locationBytes]
    constructor
    · rintro ⟨⟨supported, direction, hand, natural, plain⟩, _, _, rfl, rfl, _, _, rfl,
        ⟨-, inside, rfl⟩, _, _, rfl, rfl, item, _, rfl, sent, valid, rfl⟩
      refine ⟨plain, ⟨supported, direction, hand, natural, ?_, valid⟩, item, sent, rfl⟩
      rwa [if_neg legacy]
    · rintro ⟨plain, ⟨supported, direction, hand, natural, inside, valid⟩, item, sent, rfl⟩
      rw [if_neg legacy] at inside
      exact ⟨⟨supported, direction, hand, natural, plain⟩, [], _, rfl, rfl, _, _, rfl,
        ⟨supported, inside, rfl⟩, _, _, rfl, rfl, item, _, rfl, sent, valid, rfl⟩
  by_cases early : protocol ≤ 404
  · have packed : 5 < protocol ∧ protocol ≤ 404 := by omega
    simp only [if_neg legacy, if_pos packed, if_neg reported, if_pos early, placeBytes,
      locationBytes]
    constructor
    · rintro ⟨⟨supported, direction, hand, natural, plain⟩, _, _, rfl, rfl, _, _, rfl,
        ⟨-, inside, rfl⟩, _, _, rfl, rfl, _, _, rfl, rfl, valid, rfl⟩
      refine ⟨plain, ⟨supported, direction, hand, natural, ?_, valid⟩, [], rfl, rfl⟩
      rwa [if_neg legacy]
    · rintro ⟨plain, ⟨supported, direction, hand, natural, inside, valid⟩, item, -, rfl⟩
      rw [if_neg legacy] at inside
      exact ⟨⟨supported, direction, hand, natural, plain⟩, [], _, rfl, rfl, _, _, rfl,
        ⟨supported, inside, rfl⟩, _, _, rfl, rfl, _, _, rfl, rfl, valid, rfl⟩
  · have unpacked : ¬ (5 < protocol ∧ protocol ≤ 404) := by omega
    simp only [if_neg legacy, if_neg unpacked, if_neg reported, if_neg early, placeBytes,
      locationBytes]
    constructor
    · rintro ⟨⟨supported, direction, hand, natural, plain⟩, _, _, rfl, rfl, _, _, rfl, rfl, _, _, rfl,
        rfl, _, _, rfl, ⟨-, inside, rfl⟩, _, _, rfl, rfl, _, _, rfl, ⟨valid, rfl⟩, _, _, rfl, rfl,
        border, last, rfl, isBorder, isLast⟩
      refine ⟨plain, ⟨supported, direction, hand, natural, ?_, valid⟩, [], rfl, ?_⟩
      · rwa [if_neg legacy]
      · have borders : border = if 768 ≤ protocol then [if value.worldBorderHit then 1 else 0]
            else [] := by split_ifs at isBorder ⊢ <;> exact isBorder
        have lasts : last = if 759 ≤ protocol then encodeVarint value.sequence else [] := by
          split_ifs at isLast ⊢ <;> exact isLast
        rw [borders, lasts]
        rfl
    · rintro ⟨plain, ⟨supported, direction, hand, natural, inside, valid⟩, item, -, rfl⟩
      rw [if_neg legacy] at inside
      refine ⟨⟨supported, direction, hand, natural, plain⟩, [], _, rfl, rfl, [], _, rfl, rfl, _, _,
        rfl, rfl, _, _, rfl, ⟨supported, inside, rfl⟩, _, _, rfl, rfl, _, _, rfl, ⟨valid, rfl⟩, _, _,
        rfl, rfl, _, _, rfl, ?_, ?_⟩
      · split_ifs <;> rfl
      · split_ifs <;> rfl

variable {mode : McDecodeMode}

/-- Where the decoder takes a placement to be: the greatest height of 1.7 is below the world. -/
def decodedLocation (protocol : Int) (location : McPosition) : McPosition :=
  if protocol ≤ 5 ∧ location.y = 255 then { location with y := -1 } else location

theorem reads_legacyLocation (supported : mcProtocolSupported protocol = true)
    {location : McPosition} (x : IsInt32 location.x) (z : IsInt32 location.z)
    (inside : if protocol ≤ 5 then 0 ≤ location.y ∧ location.y ≤ 255 else location.InRange) :
    Reads mode (readLegacyLocation protocol .allowed).run (decodedLocation protocol location)
      (locationBytes protocol location) := by
  unfold readLegacyLocation locationBytes decodedLocation
  by_cases legacy : protocol ≤ 5
  · rw [if_pos legacy] at inside
    have height := toNat_toByte inside.1 (by omega : location.y < 2 ^ 8)
    have top : toByte location.y = 255 ↔ location.y = 255 := by
      constructor
      · intro same
        rw [same] at height
        exact height.symm
      · intro same
        rw [same]
        rfl
    simp only [if_pos legacy]
    refine .bind (.i32 x) (.bind (.u8 (toByte location.y)) (.thenPure (.i32 z) (.returning ?_)))
    rw [height]
    by_cases highest : location.y = 255
    · rw [if_pos ⟨by decide, top.mpr highest⟩, if_pos ⟨legacy, highest⟩]
    · rw [if_neg fun high => highest (top.mp high.2), if_neg fun high => highest high.2]
  · rw [if_neg legacy] at inside
    have high : ¬ (protocol ≤ 5 ∧ location.y = 255) := fun both => legacy both.1
    simp only [if_neg legacy, if_neg high]
    exact (accepts_position mode protocol).complete ⟨supported, inside, rfl⟩

/-- What is the same in two placements, of what the release has. -/
structure McBlockPlace.ReadsBack (value place : McBlockPlace) (protocol : Int) : Prop where
  location : place.location = value.location
  direction : place.direction = value.direction
  hand : 107 ≤ protocol → place.hand = value.hand
  heldItem : protocol ≤ 47 → place.heldItemId = value.heldItemId ∧
    place.heldItemCount = value.heldItemCount ∧ place.heldItemDamage = value.heldItemDamage
  insideBlock : 477 ≤ protocol → place.insideBlock = value.insideBlock
  worldBorderHit : 768 ≤ protocol → place.worldBorderHit = value.worldBorderHit
  sequence : 759 ≤ protocol → place.sequence = value.sequence

theorem reads_legacyPlace (old : protocol ≤ 47) (standard : compressor.Standard)
    (representable : value.Representable) (accepted : value.Accepted protocol) {item : List UInt8}
    (sent : SentItem compressor protocol value item) :
    ∃ place, Reads mode (typedDecodeLegacyPlace protocol .allowed).run place
        (placeBytes protocol value item) ∧
      { value with location := decodedLocation protocol value.location }.ReadsBack place protocol := by
  obtain ⟨held, isItem, id, count, damage⟩ := sent.isLegacyItem standard
  obtain ⟨⟨x, y, z⟩, cursor⟩ := (reads_cursor accepted.cursor.inside :
    ∃ cursor, Reads mode (typedReadCursor protocol).run cursor _)
  have direction := accepted.direction
  have solid : ((decodedLocation protocol value.location == ⟨-1, -1, -1⟩) &&
      (value.direction == -1)) = false := by
    have there : ¬ value.direction = -1 := by omega
    simp [there]
  unfold placeBytes
  simp only [if_pos old]
  refine ⟨⟨decodedLocation protocol value.location, value.direction, 0, held.itemId, held.count,
    held.damage, held.nbt, x, y, z, false, false, 0, held.compressed⟩, ?_, ?_⟩
  · refine .bind (reads_legacyLocation accepted.supported representable.x representable.z
      accepted.location) (.bind (.i8 (by omega) (by omega)) (.bind
        (accepts_typedReadLegacyItem.complete isItem) (.thenPure cursor ?_)))
    dsimp only
    rw [solid, if_neg (by simp)]
    exact .after (.typedRequire ⟨by simp, direction⟩) (.pure _)
  · exact ⟨rfl, rfl, fun late => by omega, fun _ => ⟨id, count, damage⟩, fun late => by omega,
      fun late => by omega, fun late => by omega⟩

/-- Hand, location and direction, in the order of the release. -/
def placementBytes (protocol : Int) (value : McBlockPlace) : List UInt8 :=
  let location := locationBytes protocol value.location
  if protocol ≤ 404 then location ++ (encodeVarint value.direction ++ encodeVarint value.hand)
  else encodeVarint value.hand ++ (location ++ encodeVarint value.direction)

theorem reads_placement (late : ¬ protocol ≤ 5) (accepted : value.Accepted protocol) :
    Reads mode (readPlacement protocol).run (value.hand, value.location, value.direction)
      (placementBytes protocol value) := by
  obtain ⟨lowDirection, highDirection⟩ := accepted.direction
  obtain ⟨lowHand, highHand⟩ := accepted.hand
  have direction : IsInt32 value.direction := ⟨by omega, by omega⟩
  have hand : IsInt32 value.hand := ⟨by omega, by omega⟩
  have inside := accepted.location
  rw [if_neg late] at inside
  have location : Reads mode (mcReaderPosition protocol).run value.location
      (locationBytes protocol value.location) := by
    rw [locationBytes, if_neg late]
    exact (accepts_position mode protocol).complete ⟨accepted.supported, inside, rfl⟩
  unfold readPlacement placementBytes
  by_cases early : protocol ≤ 404
  · simp only [if_pos early]
    exact .bind location (.bind (.varint direction) (.thenPure (.varint hand) (.pure _)))
  · simp only [if_neg early]
    exact .bind (.varint hand) (.bind location (.thenPure (.varint direction) (.pure _)))

/-- What follows the cursor. -/
def placeTailBytes (protocol : Int) (value : McBlockPlace) : List UInt8 :=
  (if 477 ≤ protocol then [if value.insideBlock then 1 else 0] else []) ++
    ((if 768 ≤ protocol then [if value.worldBorderHit then 1 else 0] else []) ++
      if 759 ≤ protocol then encodeVarint value.sequence else [])

theorem placeBytes_late (supported : mcProtocolSupported protocol = true) (late : ¬ protocol ≤ 47) :
    placeBytes protocol value [] = placementBytes protocol value ++
      (cursorBytes protocol value.cursorX value.cursorY value.cursorZ ++
        placeTailBytes protocol value) := by
  have gap : protocol ≤ 404 ∨ 477 ≤ protocol :=
    of_supported (P := fun protocol => protocol ≤ 404 ∨ 477 ≤ protocol) (by decide) supported
  unfold placeBytes placementBytes placeTailBytes
  by_cases early : protocol ≤ 404
  · have inside : ¬ 477 ≤ protocol := by omega
    have border : ¬ 768 ≤ protocol := by omega
    have sequence : ¬ 759 ≤ protocol := by omega
    simp only [if_neg late, if_pos early, if_neg inside, if_neg border, if_neg sequence,
      List.append_assoc, List.append_nil]
  · have inside : 477 ≤ protocol := by omega
    simp only [if_neg late, if_neg early, if_pos inside, List.append_assoc]

theorem reads_flag (condition : Prop) [Decidable condition] (flag : Bool) :
    Reads mode (if condition then mcReaderBool else pure false : DecodeM protocol Bool).run
      (if condition then flag else false)
      (if condition then [if flag then 1 else 0] else []) := by
  by_cases there : condition
  · simp only [if_pos there]
    exact .bool flag
  · simp only [if_neg there]
    exact .pure false

theorem reads_blockPlace (standard : compressor.Standard)
    (representable : value.Representable) (accepted : value.Accepted protocol) {item : List UInt8}
    (sent : if protocol ≤ 47 then SentItem compressor protocol value item else item = []) :
    ∃ place, Reads mode (typedDecodeBlockPlace protocol).run place
        (placeBytes protocol value item) ∧
      { value with location := decodedLocation protocol value.location }.ReadsBack place protocol := by
  unfold typedDecodeBlockPlace
  by_cases old : protocol ≤ 47
  · rw [if_pos old] at sent
    simp only [if_pos old]
    exact reads_legacyPlace old standard representable accepted sent
  · rw [if_neg old] at sent
    obtain ⟨⟨x, y, z⟩, cursor⟩ := (reads_cursor accepted.cursor.inside :
      ∃ cursor, Reads mode (typedReadCursor protocol).run cursor _)
    have legacy : ¬ protocol ≤ 5 := by omega
    have same : decodedLocation protocol value.location = value.location :=
      if_neg fun both => legacy both.1
    have sequence : Reads mode (if 759 ≤ protocol then mcReaderVarint else pure 0 :
        DecodeM protocol Int).run (if 759 ≤ protocol then value.sequence else 0)
        (if 759 ≤ protocol then encodeVarint value.sequence else []) := by
      split_ifs
      · exact .varint representable.sequence
      · exact .pure 0
    have natural : 0 ≤ if 759 ≤ protocol then value.sequence else 0 := by
      have natural := accepted.sequence
      split_ifs <;> omega
    rw [same, sent, placeBytes_late accepted.supported old]
    simp only [if_neg old]
    refine ⟨⟨value.location, value.direction, value.hand, 0, 0, 0, .null 0, x, y, z,
      if 477 ≤ protocol then value.insideBlock else false,
      if 768 ≤ protocol then value.worldBorderHit else false,
      if 759 ≤ protocol then value.sequence else 0, false⟩, ?_, ?_⟩
    · exact .bind (reads_placement legacy accepted) (.bind cursor (.bind (reads_flag _ _)
        (.bind (reads_flag _ _) (.thenPure sequence (.after (.typedRequire
          ⟨accepted.hand.1, accepted.hand.2, accepted.direction.1, accepted.direction.2, natural⟩)
            (.pure _))))))
    · exact ⟨rfl, rfl, fun _ => rfl, fun now => absurd now old, fun late => if_pos late,
        fun late => if_pos late, fun late => if_pos late⟩

end place

section roundTrip

variable (others : McPacketCatalog) (validators : Validators) (layout : PacketLayout)

/-- What the builder wrote decodes to the placement it was given, except at the greatest height that
fits the byte of 1.7: there the decoder puts the placement below the world. -/
theorem blockPlace_reads_back_iff (compressor : Compressor) (standard : compressor.Standard)
    (arguments : McDecodeArguments) (payload : List UInt8) (error : Option McError)
    (receives : arguments.Receives (generatedLibrary others validators layout) "block_place" payload)
    (value : McBlockPlace) (representable : value.Representable)
    (builds : Builds (mcPacketBlockPlace compressor arguments.protocol value) payload) :
    (∃ place, (mcDecodePacket (generatedLibrary others validators layout) arguments error).packet =
        some (.place place) ∧ value.ReadsBack place arguments.protocol) ↔
      5 < arguments.protocol ∨ value.location.y ≠ 255 := by
  obtain ⟨-, accepted, item, sent, rfl⟩ := emits_blockPlace.payload builds
  have typed : Typed (generatedLibrary others validators layout) arguments.protocol "block_place" :=
    ⟨accepted.supported, packetCatalog_listed accepted.supported (by simp [lastingPackets]),
      by decide⟩
  obtain ⟨place, reads, back⟩ :=
    (reads_blockPlace standard representable accepted sent :
      ∃ place, Reads .strict (typedDecodeBlockPlace arguments.protocol).run place _ ∧ _)
  have returned : (mcDecodePacket (generatedLibrary others validators layout) arguments
      error).packet = some (.place place) := receives.packet_eq_some typed reads.mapDecode
  constructor
  · rintro ⟨other, again, same⟩
    rw [returned] at again
    cases again
    by_contra lost
    obtain ⟨legacy, highest⟩ : arguments.protocol ≤ 5 ∧ value.location.y = 255 := by
      constructor <;> by_contra <;> apply lost <;> omega
    have below := back.location.symm.trans same.location
    rw [show decodedLocation arguments.protocol value.location =
      { value.location with y := -1 } from if_pos ⟨legacy, highest⟩] at below
    have height := congrArg McPosition.y below
    rw [highest] at height
    cases height
  · intro condition
    have kept : decodedLocation arguments.protocol value.location = value.location :=
      if_neg (by omega)
    rw [kept] at back
    exact ⟨place, returned, back⟩

/-- A library with nothing but the packets of a player. -/
abbrev placeLibrary : PacketLibrary :=
  generatedLibrary ⟨fun _ _ _ => []⟩ (plainLibrary [] 4 (by decide)).validators
    (plainLibrary [] 4 (by decide)).layout

/-- zlib, of what it makes of an empty compound. -/
def compoundCompressor : Compressor where
  compressBound size := size + size / 4096 + size / 16384 + size / 33554432 + 13
  grants _ := true
  gzip content _ :=
    if content = [10, 0, 0, 0] then
      some [31, 139, 8, 0, 0, 0, 0, 0, 0, 3, 227, 98, 96, 96, 0, 0, 120, 63, 249, 78, 4, 0, 0, 0]
    else none

/-- A block placed against the highest one of 1.7, with an empty hand. -/
def highestPlace : McBlockPlace :=
  ⟨⟨0, 255, 0⟩, 1, 0, 0, 0, 0, .null 0, ⟨0⟩, ⟨0⟩, ⟨0⟩, false, false, 0, false⟩

def highestPlaceBytes : List UInt8 := [0, 0, 0, 0, 255, 0, 0, 0, 0, 1, 255, 255, 0, 0, 0]

/-- It is built, and comes back from below the world. -/
theorem blockPlace_reads_back_highest :
    Builds (mcPacketBlockPlace compoundCompressor 5 highestPlace) highestPlaceBytes ∧
      ¬ ∃ place, (mcDecodePacket placeLibrary (playArguments 5 0
          (placeLibrary.catalog.mcPacketId 5 .play .serverbound "block_place") 1 highestPlaceBytes 4)
            none).packet = some (.place place) ∧ highestPlace.ReadsBack place 5 := by
  refine ⟨⟨15, ⟨highestPlaceBytes, 15, false⟩, by decide +kernel, rfl⟩, ?_⟩
  rintro ⟨place, returned, back⟩
  have below : ∀ packet ∈ (mcDecodePacket placeLibrary (playArguments 5 0
      (placeLibrary.catalog.mcPacketId 5 .play .serverbound "block_place") 1 highestPlaceBytes 4)
        none).packet, (match packet with
          | .place place => place.location.y
          | _ => 0) = -1 := by decide +kernel
  have height : place.location.y = -1 := below _ returned
  rw [back.location] at height
  cases height

/-- A block of a stack that has an empty compound, placed in 1.7. -/
def compoundPlace : McBlockPlace :=
  ⟨⟨1, 64, -2⟩, 1, 0, 1, 64, 0, .bytes [10, 0, 0, 0], ⟨0x3f000000⟩, ⟨0x3f800000⟩, ⟨0x3f000000⟩, false,
    false, 0, false⟩

def compoundPlaceBytes : List UInt8 :=
  [0, 0, 0, 1, 64, 255, 255, 255, 254, 1, 0, 1, 64, 0, 0, 0, 24, 31, 139, 8, 0, 0, 0, 0, 0, 0, 3, 227,
    98, 96, 96, 0, 0, 120, 63, 249, 78, 4, 0, 0, 0, 8, 16, 8]

theorem blockPlace_reads_back_compound :
    ∃ place, (mcDecodePacket placeLibrary (playArguments 5 0
        (placeLibrary.catalog.mcPacketId 5 .play .serverbound "block_place") 1 compoundPlaceBytes 4)
          none).packet = some (.place place) ∧ compoundPlace.ReadsBack place 5 := by
  have standard : compoundCompressor.Standard := by
    intro content capacity member compressed
    unfold compoundCompressor at compressed
    dsimp only at compressed
    split_ifs at compressed
    cases compressed
    decide
  have builds : Builds (mcPacketBlockPlace compoundCompressor 5 compoundPlace) compoundPlaceBytes :=
    ⟨44, ⟨compoundPlaceBytes, 44, false⟩, by decide +kernel, rfl⟩
  exact (blockPlace_reads_back_iff ⟨fun _ _ _ => []⟩ (plainLibrary [] 4 (by decide)).validators
    (plainLibrary [] 4 (by decide)).layout compoundCompressor standard _ _ none
    (playArguments_receives _ 5 "block_place" compoundPlaceBytes (show 4 ≤ 4 from Nat.le_refl 4))
    compoundPlace ⟨by decide, by decide, by decide⟩ builds).mpr (.inr (by decide))

end roundTrip

end McProtocol
