import McProtocol.Canonical
import McProtocol.StickyWriter

/-! # How much a builder writes

A helper of the client builds its packet in an array of its own. `Bounded program limit` says
that whatever the program writes has at most `limit` bytes: with that much room a builder that
refuses does not refuse for want of it.
-/

namespace McProtocol

def Bounded (program : WriteM Unit) (limit : Nat) : Prop :=
  ∃ W, Emits program W ∧ ∀ bytes, W bytes → bytes.length ≤ limit

namespace Bounded

variable {program other : WriteM Unit} {limit more : Nat}

theorem mono (bounded : Bounded program limit) (larger : limit ≤ more) : Bounded program more := by
  obtain ⟨W, emits, short⟩ := bounded
  exact ⟨W, emits, fun bytes derived => (short bytes derived).trans larger⟩

/-- A program that writes one byte string. -/
theorem of_emits {written : List UInt8} (emits : Emits program (· = written))
    (short : written.length ≤ limit) : Bounded program limit := by
  refine ⟨_, emits, fun bytes same => ?_⟩
  rw [same]
  exact short

theorem bind {rest : Unit → WriteM Unit} (first : Bounded program limit)
    (second : Bounded (rest ()) more) : Bounded (program >>= rest) (limit + more) := by
  obtain ⟨W, emits, short⟩ := first
  obtain ⟨V, continues, shorter⟩ := second
  refine ⟨_, emits.bind continues, ?_⟩
  rintro bytes ⟨head, tail, rfl, derived, continued⟩
  rw [List.length_append]
  exact Nat.add_le_add (short head derived) (shorter tail continued)

/-- What follows a check of the arguments may rely on it. -/
theorem checkedThen {condition : Prop} [Decidable condition] {rest : Unit → WriteM Unit}
    (bounded : ¬ condition → Bounded (rest ()) limit) :
    Bounded (refuseWhen condition >>= rest) limit := by
  by_cases bad : condition
  · exact ⟨_, .checkedThen fun good => absurd bad good, fun bytes (derived : _ ∧ False) =>
      derived.2.elim⟩
  · obtain ⟨W, emits, short⟩ := bounded bad
    exact ⟨_, .checked emits, fun bytes derived => short bytes derived.2⟩

theorem checked {condition : Prop} [Decidable condition] {rest : Unit → WriteM Unit}
    (bounded : Bounded (rest ()) limit) : Bounded (refuseWhen condition >>= rest) limit :=
  checkedThen fun _ => bounded

theorem either {condition : Prop} [Decidable condition] (first : condition → Bounded program limit)
    (second : ¬ condition → Bounded other limit) :
    Bounded (if condition then program else other) limit := by
  split_ifs with holds
  · exact first holds
  · exact second holds

theorem when {condition : Prop} [Decidable condition] (bounded : Bounded program limit) :
    Bounded (.when condition program) (if condition then limit else 0) := by
  obtain ⟨W, emits, short⟩ := bounded
  refine ⟨_, .when emits, fun bytes derived => ?_⟩
  split_ifs at derived ⊢
  · exact short bytes derived
  · rw [derived]
    exact Nat.le_refl 0

/-- Whether or not it is written. -/
theorem optional {condition : Prop} [Decidable condition] (bounded : Bounded program limit) :
    Bounded (.when condition program) limit := by
  refine bounded.when.mono ?_
  split_ifs
  · exact Nat.le_refl limit
  · exact Nat.zero_le limit

theorem skipped {condition : Prop} [Decidable condition] (fails : ¬ condition) :
    Bounded (.when condition program) 0 := by
  have emits : Emits (.when condition program) (· = []) := by
    constructor
    · rintro bytes rfl
      exact .when_neg fails
    · intro packet after inside run
      exact Emits.pure.sound inside ((Prog.when_neg fails).symm.trans run)
  exact of_emits emits (Nat.le_refl 0)

theorem check {condition : Prop} [Decidable condition] :
    Bounded (refuseWhen condition) limit := by
  refine ⟨fun bytes => ¬ condition ∧ bytes = [], ⟨?_, ?_⟩, ?_⟩
  · rintro bytes ⟨good, rfl⟩
    exact .refuseWhen good
  · intro packet after inside run
    obtain ⟨good, rfl⟩ := refuseWhen_eq_some run
    exact ⟨[], ⟨good, rfl⟩, inside, (McPacket.append_nil inside).symm⟩
  · rintro bytes ⟨-, rfl⟩
    exact Nat.zero_le limit

theorem buffer {data : Buffer} (short : data.content.length ≤ limit) :
    Bounded (mcPacketBytes data) limit := by
  refine ⟨_, .buffer data, fun bytes derived => ?_⟩
  rw [derived.2]
  exact short

theorem data {bytes : List UInt8} (short : bytes.length ≤ limit) :
    Bounded (mcPacketBytes bytes) limit := buffer short

theorem u8 (value : UInt8) : Bounded (mcPacketU8 value) 1 := data (Nat.le_refl 1)

theorem bool (value : Bool) : Bounded (mcPacketBool value) 1 := u8 _

theorem i8 (value : Int) : Bounded (mcPacketI8 value) 1 := u8 _

theorem bigEndian (size value : Nat) : Bounded (mcPacketBytes (BigEndian.bytes size value)) size :=
  data (Nat.le_of_eq (BigEndian.length_bytes size value))

theorem u16 (value : Nat) : Bounded (mcPacketU16 value) 2 := bigEndian 2 value

theorem i16 (value : Int) : Bounded (mcPacketI16 value) 2 := u16 _

theorem i32 (value : Int) : Bounded (mcPacketI32 value) 4 := bigEndian 4 _

theorem u64 (value : Nat) : Bounded (mcPacketU64 value) 8 := bigEndian 8 value

theorem i64 (value : Int) : Bounded (mcPacketI64 value) 8 := u64 _

theorem float (value : McFloat) : Bounded (mcPacketFloat value) 4 := bigEndian 4 _

theorem double (value : McDouble) : Bounded (mcPacketDouble value) 8 := u64 _

theorem varint (value : Int) : Bounded (mcPacketVarint value) 5 :=
  of_emits (.varint value) (encodeVarint_length value).2

/-- Seven bits are one byte. -/
theorem smallVarint {value : Int} (natural : 0 ≤ value) (small : value < 128) :
    Bounded (mcPacketVarint value) 1 := by
  refine of_emits (.varint value) ?_
  have same : toUnsigned 32 value = value.toNat := by
    rw [toUnsigned, Int.emod_eq_of_lt natural (by omega)]
  rw [encodeVarint, same, encodeGroups, if_pos]
  · exact Nat.le_refl 1
  · rw [Nat.shiftRight_eq_div_pow]
    omega

theorem stringN {text : List UInt8} (short : text.length ≤ limit) :
    Bounded (mcPacketStringN text) (5 + limit) :=
  checked ((varint _).bind (data short))

theorem given {α : Type} {write : α → WriteM Unit} (bounded : ∀ value, Bounded (write value) limit)
    (value : Option α) : Bounded (McProtocol.given write value) limit := by
  cases value with
  | none => exact check
  | some value => exact bounded value

/-- Where some storage was enough, so is any of `limit` bytes, for the same packet. -/
theorem builds {bytes : List UInt8} (bounded : Bounded program limit)
    (builds : Builds program bytes) {capacity : Nat} (room : limit ≤ capacity) :
    ∃ packet, buildPacket capacity program = (some (), packet) ∧ packet.body = bytes := by
  obtain ⟨W, emits, short⟩ := bounded
  have derived := emits.payload builds
  obtain ⟨packet, built, -, body⟩ := (emits.complete derived).build ((short _ derived).trans room)
  exact ⟨packet, built, body⟩

end Bounded

/-- Where no storage is enough, the builder refuses. -/
theorem buildPacket_refused {program : WriteM Unit} (never : ¬ ∃ bytes, Builds program bytes)
    (capacity : Nat) : (buildPacket capacity program).1 = none := by
  rcases built : buildPacket capacity program with ⟨_ | ⟨⟩, packet⟩
  · rfl
  · exact absurd ⟨_, capacity, packet, built, rfl⟩ never

section Builders

variable {compressor : Compressor} {protocol : Int}

theorem bounded_position (value : McPosition) : Bounded (mcPacketPosition protocol value) 8 :=
  .checked (.u64 _)

theorem bounded_noItemTag : Bounded (noItemTag protocol) 2 :=
  .either (fun _ => .i16 _) fun _ => (Bounded.u8 _).mono (by decide)

/-- Up to 765 an item is a short record. -/
theorem bounded_plainItem (early : protocol < 766) (itemId count : Int) :
    Bounded (mcPacketPlainItem protocol itemId count) 8 := by
  refine .checked (.either (fun _ => ?_) fun _ => .either (fun _ => ?_) fun _ =>
    .either (fun _ => ?_) fun late => absurd early late)
  · exact ((Bounded.u16 _).bind (.optional ((Bounded.u8 _).bind ((Bounded.u16 _).bind
      bounded_noItemTag)))).mono (by decide)
  · exact ((Bounded.u16 _).bind (.optional ((Bounded.u8 _).bind (.u8 _)))).mono (by decide)
  · exact ((Bounded.bool _).bind (.optional ((Bounded.varint _).bind ((Bounded.u8 _).bind
      (.u8 _))))).mono (by decide)

theorem bounded_anyItem (itemId count : Int) :
    Bounded (mcPacketPlainItem protocol itemId count) 20 := by
  by_cases early : protocol < 766
  · exact (bounded_plainItem early itemId count).mono (by decide)
  · refine .checked (.either (fun _ => by omega) fun _ => .either (fun _ => by omega) fun _ =>
      .either (fun sooner => absurd sooner early) fun _ => ?_)
    exact ((Bounded.varint _).bind (.optional ((Bounded.varint _).bind ((Bounded.varint _).bind
      (.varint _))))).mono (by decide)

theorem bounded_noItem (itemId : Int) : Bounded (mcPacketPlainItem protocol itemId 0) 5 := by
  have none : ¬ (0 : Int) ≠ 0 := fun some => some rfl
  refine .checked (.either (fun _ => ?_) fun _ => .either (fun _ => ?_) fun _ =>
    .either (fun _ => ?_) fun _ => ?_)
  · exact ((Bounded.u16 _).bind (.skipped none)).mono (by decide)
  · exact ((Bounded.u16 _).bind (.skipped none)).mono (by decide)
  · exact ((Bounded.bool _).bind (.skipped none)).mono (by decide)
  · exact ((Bounded.varint _).bind (.skipped none)).mono (by decide)

theorem bounded_setCreativeSlot (slot itemId count damage : Int) :
    Bounded (mcPacketSetCreativeSlotDamage protocol slot itemId count damage) 22 := by
  have stack : Bounded (if 340 < protocol then mcPacketPlainItem protocol itemId count
      else do
        mcPacketU16 (if count = 0 then uint16Max else toUnsigned 16 itemId)
        .when (count ≠ 0) (do
          mcPacketU8 (toByte count)
          mcPacketU16 (toUnsigned 16 damage)
          noItemTag protocol)) 20 :=
    .either (fun _ => bounded_anyItem itemId count) fun _ => ((Bounded.u16 _).bind
      ((Bounded.u8 _).bind ((Bounded.u16 _).bind bounded_noItemTag)).optional).mono (by decide)
  exact .checked (((Bounded.i16 _).bind stack).mono (by decide))

theorem bounded_heldItemSlot (slot : Int) : Bounded (mcPacketHeldItemSlot protocol slot) 2 :=
  .checked (.i16 _)

theorem bounded_windowClick (value : McWindowClick) :
    Bounded (mcPacketWindowClick protocol value) 28 := by
  refine .checked ?_
  have windowId : Bounded (if protocol ≤ 5 then mcPacketI8 value.windowId
      else if protocol ≤ 767 then mcPacketU8 (toByte value.windowId)
      else mcPacketVarint value.windowId) 5 :=
    .either (fun _ => (Bounded.i8 _).mono (by decide)) fun _ =>
      .either (fun _ => (Bounded.u8 _).mono (by decide)) fun _ => .varint _
  have mode : Bounded (if protocol = 755 then mcPacketI8 value.mode
      else mcPacketVarint value.mode) 5 :=
    .either (fun _ => (Bounded.i8 _).mono (by decide)) fun _ => .varint _
  have item : Bounded (if protocol < 770 then mcPacketPlainItem protocol 0 0
      else mcPacketBool false) 5 :=
    .either (fun _ => bounded_noItem 0) fun _ => (Bounded.bool _).mono (by decide)
  have tail : Bounded (if protocol ≤ 754 then do
        mcPacketI16 value.actionNumber
        mcPacketI8 value.mode
        mcPacketPlainItem protocol value.clickedItemId value.clickedItemCount
      else do
        (if protocol = 755 then mcPacketI8 value.mode else mcPacketVarint value.mode)
        mcPacketVarint 0
        if protocol < 770 then mcPacketPlainItem protocol 0 0 else mcPacketBool false) 15 :=
    .either (fun early => ((Bounded.i16 _).bind ((Bounded.i8 _).bind
        (bounded_plainItem (by omega) _ _))).mono (by decide))
      fun _ => (mode.bind ((Bounded.varint _).bind item)).mono (by decide)
  exact (windowId.bind ((Bounded.varint _).optional.bind ((Bounded.i16 _).bind
    ((Bounded.i8 _).bind tail)))).mono (by decide)

theorem bounded_closeWindow (windowId : Int) : Bounded (mcPacketCloseWindow protocol windowId) 5 :=
  .checked (.either (fun _ => (Bounded.u8 _).mono (by decide)) fun _ => .varint _)

theorem bounded_containerButton (windowId buttonId : Int) :
    Bounded (mcPacketContainerButton protocol windowId buttonId) 10 := by
  refine .checked (.either (fun _ => ?_) fun _ => ?_)
  · exact ((Bounded.i8 _).bind (.i8 _)).mono (by decide)
  · have window : Bounded (if protocol = 767 then mcPacketU8 (toByte windowId)
        else mcPacketVarint windowId) 5 :=
      .either (fun _ => (Bounded.u8 _).mono (by decide)) fun _ => .varint _
    exact (window.bind (.varint _)).mono (by decide)

theorem bounded_clientInformation (value : McClientInformation) :
    Bounded (mcPacketClientInformation protocol value) 41 := by
  refine .checked (.checkedThen fun good => ?_)
  simp only [not_or, not_lt] at good
  have tail : Bounded (do
      mcPacketBool value.chatColors
      if protocol ≤ 5 then do
        mcPacketU8 value.difficulty
        mcPacketBool value.showCape
      else do
        mcPacketU8 value.skinParts
        .when (107 ≤ protocol) (mcPacketVarint value.mainHand)
        .when (755 ≤ protocol) (mcPacketBool value.textFiltering)
        .when (757 ≤ protocol) (mcPacketBool value.serverListing)
        .when (768 ≤ protocol) (mcPacketVarint value.particleStatus)) 14 :=
    ((Bounded.bool _).bind (.either
      (fun _ => ((Bounded.u8 _).bind (.bool _)).mono (by decide : 2 ≤ 13))
      fun _ => ((Bounded.u8 _).bind ((Bounded.varint _).optional.bind ((Bounded.bool _).optional.bind
        ((Bounded.bool _).optional.bind (Bounded.varint _).optional)))).mono (by decide))).mono (by decide)
  exact ((Bounded.stringN good.2.1).bind ((Bounded.i8 _).bind (.either
    (fun _ => ((Bounded.i8 _).bind tail).mono (by decide : 15 ≤ 19))
    fun _ => (Bounded.varint _).bind tail))).mono (by decide)

theorem bounded_entityAction (value : McEntityAction) :
    Bounded (mcPacketEntityAction protocol value) 15 := by
  refine .checked (.either (fun _ => ?_) fun _ => ?_)
  · exact ((Bounded.i32 _).bind ((Bounded.i8 _).bind (.i32 _))).mono (by decide)
  · exact ((Bounded.varint _).bind ((Bounded.varint _).bind (.varint _))).mono (by decide)

theorem bounded_playerInput (flags : UInt8) : Bounded (mcPacketPlayerInput protocol flags) 1 :=
  .checked (.u8 flags)

theorem bounded_armAnimation (entityId hand : Int) :
    Bounded (mcPacketArmAnimation protocol entityId hand) 5 := by
  refine .checked (.either (fun _ => ?_) fun _ => .either (fun _ => ?_) fun _ => ?_)
  · exact ((Bounded.i32 _).bind (.i8 _)).mono (by decide)
  · exact .check
  · exact (Bounded.varint _).optional

theorem bounded_playerPosition (value : McPlayerPosition) :
    Bounded (mcPacketPlayerPosition protocol value) 41 := by
  refine .checked ?_
  exact ((Bounded.double _).bind ((Bounded.double _).bind ((Bounded.double _).optional.bind
    ((Bounded.double _).bind ((Bounded.float _).bind ((Bounded.float _).bind
      (.bool _))))))).mono (by decide)

theorem bounded_playerAbilities (value : McPlayerAbilities) :
    Bounded (mcPacketPlayerAbilities protocol value) 9 :=
  .checked (((Bounded.u8 _).bind ((Bounded.float _).bind (.float _)).optional).mono (by decide))

theorem bounded_blockDig (value : McBlockDig) : Bounded (mcPacketBlockDig protocol value) 15 := by
  refine .checkedThen fun good => .either (fun _ => ?_) fun _ => ?_
  · exact .checked (((Bounded.i8 _).bind ((Bounded.i32 _).bind ((Bounded.u8 _).bind
      ((Bounded.i32 _).bind (.i8 _))))).mono (by decide))
  · simp only [not_or, not_lt] at good
    -- the statuses have one byte, or the packet would not fit its helper's array
    have status : Bounded (mcPacketVarint (if 777 ≤ protocol ∧ 0 < value.status
        then value.status + 1 else value.status)) 1 := by
      split_ifs
      · exact .smallVarint (by omega) (by omega)
      · exact .smallVarint (by omega) (by omega)
    exact (status.bind ((bounded_position _).bind ((Bounded.i8 _).bind
      (Bounded.varint _).optional))).mono (by decide)

theorem bounded_attackEntity (entityId : Int) :
    Bounded (mcPacketAttackEntity protocol entityId) 11 := by
  refine .checked (.either (fun _ => ?_) fun _ => .either (fun _ => ?_) fun _ => ?_)
  · exact (Bounded.varint _).mono (by decide)
  · exact ((Bounded.i32 _).bind (.i8 _)).mono (by decide)
  · exact ((Bounded.varint _).bind ((Bounded.varint _).bind (Bounded.bool _).optional)).mono (by decide)

theorem bounded_respawnRequest : Bounded (mcPacketRespawnRequest protocol) 5 :=
  .checked (.either (fun _ => (Bounded.i8 _).mono (by decide)) fun _ => .varint _)

theorem bounded_command (command : List UInt8) (timestampMs salt : Int) :
    Bounded (mcPacketCommand protocol command timestampMs salt) 290 := by
  refine .checked (.checkedThen fun good => ?_)
  have short : (bareCommand command).length ≤ 256 := by
    simp only [not_or, not_lt] at good
    exact good.2
  refine .either (fun _ => ?_) fun _ => ?_
  · exact ((Bounded.varint _).bind ((Bounded.u8 _).bind (.data short))).mono (by decide)
  · have unsigned : Bounded (if protocol = 759 then mcPacketBool false
        else if protocol = 760 then do
          mcPacketBool false
          mcPacketVarint 0
          mcPacketBool false
        else do
          mcPacketVarint 0
          mcPacketBytes (.bytes [0, 0, 0])) 8 :=
      .either (fun _ => (Bounded.bool _).mono (by decide)) fun _ =>
        .either (fun _ => ((Bounded.bool _).bind ((Bounded.varint _).bind (.bool _))).mono
          (by decide)) fun _ => ((Bounded.varint _).bind (.data (Nat.le_refl 3))).mono (by decide)
    exact ((Bounded.stringN short).bind ((Bounded.i64 _).bind ((Bounded.i64 _).bind
      ((Bounded.varint _).bind unsigned))).optional).mono (by decide)

/-- A member of the size it was asked for. -/
def Compressor.Obeys (compressor : Compressor) : Prop :=
  ∀ content capacity member, compressor.gzip content capacity = some member →
    member.length ≤ capacity

theorem bounded_cursor (x y z : McFloat) :
    Bounded (packetBlockPlaceCursor protocol x y z) (if protocol ≤ 210 then 3 else 12) := by
  refine .checked ?_
  split_ifs
  · exact .checked (((Bounded.i8 _).bind ((Bounded.i8 _).bind (.i8 _))).mono (by decide))
  · exact ((Bounded.float _).bind ((Bounded.float _).bind (.float _))).mono (by decide)

/-- What the builders of legacy stacks write for a tag. -/
def heldNbtLimit (compressor : Compressor) (protocol : Int) (nbt : Buffer) : Nat :=
  if nbt.size = 0 then 2
  else if protocol ≤ 5 then compressor.compressBound nbt.size + 34
  else nbt.size

theorem bounded_gzip (obeys : compressor.Obeys) (content : List UInt8) :
    Bounded (packetGzip compressor content) (compressor.compressBound content.length + 34) := by
  refine .checked ?_
  split
  · exact .check
  · rename_i compressed found
    have short := obeys _ _ _ found
    exact .checked (((Bounded.i16 _).bind (.data short)).mono (by omega))

theorem bounded_reportedItem (obeys : compressor.Obeys) (value : McBlockPlace) :
    Bounded (packetLegacyReportedItem compressor protocol value)
      (5 + heldNbtLimit compressor protocol value.heldItemNbt) := by
  refine .checked (.either (fun _ => ?_) fun _ => .checkedThen fun good => ?_)
  · exact .checked ((Bounded.u16 _).mono (by omega))
  · have there : ¬ value.heldItemNbt.Missing := by
      simp only [not_or] at good
      exact good.2.2.2.2.2.2
    have tag : Bounded (if value.heldItemNbt.size = 0 then noItemTag protocol
        else do
          refuseWhen (¬ WholeNbt value.heldItemNbt.content)
          if 5 < protocol then mcPacketBytes value.heldItemNbt
          else packetGzip compressor value.heldItemNbt.content)
        (heldNbtLimit compressor protocol value.heldItemNbt) := by
      unfold heldNbtLimit
      split_ifs with nothing early later
      · exact bounded_noItemTag
      · omega
      · exact .checked (.buffer (content_length_le _))
      · have size : value.heldItemNbt.content.length = value.heldItemNbt.size := by
          cases nbt : value.heldItemNbt with
          | null size =>
              rw [nbt] at nothing there
              exact absurd nothing there
          | bytes content => rfl
        exact .checked ((bounded_gzip obeys _).mono (by rw [size]))
      · omega
    exact ((Bounded.u16 _).bind ((Bounded.u8 _).bind ((Bounded.u16 _).bind tag))).mono (by omega)

/-- What a placement says behind the location that legacy releases begin with. -/
theorem bounded_placeTail (obeys : compressor.Obeys) (value : McBlockPlace) :
    Bounded (if protocol ≤ 47 then do
        mcPacketI8 value.direction
        packetLegacyReportedItem compressor protocol value
        packetBlockPlaceCursor protocol value.cursorX value.cursorY value.cursorZ
      else if protocol ≤ 404 then do
        mcPacketVarint value.direction
        mcPacketVarint value.hand
        packetBlockPlaceCursor protocol value.cursorX value.cursorY value.cursorZ
      else do
        mcPacketVarint value.hand
        mcPacketPosition protocol value.location
        mcPacketVarint value.direction
        packetBlockPlaceCursor protocol value.cursorX value.cursorY value.cursorZ
        mcPacketBool value.insideBlock
        .when (768 ≤ protocol) (mcPacketBool value.worldBorderHit)
        .when (759 ≤ protocol) (mcPacketVarint value.sequence))
      (if protocol ≤ 47 then 9 + heldNbtLimit compressor protocol value.heldItemNbt else 37) := by
  have cursor : Bounded (packetBlockPlaceCursor protocol value.cursorX value.cursorY value.cursorZ)
      (if protocol ≤ 210 then 3 else 12) := bounded_cursor _ _ _
  by_cases early : protocol ≤ 47
  · rw [if_pos (by omega)] at cursor
    rw [if_pos early, if_pos early]
    exact ((Bounded.i8 _).bind ((bounded_reportedItem obeys value).bind cursor)).mono (by omega)
  · have cursor := cursor.mono (show _ ≤ 12 by split_ifs <;> decide)
    rw [if_neg early, if_neg early]
    refine .either (fun _ => ?_) fun _ => ?_
    · exact ((Bounded.varint _).bind ((Bounded.varint _).bind cursor)).mono (by decide)
    · exact ((Bounded.varint _).bind ((bounded_position _).bind ((Bounded.varint _).bind
        (cursor.bind ((Bounded.bool _).bind ((Bounded.bool _).optional.bind
          (Bounded.varint _).optional)))))).mono (by decide)

theorem bounded_blockPlace (obeys : compressor.Obeys) (value : McBlockPlace) :
    Bounded (mcPacketBlockPlace compressor protocol value)
      (if protocol ≤ 47 then 18 + heldNbtLimit compressor protocol value.heldItemNbt else 54) := by
  have old : Bounded (do
      refuseWhen (value.location.y < 0 ∨ 255 < value.location.y)
      mcPacketI32 value.location.x
      mcPacketU8 (toByte value.location.y)
      mcPacketI32 value.location.z) 9 :=
    .checked (((Bounded.i32 _).bind ((Bounded.u8 _).bind (.i32 _))).mono (by decide))
  refine .checked ((old.when.bind ((bounded_position _).when.bind
    (bounded_placeTail obeys value))).mono ?_)
  split_ifs <;> omega

theorem bounded_useItem (obeys : compressor.Obeys) (value : McUseItem) :
    Bounded (mcPacketUseItem compressor protocol value)
      (if protocol ≤ 47 then 18 + heldNbtLimit compressor protocol value.heldItemNbt else 18) := by
  have cursor : Bounded (packetBlockPlaceCursor protocol ⟨0⟩ ⟨0⟩ ⟨0⟩)
      (if protocol ≤ 210 then 3 else 12) := bounded_cursor _ _ _
  have nowhere : Bounded (if protocol ≤ 5 then do
        mcPacketI32 (-1)
        mcPacketU8 255
        mcPacketI32 (-1)
      else mcPacketPosition protocol ⟨-1, -1, -1⟩) 9 :=
    .either (fun _ => ((Bounded.i32 _).bind ((Bounded.u8 _).bind (.i32 _))).mono (by decide))
      fun _ => (bounded_position _).mono (by decide)
  have item : Bounded (packetLegacyReportedItem compressor protocol value.legacy)
      (5 + heldNbtLimit compressor protocol value.heldItemNbt) :=
    bounded_reportedItem obeys value.legacy
  refine .checked ?_
  by_cases early : protocol ≤ 47
  · rw [if_pos (by omega)] at cursor
    rw [if_pos early, if_pos early]
    exact (nowhere.bind ((Bounded.i8 _).bind (item.bind cursor))).mono (by omega)
  · rw [if_neg early, if_neg early]
    exact ((Bounded.varint _).bind ((Bounded.varint _).optional.bind ((Bounded.float _).bind
      (.float _)).optional)).mono (by decide)

end Builders

end McProtocol
