import McProtocol.Nbt
import McProtocol.Uuid
import McProtocol.PlayerPosition
import McProtocol.Client.Connect

/-! # Packet builders

Each builder checks its arguments and writes the body of one serverbound packet in the
layout of a release.
-/

namespace McProtocol

/-- The cast to `uint8_t`. -/
def toByte (value : Int) : UInt8 := UInt8.ofNat (toUnsigned 8 value)

theorem toByte_toNat (byte : UInt8) : toByte byte.toNat = byte := by
  have small := byte.toNat_lt
  rw [toByte, toUnsigned, Int.emod_eq_of_lt (by omega) (by omega), Int.toNat_natCast,
    UInt8.ofNat_toNat]

theorem toNat_toByte {value : Int} (natural : 0 ≤ value) (small : value < 2 ^ 8) :
    ((toByte value).toNat : Int) = value := by
  rw [toByte, UInt8.toNat_ofNat', Nat.mod_eq_of_lt (toUnsigned_lt 8 value), toUnsigned,
    Int.emod_eq_of_lt natural small, Int.toNat_of_nonneg natural]

def int16Max : Nat := 2 ^ 15 - 1

def uint16Max : Nat := 2 ^ 16 - 1

structure McPosition where
  x : Int
  y : Int
  z : Int
  deriving Repr, DecidableEq

def mcPacketPosition (protocol : Int) (value : McPosition) : WriteM Unit := do
  refuseWhen (mcProtocolSupported protocol = false
    ∨ value.x < -33554432 ∨ 33554431 < value.x
    ∨ value.y < -2048 ∨ 2047 < value.y
    ∨ value.z < -33554432 ∨ 33554431 < value.z)
  let x := toUnsigned 32 value.x &&& 0x3ffffff
  let y := toUnsigned 32 value.y &&& 0xfff
  let z := toUnsigned 32 value.z &&& 0x3ffffff
  mcPacketU64 (if 477 ≤ protocol then x <<< 38 ||| z <<< 12 ||| y
    else x <<< 38 ||| y <<< 26 ||| z)

/-- The tag that ends a legacy item: a length of `-1` up to 5, an empty document from
47 on. -/
def noItemTag (protocol : Int) : WriteM Unit :=
  if protocol ≤ 5 then mcPacketI16 (-1) else mcPacketU8 McNbtType.endTag.toByte

/-- An item without components or NBT; none where `count` is `0`. -/
def mcPacketPlainItem (protocol itemId count : Int) : WriteM Unit := do
  refuseWhen (mcProtocolSupported protocol = false ∨ count < 0 ∨ 127 < count
    ∨ count ≠ 0 ∧ itemId ≤ 0 ∨ protocol ≤ 401 ∧ uint16Max < itemId)
  if protocol ≤ 340 then do
    mcPacketU16 (if count = 0 then uint16Max else toUnsigned 16 itemId)
    .when (count ≠ 0) (do
      mcPacketU8 (toByte count)
      mcPacketU16 0
      noItemTag protocol)
  else if protocol = 393 ∨ protocol = 401 then do
    mcPacketU16 (if count = 0 then uint16Max else toUnsigned 16 itemId)
    .when (count ≠ 0) (do
      mcPacketU8 (toByte count)
      mcPacketU8 McNbtType.endTag.toByte)
  else if protocol < 766 then do
    mcPacketBool (count ≠ 0)
    .when (count ≠ 0) (do
      mcPacketVarint itemId
      mcPacketU8 (toByte count)
      mcPacketU8 McNbtType.endTag.toByte)
  else do
    mcPacketVarint count
    .when (count ≠ 0) (do
      mcPacketVarint itemId
      mcPacketVarint 0
      mcPacketVarint 0)

def mcPacketSetCreativeSlotDamage (protocol slot itemId count damage : Int) : WriteM Unit := do
  refuseWhen (mcProtocolSupported protocol = false ∨ count < 0 ∨ 127 < count
    ∨ damage < 0 ∨ uint16Max < damage
    ∨ count ≠ 0 ∧ itemId ≤ 0 ∨ count = 0 ∧ damage ≠ 0
    ∨ protocol ≤ 401 ∧ uint16Max < itemId ∨ 340 < protocol ∧ damage ≠ 0)
  mcPacketI16 slot
  if 340 < protocol then mcPacketPlainItem protocol itemId count
  else do
    mcPacketU16 (if count = 0 then uint16Max else toUnsigned 16 itemId)
    .when (count ≠ 0) (do
      mcPacketU8 (toByte count)
      mcPacketU16 (toUnsigned 16 damage)
      noItemTag protocol)

def mcPacketSetCreativeSlot (protocol slot itemId count : Int) : WriteM Unit :=
  mcPacketSetCreativeSlotDamage protocol slot itemId count 0

/-- An array argument, and the count that comes with it. -/
inductive Items (α : Type) where
  | null (count : Nat)
  | list (items : List α)

namespace Items

variable {α : Type}

def count : Items α → Nat
  | null count => count
  | list items => items.length

def items : Items α → List α
  | null _ => []
  | list items => items

/-- `count != 0 && array == NULL`. -/
def Missing : Items α → Prop
  | null count => count ≠ 0
  | list _ => False

instance : DecidablePred (@Missing α)
  | null count => inferInstanceAs (Decidable (count ≠ 0))
  | list _ => inferInstanceAs (Decidable False)

end Items

structure McItemComponentPatch where
  typeId : Int
  data : Buffer
  deriving Repr, DecidableEq

def packetAddedComponent (patch : McItemComponentPatch) : WriteM Unit := do
  refuseWhen (patch.typeId < 0 ∨ int32Max < patch.data.size ∨ patch.data.Missing)
  mcPacketVarint patch.typeId
  mcPacketBufferVarint patch.data

def packetRemovedComponent (typeId : Int) : WriteM Unit := do
  refuseWhen (typeId < 0)
  mcPacketVarint typeId

/-- One write after the other. -/
def writeEach {α : Type} (write : α → WriteM Unit) : List α → WriteM Unit
  | [] => pure ()
  | item :: items => do
      write item
      writeEach write items

def mcPacketUntrustedComponentItem (protocol itemId count : Int)
    (added : Items McItemComponentPatch) (removed : Items Int) : WriteM Unit := do
  refuseWhen (mcProtocolSupported protocol = false ∨ protocol < 770 ∨ count < 0 ∨ 127 < count
    ∨ count ≠ 0 ∧ itemId ≤ 0 ∨ int32Max < added.count ∨ int32Max < removed.count
    ∨ added.Missing ∨ removed.Missing)
  mcPacketVarint count
  .when (count ≠ 0) (do
    mcPacketVarint itemId
    mcPacketVarint added.count
    mcPacketVarint removed.count
    writeEach packetAddedComponent added.items
    writeEach packetRemovedComponent removed.items)

def mcPacketHeldItemSlot (protocol slot : Int) : WriteM Unit := do
  refuseWhen (mcProtocolSupported protocol = false ∨ slot < 0 ∨ 8 < slot)
  mcPacketI16 slot

structure McWindowClick where
  windowId : Int
  stateId : Int
  slot : Int
  mouseButton : Int
  actionNumber : Int
  mode : Int
  clickedItemId : Int
  clickedItemCount : Int
  deriving Repr, DecidableEq

def mcPacketWindowClick (protocol : Int) (value : McWindowClick) : WriteM Unit := do
  refuseWhen (mcProtocolSupported protocol = false
    ∨ value.stateId < 0 ∨ value.mode < 0 ∨ 6 < value.mode
    ∨ value.clickedItemCount < 0 ∨ 127 < value.clickedItemCount
    ∨ value.clickedItemCount ≠ 0 ∧ value.clickedItemId ≤ 0
    ∨ 755 ≤ protocol ∧ value.clickedItemCount ≠ 0
    ∨ protocol ≤ 5 ∧ (value.windowId < -128 ∨ 127 < value.windowId)
    ∨ 47 ≤ protocol ∧ protocol ≤ 767 ∧ (value.windowId < 0 ∨ 255 < value.windowId)
    ∨ 768 ≤ protocol ∧ value.windowId < 0)
  (if protocol ≤ 5 then mcPacketI8 value.windowId
    else if protocol ≤ 767 then mcPacketU8 (toByte value.windowId)
    else mcPacketVarint value.windowId)
  .when (756 ≤ protocol) (mcPacketVarint value.stateId)
  mcPacketI16 value.slot
  mcPacketI8 value.mouseButton
  if protocol ≤ 754 then do
    mcPacketI16 value.actionNumber
    mcPacketI8 value.mode
    mcPacketPlainItem protocol value.clickedItemId value.clickedItemCount
  else do
    (if protocol = 755 then mcPacketI8 value.mode else mcPacketVarint value.mode)
    mcPacketVarint 0
    if protocol < 770 then mcPacketPlainItem protocol 0 0 else mcPacketBool false

structure McEmptyWindowClick where
  windowId : Int
  stateId : Int
  slot : Int
  mouseButton : Int
  actionNumber : Int
  mode : Int
  deriving Repr, DecidableEq

def mcPacketEmptyWindowClick (protocol : Int) (value : McEmptyWindowClick) : WriteM Unit :=
  mcPacketWindowClick protocol
    { windowId := value.windowId
      stateId := value.stateId
      slot := value.slot
      mouseButton := value.mouseButton
      actionNumber := value.actionNumber
      mode := value.mode
      clickedItemId := 0
      clickedItemCount := 0 }

def mcPacketCloseWindow (protocol windowId : Int) : WriteM Unit := do
  refuseWhen (mcProtocolSupported protocol = false ∨ windowId < 0
    ∨ protocol ≤ 767 ∧ 255 < windowId)
  if protocol ≤ 767 then mcPacketU8 (toByte windowId) else mcPacketVarint windowId

def mcPacketContainerButton (protocol windowId buttonId : Int) : WriteM Unit := do
  refuseWhen (mcProtocolSupported protocol = false ∨ windowId < 0 ∨ buttonId < 0
    ∨ protocol ≤ 766 ∧ (127 < windowId ∨ 127 < buttonId)
    ∨ protocol = 767 ∧ 255 < windowId)
  if protocol ≤ 766 then do
    mcPacketI8 windowId
    mcPacketI8 buttonId
  else do
    (if protocol = 767 then mcPacketU8 (toByte windowId) else mcPacketVarint windowId)
    mcPacketVarint buttonId

/-- `McEntityActionKind`, and the integers that are none of its enumerators. -/
inductive McEntityActionKind where
  | startSneaking
  | stopSneaking
  | leaveBed
  | startSprinting
  | stopSprinting
  | startHorseJump
  | stopHorseJump
  | openVehicleInventory
  | startElytraFlying
  | unknown (code : Int)
  deriving Repr, DecidableEq

/-- `entity_action_id`. -/
def entityActionId (protocol : Int) : McEntityActionKind → Option Int
  | .startSneaking => if 771 ≤ protocol then none else some (if protocol ≤ 5 then 1 else 0)
  | .stopSneaking => if 771 ≤ protocol then none else some (if protocol ≤ 5 then 2 else 1)
  | .leaveBed => some (if protocol ≤ 5 then 3 else if 771 ≤ protocol then 0 else 2)
  | .startSprinting => some (if protocol ≤ 5 then 4 else if 771 ≤ protocol then 1 else 3)
  | .stopSprinting => some (if protocol ≤ 5 then 5 else if 771 ≤ protocol then 2 else 4)
  | .startHorseJump => some (if protocol ≤ 5 then 6 else if 771 ≤ protocol then 3 else 5)
  | .stopHorseJump => some (if protocol ≤ 5 then 7 else if 771 ≤ protocol then 4 else 6)
  | .openVehicleInventory => some (if protocol ≤ 5 then 8 else if 771 ≤ protocol then 5 else 7)
  | .startElytraFlying =>
      if protocol < 107 then none else some (if 771 ≤ protocol then 6 else 8)
  | .unknown _ => none

structure McEntityAction where
  entityId : Int
  action : McEntityActionKind
  jumpBoost : Int
  deriving Repr, DecidableEq

def mcPacketEntityAction (protocol : Int) (value : McEntityAction) : WriteM Unit := do
  let actionId := entityActionId protocol value.action
  refuseWhen (mcProtocolSupported protocol = false ∨ value.entityId < 0 ∨ value.jumpBoost < 0
    ∨ actionId = none)
  if protocol ≤ 5 then do
    mcPacketI32 value.entityId
    mcPacketI8 (actionId.getD (-1))
    mcPacketI32 value.jumpBoost
  else do
    mcPacketVarint value.entityId
    mcPacketVarint (actionId.getD (-1))
    mcPacketVarint value.jumpBoost

def mcPacketPlayerInput (protocol : Int) (flags : UInt8) : WriteM Unit := do
  refuseWhen (mcProtocolSupported protocol = false ∨ protocol < 768 ∨ flags &&& 0x80 ≠ 0)
  mcPacketU8 flags

/-- 47 names neither entity nor hand, and 777 has an empty body: both leave the packet
alone, failed or not. -/
def mcPacketArmAnimation (protocol entityId hand : Int) : WriteM Unit := do
  refuseWhen (mcProtocolSupported protocol = false ∨ protocol ≤ 5 ∧ entityId < 0
    ∨ 107 ≤ protocol ∧ (hand < 0 ∨ 1 < hand))
  if protocol ≤ 5 then do
    mcPacketI32 entityId
    mcPacketI8 1
  else if 777 ≤ protocol then refuseWhen (hand ≠ 0)
  else .when (protocol ≠ 47) (mcPacketVarint hand)

structure McPlayerAbilities where
  flags : UInt8
  flyingSpeed : McFloat
  walkingSpeed : McFloat
  deriving Repr, DecidableEq

def mcPacketPlayerAbilities (protocol : Int) (value : McPlayerAbilities) : WriteM Unit := do
  refuseWhen (mcProtocolSupported protocol = false)
  mcPacketU8 value.flags
  .when (protocol < 735) (do
    mcPacketFloat value.flyingSpeed
    mcPacketFloat value.walkingSpeed)

structure McBlockDig where
  status : Int
  location : McPosition
  face : Int
  sequence : Int
  deriving Repr, DecidableEq

def mcPacketBlockDig (protocol : Int) (value : McBlockDig) : WriteM Unit := do
  refuseWhen (mcProtocolSupported protocol = false ∨ value.status < 0 ∨ 6 < value.status
    ∨ value.face < 0 ∨ 5 < value.face ∨ value.sequence < 0)
  if protocol ≤ 5 then do
    refuseWhen (value.location.y < 0 ∨ 255 < value.location.y)
    mcPacketI8 value.status
    mcPacketI32 value.location.x
    mcPacketU8 (toByte value.location.y)
    mcPacketI32 value.location.z
    mcPacketI8 value.face
  else do
    -- 777 inserted a status behind the first
    mcPacketVarint (if 777 ≤ protocol ∧ 0 < value.status then value.status + 1 else value.status)
    mcPacketPosition protocol value.location
    mcPacketI8 value.face
    .when (759 ≤ protocol) (mcPacketVarint value.sequence)

/-- What the builders need of zlib and of memory: `deflate` in one gzip member, into a
buffer of that capacity. -/
structure Compressor where
  compressBound : Nat → Nat
  grants : Nat → Bool
  gzip : List UInt8 → Nat → Option (List UInt8)

structure McBlockPlace where
  location : McPosition
  direction : Int
  hand : Int
  heldItemId : Int
  heldItemCount : Int
  heldItemDamage : Int
  heldItemNbt : Buffer
  cursorX : McFloat
  cursorY : McFloat
  cursorZ : McFloat
  insideBlock : Bool
  worldBorderHit : Bool
  sequence : Int
  heldItemNbtCompressed : Bool
  deriving Repr, DecidableEq

/-- A coordinate between 0 and 1. -/
def InUnit (value : McFloat) : Prop :=
  value.isFinite = true ∧ ¬ value < 0 ∧ ¬ 1 < value

instance : DecidablePred InUnit := fun _ => inferInstanceAs (Decidable (_ ∧ _))

/-- The cast to `int8_t`, which drops the fraction. -/
def sixteenths (value : McFloat) : Int := (value * 16).units.tdiv Ieee.binary32.one

/-- Whether the cast kept the value. -/
def Sixteenth (value : McFloat) : Prop :=
  (Ieee.Binary.ofInt (sixteenths value) : McFloat).units = (value * 16).units

instance : DecidablePred Sixteenth := fun _ => inferInstanceAs (Decidable (_ = _))

def packetBlockPlaceCursor (protocol : Int) (x y z : McFloat) : WriteM Unit := do
  refuseWhen (¬ InUnit x ∨ ¬ InUnit y ∨ ¬ InUnit z)
  if protocol ≤ 210 then do
    refuseWhen (¬ Sixteenth x ∨ ¬ Sixteenth y ∨ ¬ Sixteenth z)
    mcPacketI8 (sixteenths x)
    mcPacketI8 (sixteenths y)
    mcPacketI8 (sixteenths z)
  else do
    mcPacketFloat x
    mcPacketFloat y
    mcPacketFloat z

/-- One whole document in uncompressed NBT. -/
def WholeNbt (content : List UInt8) : Prop :=
  let outcome := (mcReaderNbt true).run (mcReaderInit content)
  outcome.1 ≠ none ∧ mcReaderRemaining outcome.2 = 0

instance : DecidablePred WholeNbt := fun _ => inferInstanceAs (Decidable (_ ∧ _))

/-- The gzip member 1.7 embeds. -/
def packetGzip (compressor : Compressor) (content : List UInt8) : WriteM Unit := do
  let bound := compressor.compressBound content.length + 32
  refuseWhen (int16Max < bound ∨ compressor.grants bound = false)
  match compressor.gzip content bound with
  | none => refuseWhen True
  | some compressed => do
      refuseWhen (int16Max < compressed.length)
      mcPacketI16 compressed.length
      mcPacketBytes compressed

/-- The held stack as a client up to 47 reports it. -/
def packetLegacyReportedItem (compressor : Compressor) (protocol : Int) (value : McBlockPlace) :
    WriteM Unit := do
  refuseWhen (value.heldItemNbtCompressed = true)
  if value.heldItemCount = 0 then do
    refuseWhen (value.heldItemId ≠ 0 ∨ value.heldItemDamage ≠ 0 ∨ value.heldItemNbt.size ≠ 0)
    mcPacketU16 uint16Max
  else do
    refuseWhen (value.heldItemId ≤ 0 ∨ int16Max < value.heldItemId
      ∨ value.heldItemCount < 0 ∨ 127 < value.heldItemCount
      ∨ value.heldItemDamage < 0 ∨ uint16Max < value.heldItemDamage
      ∨ value.heldItemNbt.Missing)
    mcPacketU16 (toUnsigned 16 value.heldItemId)
    mcPacketU8 (toByte value.heldItemCount)
    mcPacketU16 (toUnsigned 16 value.heldItemDamage)
    if value.heldItemNbt.size = 0 then noItemTag protocol
    else do
      refuseWhen (¬ WholeNbt value.heldItemNbt.content)
      if 5 < protocol then mcPacketBytes value.heldItemNbt
      else packetGzip compressor value.heldItemNbt.content

def mcPacketBlockPlace (compressor : Compressor) (protocol : Int) (value : McBlockPlace) :
    WriteM Unit := do
  refuseWhen (mcProtocolSupported protocol = false ∨ value.direction < 0 ∨ 5 < value.direction
    ∨ value.hand < 0 ∨ 1 < value.hand ∨ value.sequence < 0
    ∨ value.heldItemNbtCompressed = true)
  .when (protocol ≤ 5) (do
    refuseWhen (value.location.y < 0 ∨ 255 < value.location.y)
    mcPacketI32 value.location.x
    mcPacketU8 (toByte value.location.y)
    mcPacketI32 value.location.z)
  .when (5 < protocol ∧ protocol ≤ 404) (mcPacketPosition protocol value.location)
  if protocol ≤ 47 then do
    mcPacketI8 value.direction
    packetLegacyReportedItem compressor protocol value
    packetBlockPlaceCursor protocol value.cursorX value.cursorY value.cursorZ
  else if protocol ≤ 404 then do
    mcPacketVarint value.direction
    mcPacketVarint value.hand
    packetBlockPlaceCursor protocol value.cursorX value.cursorY value.cursorZ
  else do
    mcPacketVarint value.hand
    mcPacketPosition protocol value.location
    mcPacketVarint value.direction
    packetBlockPlaceCursor protocol value.cursorX value.cursorY value.cursorZ
    mcPacketBool value.insideBlock
    .when (768 ≤ protocol) (mcPacketBool value.worldBorderHit)
    .when (759 ≤ protocol) (mcPacketVarint value.sequence)

structure McUseItem where
  hand : Int
  heldItemId : Int
  heldItemCount : Int
  heldItemDamage : Int
  heldItemNbt : Buffer
  sequence : Int
  yaw : McFloat
  pitch : McFloat
  heldItemNbtCompressed : Bool
  deriving Repr, DecidableEq

/-- The block a legacy use of an item is placed against. -/
def McUseItem.legacy (value : McUseItem) : McBlockPlace where
  location := ⟨0, 0, 0⟩
  direction := 0
  hand := 0
  heldItemId := value.heldItemId
  heldItemCount := value.heldItemCount
  heldItemDamage := value.heldItemDamage
  heldItemNbt := value.heldItemNbt
  cursorX := ⟨0⟩
  cursorY := ⟨0⟩
  cursorZ := ⟨0⟩
  insideBlock := false
  worldBorderHit := false
  sequence := 0
  heldItemNbtCompressed := false

def mcPacketUseItem (compressor : Compressor) (protocol : Int) (value : McUseItem) :
    WriteM Unit := do
  refuseWhen (mcProtocolSupported protocol = false ∨ value.hand < 0 ∨ 1 < value.hand
    ∨ value.sequence < 0 ∨ value.heldItemNbtCompressed = true
    ∨ value.yaw.isFinite = false ∨ value.pitch.isFinite = false)
  if protocol ≤ 47 then do
    (if protocol ≤ 5 then do
      mcPacketI32 (-1)
      mcPacketU8 255
      mcPacketI32 (-1)
    else mcPacketPosition protocol ⟨-1, -1, -1⟩)
    mcPacketI8 (-1)
    packetLegacyReportedItem compressor protocol value.legacy
    packetBlockPlaceCursor protocol ⟨0⟩ ⟨0⟩ ⟨0⟩
  else do
    mcPacketVarint value.hand
    .when (759 ≤ protocol) (mcPacketVarint value.sequence)
    .when (767 ≤ protocol) (do
      mcPacketFloat value.yaw
      mcPacketFloat value.pitch)

def mcPacketAttackEntity (protocol entityId : Int) : WriteM Unit := do
  refuseWhen (mcProtocolSupported protocol = false ∨ entityId ≤ 0)
  if 775 ≤ protocol then mcPacketVarint entityId
  else if protocol ≤ 5 then do
    mcPacketI32 entityId
    mcPacketI8 1
  else do
    mcPacketVarint entityId
    mcPacketVarint 1
    .when (735 ≤ protocol) (mcPacketBool false)

def mcPacketRespawnRequest (protocol : Int) : WriteM Unit := do
  refuseWhen (mcProtocolSupported protocol = false)
  if protocol ≤ 5 then mcPacketI8 0 else mcPacketVarint 0

/-- A command without its slash. -/
def bareCommand : List UInt8 → List UInt8
  | 47 :: bare => bare
  | command => command

def mcPacketCommand (protocol : Int) (command : List UInt8) (timestampMs salt : Int) :
    WriteM Unit := do
  let bare := bareCommand command
  refuseWhen (mcProtocolSupported protocol = false)
  refuseWhen (bare.length = 0 ∨ 256 < bare.length)
  if protocol ≤ 758 then do
    mcPacketVarint (bare.length + 1)
    mcPacketU8 47
    mcPacketBytes bare
  else do
    mcPacketStringN bare
    .when (protocol < 766) (do
      mcPacketI64 timestampMs
      mcPacketI64 salt
      mcPacketVarint 0
      if protocol = 759 then mcPacketBool false
      else if protocol = 760 then do
        mcPacketBool false
        mcPacketVarint 0
        mcPacketBool false
      else do
        mcPacketVarint 0
        mcPacketBytes (.bytes [0, 0, 0]))

end McProtocol
