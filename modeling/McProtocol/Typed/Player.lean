import McProtocol.Typed.Item

/-! # What a player sends

The decoders of the packets that move a player, place and dig blocks, and use items
and entities.
-/

namespace McProtocol

def mcMoveHasPosition : Nat := 1 <<< 0
def mcMoveHasRotation : Nat := 1 <<< 1
def mcMoveHasOnGround : Nat := 1 <<< 2
def mcMoveHasDelta : Nat := 1 <<< 4
def mcMoveHasStanceY : Nat := 1 <<< 5
def mcMoveHasHorizontalCollision : Nat := 1 <<< 6

/-- The flag, where it applies. -/
def flagWhen (flag : Nat) (condition : Prop) [Decidable condition] : Nat :=
  if condition then flag else 0

structure McPlayerMovementPacket where
  x : McDouble
  y : McDouble
  z : McDouble
  wireY : McDouble
  yaw : McFloat
  pitch : McFloat
  onGround : Bool
  horizontalCollision : Bool
  wireYIsStance : Bool
  presence : Nat
  rawFlags : Nat
  deriving Repr, DecidableEq

/-- Finite angles, and in strict mode no steeper than straight up or down. -/
def typedFiniteRotation (yaw pitch : McFloat) : ReadM Unit :=
  orReject .invalidPacketBody 0 do
    require (yaw.isFinite = true ∧ pitch.isFinite = true)
    requireStrict (¬ (pitch < -90 ∨ 90 < pitch))

/-- `0.1` and `1.65`, how far the eyes may be above the feet. -/
def leastStance : McDouble := ⟨0x3fb999999999999a⟩

def greatestStance : McDouble := ⟨0x3ffa666666666666⟩

/-- The eye height that follows the feet up to 5. -/
def readStance (y : McDouble) : ReadM McDouble := do
  let wireY ← mcReaderDouble
  let stance := wireY - y
  orReject .invalidPacketBody 0 do
    require (wireY.isFinite = true)
    requireStrict (¬ (stance < leastStance ∨ greatestStance < stance))
  pure wireY

structure MovementPosition where
  x : McDouble
  y : McDouble
  z : McDouble
  wireY : McDouble

def readMovementPosition (protocol : Int) : ReadM MovementPosition := do
  let x ← mcReaderDouble
  let y ← mcReaderDouble
  let wireY ← (if protocol ≤ 5 then readStance y else pure y)
  orReject .invalidPacketBody 0 do
    let z ← mcReaderDouble
    require (x.isFinite = true ∧ y.isFinite = true ∧ z.isFinite = true)
    pure ⟨x, y, z, wireY⟩

def readMovementRotation : ReadM (McFloat × McFloat) := do
  let yaw ← mcReaderFloat
  let pitch ← mcReaderFloat
  typedFiniteRotation yaw pitch
  pure (yaw, pitch)

/-- The two flags from 768 on, the one boolean before. -/
def readMovementFlags (protocol : Int) : ReadM UInt8 :=
  if 768 ≤ protocol then orReject .invalidPacketBody 0 do
    let flags ← mcReaderU8
    require (flags &&& 0xfc = 0)
    pure flags
  else do
    let onGround ← mcReaderBool
    pure (if onGround then 1 else 0)

def typedDecodeMovement (protocol : Int) (name : String) :
    DecodeM protocol McPlayerMovementPacket := do
  let hasPosition := name == "position" || name == "position_look"
  let hasRotation := name == "look" || name == "position_look"
  let position ← (if hasPosition then readMovementPosition protocol else pure ⟨0, 0, 0, 0⟩)
  let (yaw, pitch) ← (if hasRotation then readMovementRotation else pure (0, 0))
  let flags ← readMovementFlags protocol
  pure
    { x := position.x
      y := position.y
      z := position.z
      wireY := position.wireY
      yaw := yaw
      pitch := pitch
      onGround := flags &&& 1 != 0
      horizontalCollision := flags &&& 2 != 0
      wireYIsStance := hasPosition && decide (protocol ≤ 5)
      presence := flagWhen mcMoveHasPosition (hasPosition = true)
        ||| flagWhen mcMoveHasStanceY (hasPosition = true ∧ protocol ≤ 5)
        ||| flagWhen mcMoveHasRotation (hasRotation = true) ||| mcMoveHasOnGround
        ||| flagWhen mcMoveHasHorizontalCollision (768 ≤ protocol)
      rawFlags := flags.toNat }

structure McPlayerInputPacket where
  sideways : McFloat
  forward : McFloat
  flags : UInt8
  bitset : Bool
  deriving Repr, DecidableEq

/-- `fabsf(value) <= 1.0F` of a finite value. -/
def AtMostOne (value : McFloat) : Prop :=
  value.isFinite = true ∧ ¬ value < -1 ∧ ¬ 1 < value

instance : DecidablePred AtMostOne := fun _ => inferInstanceAs (Decidable (_ ∧ _))

/-- The flags of a steered vehicle: two booleans up to 5. -/
def readSteerFlags (protocol : Int) : ReadM UInt8 :=
  if protocol ≤ 5 then do
    let jump ← mcReaderBool
    let unmount ← mcReaderBool
    pure ((if jump then 1 else 0) ||| (if unmount then 2 else 0))
  else mcReaderU8

def typedDecodePlayerInput (protocol : Int) (bitset : Bool) :
    DecodeM protocol McPlayerInputPacket :=
  if bitset then .orInvalid do
    let flags ← mcReaderU8
    require (flags &&& 0x80 = 0)
    pure ⟨0, 0, flags, true⟩
  else do
    let sideways ← mcReaderFloat
    let forward ← mcReaderFloat
    let flags ← readSteerFlags protocol
    typedRequire (AtMostOne sideways ∧ AtMostOne forward ∧ flags &&& 0xfc = 0)
    pure ⟨sideways, forward, flags, false⟩

/-- The enumerators, in their order. -/
def McEntityActionKind.candidates : List McEntityActionKind :=
  [.startSneaking, .stopSneaking, .leaveBed, .startSprinting, .stopSprinting, .startHorseJump,
    .stopHorseJump, .openVehicleInventory, .startElytraFlying]

def typedDecodeEntityAction (protocol : Int) : DecodeM protocol McEntityAction := do
  let entityId ← readEntityId protocol
  let action ← (if protocol ≤ 5 then mcReaderI8 else mcReaderVarint)
  let jumpBoost ← (if protocol ≤ 5 then mcReaderI32 else mcReaderVarint)
  match McEntityActionKind.candidates.find? (entityActionId protocol · = some action) with
  | none => reject .invalidPacketBody 0
  | some canonical => .orInvalid do
      require (0 ≤ entityId ∧ 0 ≤ jumpBoost)
      requireStrict (jumpBoost ≤ 100)
      pure ⟨entityId, canonical, jumpBoost⟩

def typedDecodeAbilities (protocol : Int) (direction : McPacketDirection) :
    DecodeM protocol McPlayerAbilities := do
  let flags ← .orInvalid do
    let flags ← mcReaderU8
    require (flags &&& 0xf0 = 0)
    pure flags
  if direction = .clientbound ∨ protocol < 735 then .orInvalid do
    let flyingSpeed ← mcReaderFloat
    let walkingSpeed ← mcReaderFloat
    require (flyingSpeed.isFinite = true ∧ walkingSpeed.isFinite = true)
    require (¬ flyingSpeed < 0 ∧ ¬ walkingSpeed < 0)
    requireStrict (¬ (1 < flyingSpeed ∨ 1 < walkingSpeed))
    pure ⟨flags, flyingSpeed, walkingSpeed⟩
  else pure ⟨flags, 0, 0⟩

structure McVehicleMovePacket where
  x : McDouble
  y : McDouble
  z : McDouble
  yaw : McFloat
  pitch : McFloat
  onGround : Bool
  presence : Nat
  deriving Repr, DecidableEq

def typedDecodeVehicleMove (protocol : Int) : DecodeM protocol McVehicleMovePacket :=
  .orInvalid do
    let x ← mcReaderDouble
    let y ← mcReaderDouble
    let z ← mcReaderDouble
    let yaw ← mcReaderFloat
    let pitch ← mcReaderFloat
    require (x.isFinite = true ∧ y.isFinite = true ∧ z.isFinite = true)
    typedFiniteRotation yaw pitch
    let onGround ← (if 770 ≤ protocol then mcReaderBool else pure false)
    pure ⟨x, y, z, yaw, pitch, onGround, flagWhen mcMoveHasOnGround (770 ≤ protocol)⟩

def mcUseEntityHasTarget : Nat := 1 <<< 0
def mcUseEntityHasHand : Nat := 1 <<< 1
def mcUseEntityHasSneaking : Nat := 1 <<< 2

structure McUseEntityPacket where
  entityId : Int
  action : Int
  targetX : McFloat
  targetY : McFloat
  targetZ : McFloat
  hand : Int
  sneaking : Bool
  presence : Nat
  deriving Repr, DecidableEq

/-- What an interaction is aimed at. -/
def readTarget : ReadM (McFloat × McFloat × McFloat) :=
  orReject .invalidPacketBody 0 do
    let x ← mcReaderFloat
    let y ← mcReaderFloat
    let z ← mcReaderFloat
    require (x.isFinite = true ∧ y.isFinite = true ∧ z.isFinite = true)
    pure (x, y, z)

/-- One of the two hands. -/
def readHand : ReadM Int :=
  orReject .invalidPacketBody 0 do
    let hand ← mcReaderVarint
    require (0 ≤ hand ∧ hand ≤ 1)
    pure hand

def typedDecodeUseEntity (protocol : Int) (dedicatedAttack : Bool) :
    DecodeM protocol McUseEntityPacket := do
  let entityId ← (if dedicatedAttack = false ∧ protocol ≤ 5 then mcReaderI32 else mcReaderVarint)
  let action ← (if dedicatedAttack then pure 1
    else if protocol ≤ 5 then mcReaderI8 else mcReaderVarint)
  let hasTarget := !dedicatedAttack && action == 2
  let (targetX, targetY, targetZ) ← (if hasTarget then readTarget else pure (0, 0, 0))
  let hasHand := !dedicatedAttack && decide (107 ≤ protocol) && (action == 0 || action == 2)
  let hand ← (if hasHand then readHand else pure 0)
  let hasSneaking := !dedicatedAttack && decide (735 ≤ protocol)
  let sneaking ← (if hasSneaking then mcReaderBool else pure false)
  typedRequire (0 < entityId ∧ 0 ≤ action ∧ action ≤ 2)
  pure
    { entityId := entityId
      action := action
      targetX := targetX
      targetY := targetY
      targetZ := targetZ
      hand := hand
      sneaking := sneaking
      presence := flagWhen mcUseEntityHasTarget (hasTarget = true)
        ||| flagWhen mcUseEntityHasHand (hasHand = true)
        ||| flagWhen mcUseEntityHasSneaking (hasSneaking = true) }

structure McArmAnimationPacket where
  entityId : Int
  hand : Int
  deriving Repr, DecidableEq

/-- 47 and 777 have no body. -/
def typedDecodeArmAnimation (protocol : Int) : DecodeM protocol McArmAnimationPacket :=
  if protocol ≤ 5 then .orInvalid do
    let entityId ← mcReaderI32
    let animation ← mcReaderI8
    require (0 ≤ entityId ∧ animation = 1)
    pure ⟨entityId, 0⟩
  else if 777 ≤ protocol then pure ⟨0, 0⟩
  else if 107 ≤ protocol then do
    let hand ← readHand
    pure ⟨0, hand⟩
  else pure ⟨0, 0⟩

/-- The body of a dig, with the status as it is on the wire. -/
def readBlockDig (protocol : Int) : DecodeM protocol McBlockDig :=
  if protocol ≤ 5 then do
    let status ← mcReaderI8
    let x ← mcReaderI32
    let y ← mcReaderU8
    let z ← mcReaderI32
    let face ← mcReaderI8
    pure ⟨status, ⟨x, y.toNat, z⟩, face, 0⟩
  else do
    let status ← mcReaderVarint
    let location ← mcReaderPosition protocol
    let face ← mcReaderI8
    let sequence ← (if 759 ≤ protocol then mcReaderVarint else pure 0)
    pure ⟨status, location, face, sequence⟩

def typedDecodeBlockDig (protocol : Int) : DecodeM protocol McBlockDig := do
  let wire ← readBlockDig protocol
  -- 777 inserted a status behind the first, and one behind the last
  typedRequire (¬ (777 ≤ protocol ∧ (wire.status = 1 ∨ 7 < wire.status)))
  let status := if 777 ≤ protocol ∧ 1 < wire.status then wire.status - 1 else wire.status
  typedRequire (0 ≤ status ∧ status ≤ 6 ∧ 0 ≤ wire.face ∧ wire.face ≤ 5 ∧ 0 ≤ wire.sequence)
  pure { wire with status := status }

/-- The held stack as a client up to 47 reports it. -/
structure LegacyItem where
  itemId : Int
  count : Int
  damage : Int
  nbt : Buffer
  compressed : Bool
  deriving Repr, DecidableEq

/-- The NBT of a reported stack: up to 5 a gzip member, of which the header is looked at. -/
def readLegacyNbt (protocol : Int) : ReadM (Buffer × Bool) :=
  if protocol ≤ 5 then do
    let size ← mcReaderI16
    if size = -1 then pure (.null 0, false)
    else orReject .invalidPacketBody 0 do
      require (0 < size)
      let nbt ← mcReaderBytes size.toNat
      require (10 ≤ nbt.length ∧ [0x1f, 0x8b, 8] <+: nbt)
      pure (.bytes nbt, true)
  else do
    let nbt ← mcReaderNbt true
    pure (.bytes nbt, false)

def typedReadLegacyItem (protocol : Int) : ReadM LegacyItem := do
  let wireId ← mcReaderU16
  if wireId = uint16Max then pure ⟨0, 0, 0, .null 0, false⟩
  else
    let (count, damage) ← orReject .invalidPacketBody 0 do
      require (wireId ≠ 0 ∧ wireId ≤ int16Max)
      let count ← mcReaderU8
      require (count ≠ 0 ∧ count ≤ 127)
      let damage ← mcReaderU16
      pure (count, damage)
    let (nbt, compressed) ← readLegacyNbt protocol
    pure ⟨wireId, count.toNat, damage, nbt, compressed⟩

/-- Where on a face the cursor is: sixteenths up to 210. -/
def typedReadCursor (protocol : Int) : ReadM (McFloat × McFloat × McFloat) :=
  orReject .invalidPacketBody 0 do
    if protocol ≤ 210 then
      let x ← mcReaderU8
      let y ← mcReaderU8
      let z ← mcReaderU8
      require (x ≤ 16 ∧ y ≤ 16 ∧ z ≤ 16)
      pure (.ofInt x.toNat / 16, .ofInt y.toNat / 16, .ofInt z.toNat / 16)
    else
      let x ← mcReaderFloat
      let y ← mcReaderFloat
      let z ← mcReaderFloat
      require (InUnit x ∧ InUnit y ∧ InUnit z)
      pure (x, y, z)

/-- Whether a legacy placement may be, or has to be, the use of an item in the air. -/
inductive SentinelMode where
  | forbidden
  | required
  | allowed
  deriving Repr, DecidableEq

def readLegacyLocation (protocol : Int) (sentinelMode : SentinelMode) :
    DecodeM protocol McPosition :=
  if protocol ≤ 5 then do
    let x ← mcReaderI32
    let y ← mcReaderU8
    let z ← mcReaderI32
    pure ⟨x, if sentinelMode ≠ .forbidden ∧ y = 255 then -1 else y.toNat, z⟩
  else mcReaderPosition protocol

def typedDecodeLegacyPlace (protocol : Int) (sentinelMode : SentinelMode) :
    DecodeM protocol McBlockPlace := do
  let location ← readLegacyLocation protocol sentinelMode
  let direction ← mcReaderI8
  let item ← typedReadLegacyItem protocol
  let (cursorX, cursorY, cursorZ) ← typedReadCursor protocol
  let isSentinel := location == ⟨-1, -1, -1⟩ && direction == -1
  -- as floats, both zeros are zero
  let centred := cursorX.units == 0 && cursorY.units == 0 && cursorZ.units == 0
  if sentinelMode = .required ∨ sentinelMode = .allowed ∧ isSentinel = true then
    typedRequire (isSentinel = true ∧ centred = true)
  else typedRequire (¬ (sentinelMode = .forbidden ∧ isSentinel = true)
    ∧ 0 ≤ direction ∧ direction ≤ 5)
  pure
    { location := location
      direction := direction
      hand := 0
      heldItemId := item.itemId
      heldItemCount := item.count
      heldItemDamage := item.damage
      heldItemNbt := item.nbt
      cursorX := cursorX
      cursorY := cursorY
      cursorZ := cursorZ
      insideBlock := false
      worldBorderHit := false
      sequence := 0
      heldItemNbtCompressed := item.compressed }

/-- Hand, location and direction: the hand comes last up to 404. -/
def readPlacement (protocol : Int) : DecodeM protocol (Int × McPosition × Int) :=
  if protocol ≤ 404 then do
    let location ← mcReaderPosition protocol
    let direction ← mcReaderVarint
    let hand ← mcReaderVarint
    pure (hand, location, direction)
  else do
    let hand ← mcReaderVarint
    let location ← mcReaderPosition protocol
    let direction ← mcReaderVarint
    pure (hand, location, direction)

def typedDecodeBlockPlace (protocol : Int) : DecodeM protocol McBlockPlace :=
  if protocol ≤ 47 then typedDecodeLegacyPlace protocol .allowed
  else do
    let (hand, location, direction) ← readPlacement protocol
    let (cursorX, cursorY, cursorZ) ← typedReadCursor protocol
    let insideBlock ← (if 477 ≤ protocol then mcReaderBool else pure false)
    let worldBorderHit ← (if 768 ≤ protocol then mcReaderBool else pure false)
    let sequence ← (if 759 ≤ protocol then mcReaderVarint else pure 0)
    typedRequire (0 ≤ hand ∧ hand ≤ 1 ∧ 0 ≤ direction ∧ direction ≤ 5 ∧ 0 ≤ sequence)
    pure
      { location := location
        direction := direction
        hand := hand
        heldItemId := 0
        heldItemCount := 0
        heldItemDamage := 0
        heldItemNbt := .null 0
        cursorX := cursorX
        cursorY := cursorY
        cursorZ := cursorZ
        insideBlock := insideBlock
        worldBorderHit := worldBorderHit
        sequence := sequence
        heldItemNbtCompressed := false }

/-- The body of a use: up to 47 the placement of nothing, later hand, sequence and angles. -/
def readUseItem (protocol : Int) : DecodeM protocol McUseItem :=
  if protocol ≤ 47 then do
    let legacy ← typedDecodeLegacyPlace protocol .required
    pure
      { hand := 0
        heldItemId := legacy.heldItemId
        heldItemCount := legacy.heldItemCount
        heldItemDamage := legacy.heldItemDamage
        heldItemNbt := legacy.heldItemNbt
        sequence := 0
        yaw := 0
        pitch := 0
        heldItemNbtCompressed := legacy.heldItemNbtCompressed }
  else do
    let hand ← mcReaderVarint
    let sequence ← (if 759 ≤ protocol then mcReaderVarint else pure 0)
    let yaw ← (if 767 ≤ protocol then mcReaderFloat else pure 0)
    let pitch ← (if 767 ≤ protocol then mcReaderFloat else pure 0)
    pure
      { hand := hand
        heldItemId := 0
        heldItemCount := 0
        heldItemDamage := 0
        heldItemNbt := .null 0
        sequence := sequence
        yaw := yaw
        pitch := pitch
        heldItemNbtCompressed := false }

def typedDecodeUseItem (protocol : Int) : DecodeM protocol McUseItem := do
  let decoded ← readUseItem protocol
  typedRequire (0 ≤ decoded.hand ∧ decoded.hand ≤ 1 ∧ 0 ≤ decoded.sequence)
  typedFiniteRotation decoded.yaw decoded.pitch
  pure decoded

structure McHeldItemSlotPacket where
  slot : Int
  deriving Repr, DecidableEq

def typedDecodeHeldItemSlot (direction : McPacketDirection) (protocol : Int) :
    DecodeM protocol McHeldItemSlotPacket := do
  let slot ← (if direction = .serverbound then mcReaderI16
    else if 770 ≤ protocol then mcReaderVarint else mcReaderI8)
  typedRequire (0 ≤ slot ∧ slot ≤ 8)
  pure ⟨slot⟩

structure McTeleportConfirmPacket where
  teleportId : Int
  x : McDouble
  y : McDouble
  z : McDouble
  yaw : McFloat
  pitch : McFloat
  hasPosition : Bool
  deriving Repr, DecidableEq

def typedDecodeTeleportConfirm (protocol : Int) : DecodeM protocol McTeleportConfirmPacket := do
  let teleportId ← mcReaderVarint
  typedRequire (0 ≤ teleportId)
  if 777 ≤ protocol then
    let x ← mcReaderDouble
    let y ← mcReaderDouble
    let z ← mcReaderDouble
    let yaw ← mcReaderFloat
    let pitch ← mcReaderFloat
    typedRequire (x.isFinite = true ∧ y.isFinite = true ∧ z.isFinite = true
      ∧ yaw.isFinite = true ∧ pitch.isFinite = true)
    pure ⟨teleportId, x, y, z, yaw, pitch, true⟩
  else pure ⟨teleportId, 0, 0, 0, 0, 0, false⟩

structure McClientCommandPacket where
  action : Int
  deriving Repr, DecidableEq

def typedDecodeClientCommand (protocol : Int) : DecodeM protocol McClientCommandPacket := do
  let action ← (if protocol ≤ 5 then mcReaderI8 else mcReaderVarint)
  typedRequire (0 ≤ action ∧ action ≤ 2)
  pure ⟨action⟩

structure McCloseWindowPacket where
  windowId : Int
  deriving Repr, DecidableEq

def typedDecodeCloseWindow (protocol : Int) : DecodeM protocol McCloseWindowPacket := do
  let windowId ← (if protocol ≤ 767 then do
    let window ← mcReaderU8
    pure (window.toNat : Int)
  else mcReaderVarint)
  typedRequire (0 ≤ windowId)
  pure ⟨windowId⟩

end McProtocol
