import McProtocol.Typed.Player

/-! # What the server says of entities

The decoders of velocities, movements, effects, attributes, leashes and passengers.
-/

namespace McProtocol

/-- The sum of two `int32_t`, which wraps where C leaves the overflow undefined. -/
def addInt32 (left right : Int) : Int := toSigned 32 (toUnsigned 32 (left + right))

structure McEntityVelocityPacket where
  entityId : Int
  velocityXRaw : Int
  velocityYRaw : Int
  velocityZRaw : Int
  velocityX : McDouble
  velocityY : McDouble
  velocityZ : McDouble
  velocityPacked : Nat
  velocityScale : Nat
  velocityWire : List UInt8
  lowPrecisionEncoding : Bool
  deriving Repr, DecidableEq

/-- A component of a low-precision vector. -/
def typedUnpackLpVelocity (packed shift scale : Nat) : McDouble :=
  let quantized := min (packed >>> shift &&& 0x7fff) 32766
  (.ofInt quantized * 2 / 32766 - 1) * .ofInt scale

/-- The scale of a low-precision vector, of which a continuation may follow. Strict mode
wants the shortest form. -/
def readLpScale (low : UInt8) : ReadM Nat :=
  let scale := (low &&& 3).toNat
  orReject .invalidPacketBody 0 do
    if low &&& 4 ≠ 0 then
      let continuation ← mcReaderVarint
      require (0 ≤ continuation)
      requireStrict (continuation ≠ 0)
      pure (scale + continuation.toNat * 4)
    else
      requireStrict (scale ≠ 0)
      pure scale

def typedReadLpVelocity (entityId : Int) : ReadM McEntityVelocityPacket := do
  let start ← mcReaderOffset
  let low ← mcReaderU8
  if low = 0 then
    let wire ← readSince start
    pure ⟨entityId, 0, 0, 0, 0, 0, 0, 0, 0, wire, true⟩
  else
    let middle ← mcReaderU8
    let high ← mcReaderU32
    let packed := high <<< 16 ||| middle.toNat <<< 8 ||| low.toNat
    let scale ← readLpScale low
    let wire ← readSince start
    pure
      { entityId := entityId
        velocityXRaw := 0
        velocityYRaw := 0
        velocityZRaw := 0
        velocityX := typedUnpackLpVelocity packed 3 scale
        velocityY := typedUnpackLpVelocity packed 18 scale
        velocityZ := typedUnpackLpVelocity packed 33 scale
        velocityPacked := packed
        velocityScale := scale
        velocityWire := wire
        lowPrecisionEncoding := true }

/-- Three signed shorts. -/
def readShorts : ReadM (Int × Int × Int) := do
  let x ← mcReaderI16
  let y ← mcReaderI16
  let z ← mcReaderI16
  pure (x, y, z)

def typedDecodeEntityVelocity (protocol : Int) : DecodeM protocol McEntityVelocityPacket := do
  let entityId ← readEntityId protocol
  typedRequire (0 ≤ entityId)
  if 773 ≤ protocol then typedReadLpVelocity entityId
  else
    let (x, y, z) ← readShorts
    pure ⟨entityId, x, y, z, .ofInt x / 8000, .ofInt y / 8000, .ofInt z / 8000, 0, 0, [], false⟩

structure VecDelta where
  onGround : Bool
  sum : Int × Int × Int
  steps : Nat
  deriving Repr, DecidableEq

/-- One step of a path. -/
def readDeltaStep (sum : Int × Int × Int) : ReadM (Int × Int × Int) := do
  let ticks ← mcReaderVarint
  typedRequire (0 ≤ ticks)
  let (x, y, z) ← readShorts
  pure (addInt32 sum.1 x, addInt32 sum.2.1 y, addInt32 sum.2.2 z)

/-- `read_vec_delta_777`: one delta, or as many steps as the properties announce. -/
def readVecDelta777 : ReadM VecDelta := do
  let properties ← mcReaderVarint
  typedRequire (0 ≤ properties)
  let onGround := properties.toNat &&& 1 != 0
  let count := properties.toNat >>> 1
  if count = 0 then
    let delta ← readShorts
    pure ⟨onGround, delta, 0⟩
  else
    orReject .invalidPacketBody 0 do
      require (count ≤ mcMaxPacketArrayCount)
      requireRoom count 7
    let sum ← .iterate readDeltaStep count (0, 0, 0)
    pure ⟨onGround, sum, count⟩

def saturateI16 (value : Int) : Int :=
  if (int16Max : Int) < value then int16Max else if value < -2 ^ 15 then -2 ^ 15 else value

/-- An angle in 256ths of a turn. -/
def angleOfByte (raw : UInt8) : McFloat := .ofInt raw.toNat * (360 / 256)

structure McEntityMovePacket where
  entityId : Int
  deltaXRaw : Int
  deltaYRaw : Int
  deltaZRaw : Int
  deltaX : McDouble
  deltaY : McDouble
  deltaZ : McDouble
  yawRaw : UInt8
  pitchRaw : UInt8
  yaw : McFloat
  pitch : McFloat
  onGround : Bool
  presence : Nat
  stepCount : Nat
  deriving Repr, DecidableEq

/-- The two angles, where there are any. -/
def readAngles (withRotation : Bool) : ReadM (UInt8 × UInt8) :=
  if withRotation then do
    let yawRaw ← mcReaderU8
    let pitchRaw ← mcReaderU8
    pure (yawRaw, pitchRaw)
  else pure (0, 0)

/-- The releases of the stepped delta. -/
def readSteppedMove (withRotation : Bool) (entityId : Int) : ReadM McEntityMovePacket := do
  let delta ← readVecDelta777
  let (x, y, z) := delta.sum
  let (yawRaw, pitchRaw) ← readAngles withRotation
  typedRequire (0 ≤ entityId)
  pure
    { entityId := entityId
      deltaXRaw := saturateI16 x
      deltaYRaw := saturateI16 y
      deltaZRaw := saturateI16 z
      deltaX := .ofInt x / 4096
      deltaY := .ofInt y / 4096
      deltaZ := .ofInt z / 4096
      yawRaw := yawRaw
      pitchRaw := pitchRaw
      yaw := if withRotation then angleOfByte yawRaw else 0
      pitch := if withRotation then angleOfByte pitchRaw else 0
      onGround := delta.onGround
      presence := mcMoveHasDelta ||| mcMoveHasOnGround
        ||| flagWhen mcMoveHasRotation (withRotation = true)
      stepCount := delta.steps }

/-- Three bytes up to 47, three shorts later. -/
def readDelta (protocol : Int) : ReadM (Int × Int × Int) :=
  if protocol ≤ 47 then do
    let x ← mcReaderI8
    let y ← mcReaderI8
    let z ← mcReaderI8
    pure (x, y, z)
  else readShorts

def typedDecodeEntityMove (protocol : Int) (withRotation : Bool) :
    DecodeM protocol McEntityMovePacket := do
  let entityId ← readEntityId protocol
  if 777 ≤ protocol then readSteppedMove withRotation entityId
  else
    let (x, y, z) ← readDelta protocol
    let (yawRaw, pitchRaw) ← readAngles withRotation
    let onGround ← (if 5 < protocol then mcReaderBool else pure false)
    typedRequire (0 ≤ entityId)
    let unit : McDouble := if protocol ≤ 47 then 32 else 4096
    pure
      { entityId := entityId
        deltaXRaw := x
        deltaYRaw := y
        deltaZRaw := z
        deltaX := .ofInt x / unit
        deltaY := .ofInt y / unit
        deltaZ := .ofInt z / unit
        yawRaw := yawRaw
        pitchRaw := pitchRaw
        yaw := if withRotation then angleOfByte yawRaw else 0
        pitch := if withRotation then angleOfByte pitchRaw else 0
        onGround := onGround
        presence := mcMoveHasDelta ||| flagWhen mcMoveHasRotation (withRotation = true)
          ||| flagWhen mcMoveHasOnGround (5 < protocol)
        stepCount := 0 }

structure McEntityTeleportPacket where
  entityId : Int
  x : McDouble
  y : McDouble
  z : McDouble
  deltaX : McDouble
  deltaY : McDouble
  deltaZ : McDouble
  yawRaw : UInt8
  pitchRaw : UInt8
  yaw : McFloat
  pitch : McFloat
  onGround : Bool
  presence : Nat
  stepCount : Nat
  deriving Repr, DecidableEq

def readDoubles : ReadM (McDouble × McDouble × McDouble) := do
  let x ← mcReaderDouble
  let y ← mcReaderDouble
  let z ← mcReaderDouble
  pure (x, y, z)

/-- A point of a stepped path. -/
def readPathPoint : ReadM (McDouble × McDouble × McDouble) := do
  let (x, y, z) ← readDoubles
  let ticks ← mcReaderVarint
  typedRequire (0 ≤ ticks ∧ x.isFinite = true ∧ y.isFinite = true ∧ z.isFinite = true)
  pure (x, y, z)

/-- The path of a synchronised entity from 777 on: where it ends, and its points. -/
def readPath : ReadM ((McDouble × McDouble × McDouble) × Nat) := do
  let path ← mcReaderVarint
  if path = 0 then
    let point ← readDoubles
    pure (point, 0)
  else if path = 1 then
    let points ← mcReaderVarint
    orReject .invalidPacketBody 0 do
      require (1 ≤ points ∧ points ≤ mcMaxPacketArrayCount)
      requireRoom points.toNat 25
    let point ← .iterate (fun _ => readPathPoint) points.toNat (0, 0, 0)
    pure (point, points.toNat)
  else reject .invalidPacketBody 0

/-- The layouts of a teleport without the entity it is about. -/
def readEntityTeleport (protocol : Int) (name : String) (entityId : Int) :
    ReadM McEntityTeleportPacket :=
  if name = "sync_entity_position" ∧ 777 ≤ protocol then do
    let ((x, y, z), steps) ← readPath
    let yaw ← mcReaderFloat
    let pitch ← mcReaderFloat
    let onGround ← mcReaderBool
    pure ⟨entityId, x, y, z, 0, 0, 0, 0, 0, yaw, pitch, onGround,
      mcMoveHasPosition ||| mcMoveHasRotation ||| mcMoveHasOnGround, steps⟩
  else if name = "sync_entity_position" then do
    let (x, y, z) ← readDoubles
    let (deltaX, deltaY, deltaZ) ← readDoubles
    let yaw ← mcReaderFloat
    let pitch ← mcReaderFloat
    let onGround ← mcReaderBool
    pure ⟨entityId, x, y, z, deltaX, deltaY, deltaZ, 0, 0, yaw, pitch, onGround,
      mcMoveHasPosition ||| mcMoveHasDelta ||| mcMoveHasRotation ||| mcMoveHasOnGround, 0⟩
  else if protocol ≤ 47 then do
    let x ← mcReaderI32
    let y ← mcReaderI32
    let z ← mcReaderI32
    let (yawRaw, pitchRaw) ← readAngles true
    let onGround ← (if protocol = 47 then mcReaderBool else pure false)
    pure ⟨entityId, .ofInt x / 32, .ofInt y / 32, .ofInt z / 32, 0, 0, 0, yawRaw, pitchRaw,
      angleOfByte yawRaw, angleOfByte pitchRaw, onGround,
      mcMoveHasPosition ||| mcMoveHasRotation ||| flagWhen mcMoveHasOnGround (protocol = 47), 0⟩
  else do
    let (x, y, z) ← readDoubles
    let (yawRaw, pitchRaw) ← readAngles true
    let onGround ← mcReaderBool
    pure ⟨entityId, x, y, z, 0, 0, 0, yawRaw, pitchRaw,
      angleOfByte yawRaw, angleOfByte pitchRaw, onGround,
      mcMoveHasPosition ||| mcMoveHasRotation ||| mcMoveHasOnGround, 0⟩

def typedDecodeEntityTeleport (protocol : Int) (name : String) :
    DecodeM protocol McEntityTeleportPacket := do
  let entityId ← readEntityId protocol
  let decoded ← readEntityTeleport protocol name entityId
  typedRequire (0 ≤ entityId ∧ decoded.x.isFinite = true ∧ decoded.y.isFinite = true
    ∧ decoded.z.isFinite = true ∧ decoded.deltaX.isFinite = true
    ∧ decoded.deltaY.isFinite = true ∧ decoded.deltaZ.isFinite = true)
  typedFiniteRotation decoded.yaw decoded.pitch
  pure decoded

structure McEntityHeadRotationPacket where
  entityId : Int
  yawRaw : UInt8
  yaw : McFloat
  deriving Repr, DecidableEq

def typedDecodeEntityHeadRotation (protocol : Int) :
    DecodeM protocol McEntityHeadRotationPacket := do
  let entityId ← readEntityId protocol
  let yawRaw ← mcReaderU8
  typedRequire (0 ≤ entityId)
  pure ⟨entityId, yawRaw, angleOfByte yawRaw⟩

structure McEntityEffectPacket where
  entityId : Int
  effectId : Int
  amplifier : Int
  duration : Int
  flags : UInt8
  factorData : List UInt8
  hasFactorData : Bool
  deriving Repr, DecidableEq

/-- A value that was a byte before some release. -/
def readByteOrVarint (varint : Prop) [Decidable varint] : ReadM Int :=
  if varint then mcReaderVarint
  else do
    let value ← mcReaderU8
    pure value.toNat

/-- 47 says which particles to hide, the releases from 107 on have flags. -/
def readEffectFlags (protocol : Int) : ReadM UInt8 :=
  if protocol = 47 then do
    let hideParticles ← mcReaderBool
    pure (if hideParticles then 0 else 2)
  else if 107 ≤ protocol then mcReaderU8
  else pure 0

/-- The factor data that 759 to 765 may append. -/
def readFactorData (protocol : Int) : ReadM (Option (List UInt8)) :=
  if 759 ≤ protocol ∧ protocol < 766 then do
    let present ← mcReaderBool
    if present then
      let factorData ← mcReaderNbt (decide (protocol < 764))
      pure (some factorData)
    else pure none
  else pure none

def typedDecodeEntityEffect (protocol : Int) : DecodeM protocol McEntityEffectPacket := do
  let entityId ← readEntityId protocol
  let effectId ← readByteOrVarint (759 ≤ protocol)
  let amplifier ← readByteOrVarint (766 ≤ protocol)
  let duration ← (if protocol ≤ 5 then mcReaderI16 else mcReaderVarint)
  let flags ← readEffectFlags protocol
  let factorData ← readFactorData protocol
  .orInvalid do
    require (0 ≤ entityId ∧ 0 ≤ effectId ∧ 0 ≤ amplifier ∧ amplifier ≤ 255 ∧ -1 ≤ duration)
    requireStrict (flags &&& 0xf8 = 0)
    pure ⟨entityId, effectId, amplifier, duration, flags, factorData.getD [], factorData.isSome⟩

structure McRemoveEntityEffectPacket where
  entityId : Int
  effectId : Int
  deriving Repr, DecidableEq

def typedDecodeRemoveEntityEffect (protocol : Int) :
    DecodeM protocol McRemoveEntityEffectPacket := do
  let entityId ← readEntityId protocol
  let effectId ← readByteOrVarint (759 ≤ protocol)
  typedRequire (0 ≤ entityId ∧ 0 ≤ effectId)
  pure ⟨entityId, effectId⟩

structure McUpdateAttributesPacket where
  entityId : Int
  attributeCount : Nat
  modifierCount : Nat
  attributes : List UInt8
  deriving Repr, DecidableEq

def typedAttributeCount (protocol : Int) : ReadM Int :=
  if 755 ≤ protocol then mcReaderVarint else mcReaderI32

def typedModifierCount (protocol : Int) : ReadM Int :=
  if 5 < protocol then mcReaderVarint else mcReaderI16

/-- The key of an attribute: a registry id from 766 on. -/
def skipAttributeKey (protocol : Int) : ReadM Unit :=
  orReject .invalidPacketBody 0 do
    if 766 ≤ protocol then
      let key ← mcReaderVarint
      require (0 ≤ key)
    else
      let _ ← readNonempty 256

def skipAttributeModifier (protocol : Int) : ReadM Unit := do
  if 767 ≤ protocol then orReject .invalidPacketBody 0 do
    let _ ← readNonempty 256
  else
    let _ ← mcReaderUuid
  orReject .invalidPacketBody 0 do
    let amount ← mcReaderDouble
    require (amount.isFinite = true)
    let operation ← mcReaderI8
    require (0 ≤ operation ∧ operation ≤ 2)

/-- One attribute; how many modifiers have been read with it. -/
def readAttribute (protocol : Int) (totalModifiers : Nat) : ReadM Nat := do
  skipAttributeKey protocol
  let modifierCount ← orReject .invalidPacketBody 0 do
    let base ← mcReaderDouble
    require (base.isFinite = true)
    let modifierCount ← typedModifierCount protocol
    typedCount modifierCount mcMaxAttributeModifierCount
    require (modifierCount.toNat ≤ mcMaxAttributeModifierCount - totalModifiers)
    pure modifierCount
  .iterate (fun _ => skipAttributeModifier protocol) modifierCount.toNat ()
  pure (totalModifiers + modifierCount.toNat)

def typedDecodeAttributes (protocol : Int) : DecodeM protocol McUpdateAttributesPacket := do
  let entityId ← readEntityId protocol
  let count ← typedAttributeCount protocol
  typedCount count mcMaxAttributeCount
  let start ← mcReaderOffset
  let totalModifiers ← Program.iterate (D := readerDiscipline) (readAttribute protocol) count.toNat 0
  let attributes ← readSince start
  typedRequire (0 ≤ entityId)
  pure ⟨entityId, count.toNat, totalModifiers, attributes⟩

structure McAttachEntityPacket where
  entityId : Int
  vehicleId : Int
  leash : Bool
  hasLeash : Bool
  deriving Repr, DecidableEq

def typedDecodeAttachEntity (protocol : Int) : DecodeM protocol McAttachEntityPacket := do
  let entityId ← mcReaderI32
  let vehicleId ← mcReaderI32
  let leash ← (if protocol ≤ 47 then mcReaderBool else pure false)
  pure ⟨entityId, vehicleId, leash, decide (protocol ≤ 47)⟩

structure McPassengersPacket where
  entityId : Int
  passengerCount : Nat
  passengers : List UInt8
  deriving Repr, DecidableEq

/-- A value that is not negative. -/
def skipNonnegative : ReadM Unit :=
  orReject .invalidPacketBody 0 do
    let value ← mcReaderVarint
    require (0 ≤ value)

theorem accepts_skipNonnegative {mode : McDecodeMode} :
    Accepts mode skipNonnegative.run fun _ bytes =>
      ∃ value : Int, IsVarint mode value bytes ∧ 0 ≤ value := by
  refine (accepts_orReject (accepts_varint.bind fun _ => accepts_require) 0).congr
    fun _ bytes => ⟨?_, ?_⟩
  · rintro ⟨value, code, _, rfl, isVarint, natural, rfl⟩
    exact ⟨value, by rwa [List.append_nil], natural⟩
  · rintro ⟨value, isVarint, natural⟩
    exact ⟨value, bytes, [], (List.append_nil _).symm, isVarint, natural, rfl⟩

def typedDecodePassengers {protocol : Int} : DecodeM protocol McPassengersPacket := do
  let entityId ← mcReaderVarint
  let count ← mcReaderVarint
  typedCount count mcMaxPacketArrayCount
  let start ← mcReaderOffset
  .iterate (fun _ => skipNonnegative) count.toNat ()
  let passengers ← readSince start
  typedRequire (0 ≤ entityId)
  pure ⟨entityId, count.toNat, passengers⟩

end McProtocol
