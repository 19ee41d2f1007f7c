import McProtocol.Direct.EntityMove
import McProtocol.Direct.PlayerInfo
import McProtocol.Typed.World

/-! # Entities that appear

The readers of players, creatures and objects that are spawned, of what they are seen doing, and of
particles. None of them publishes a coordinate that is not finite.
-/

namespace McProtocol

abbrev Vector3 := McDouble × McDouble × McDouble

/-- Three coordinates in 32nds of a block. -/
def readFixedPoint : ReadM Vector3 := do
  let x ← mcReaderI32
  let y ← mcReaderI32
  let z ← mcReaderI32
  pure (.ofInt x / 32, .ofInt y / 32, .ofInt z / 32)

/-- Fixed point up to 47. -/
def readSpawnPosition (protocol : Int) : ReadM Vector3 :=
  if protocol ≤ 47 then readFixedPoint else readDoubles

/-- A velocity together with its bytes. -/
structure SpawnVelocity where
  velocity : Vector3
  wire : List UInt8
  present : Bool
  lowPrecision : Bool

def SpawnVelocity.none : SpawnVelocity := ⟨(0, 0, 0), [], false, false⟩

/-- Three shorts in 8000ths of a block. -/
def readShortVelocity : ReadM SpawnVelocity := do
  let start ← mcReaderOffset
  let (x, y, z) ← readShorts
  let wire ← readSince start
  pure ⟨(.ofInt x / 8000, .ofInt y / 8000, .ofInt z / 8000), wire, true, false⟩

def readLpVelocity : ReadM SpawnVelocity := do
  let read ← typedReadLpVelocity 0
  pure ⟨(read.velocityX, read.velocityY, read.velocityZ), read.velocityWire, true, true⟩

structure McClientboundEntitySpawn where
  entityId : Int
  entityType : Int
  data : Int
  heldItemId : Int
  profileId : McUuid
  legacyProfileId : List UInt8
  playerName : List UInt8
  properties : List UInt8
  metadata : List UInt8
  velocityWire : List UInt8
  propertyCount : Nat
  metadataEntryCount : Nat
  x : McDouble
  y : McDouble
  z : McDouble
  velocityX : McDouble
  velocityY : McDouble
  velocityZ : McDouble
  yawRaw : UInt8
  pitchRaw : UInt8
  yaw : McFloat
  pitch : McFloat
  namedPlayer : Bool
  hasBinaryProfileId : Bool
  hasPlayerName : Bool
  hasProperties : Bool
  hasMetadata : Bool
  hasEntityType : Bool
  hasHeldItem : Bool
  hasVelocity : Bool
  lowPrecisionVelocity : Bool
  deriving Repr, DecidableEq

/-- Who is spawned: in 1.7 by name, with the properties of the profile. -/
structure SpawnedProfile where
  profileId : Option McUuid
  legacyProfileId : List UInt8
  playerName : List UInt8
  propertyCount : Nat
  properties : List UInt8

/-- Where, and with what. -/
structure SpawnedBody where
  position : Vector3
  angles : UInt8 × UInt8
  entityType : Option Int
  data : Int
  heldItem : Option Nat
  metadata : Option (List UInt8 × Nat)
  velocity : SpawnVelocity

section

variable (validators : Validators) (protocol : Int)

def readSpawnedProfile : DecodeM protocol SpawnedProfile :=
  if protocol ≤ 5 then .orInvalid do
    let legacyProfileId ← mcReaderStringBounded 36
    require (legacyProfileId.length = 36)
    let playerName ← readNonempty 16
    let (propertyCount, properties) ← readerPlayerInfoProperties
    pure ⟨none, legacyProfileId, playerName, propertyCount, properties⟩
  else do
    let profileId ← mcReaderUuid
    pure ⟨some profileId, [], [], 0, []⟩

/-- The players of 1.7 and 1.8. -/
def readFixedPlayer : DecodeM protocol SpawnedBody := do
  let position ← readFixedPoint
  let angles ← readAngles true
  let held ← mcReaderU16
  let metadata ← typedDecodeMetadataEntries validators protocol
  pure ⟨position, angles, none, 0, some held, some metadata, .none⟩

/-- The players up to 763; the metadata has a packet of its own after 498. -/
def readNamedPlayer : DecodeM protocol SpawnedBody := do
  let position ← readDoubles
  let angles ← readAngles true
  let metadata ← (if protocol ≤ 498 then do
      let metadata ← typedDecodeMetadataEntries validators protocol
      pure (some metadata)
    else pure none)
  pure ⟨position, angles, none, 0, none, metadata, .none⟩

/-- Players are entities like any other: pitch, yaw, and a head that is skipped. -/
def readSpawnedEntity : DecodeM protocol SpawnedBody := do
  let (entityType, position) ← .orInvalid do
    let entityType ← mcReaderVarint
    require (0 ≤ entityType)
    let position ← readDoubles
    pure (entityType, position)
  let early ← (if 773 ≤ protocol then readLpVelocity else pure .none)
  let pitchRaw ← mcReaderU8
  let yawRaw ← mcReaderU8
  mcReaderSkip 1
  let data ← mcReaderVarint
  let velocity ← (if protocol ≤ 772 then readShortVelocity else pure early)
  pure ⟨position, (yawRaw, pitchRaw), some entityType, data, none, none, velocity⟩

def readSpawnedBody : DecodeM protocol SpawnedBody :=
  if protocol ≤ 47 then readFixedPlayer validators protocol
  else if protocol ≤ 763 then readNamedPlayer validators protocol
  else readSpawnedEntity protocol

def mcReaderClientboundEntitySpawn : DecodeM protocol McClientboundEntitySpawn := do
  .orFailed (require (mcProtocolSupported protocol = true))
  let entityId ← orReject .invalidPacketBody 0 mcReaderVarint
  let profile ← readSpawnedProfile protocol
  let body ← readSpawnedBody validators protocol
  typedRequire (AllFinite body.position ∧ AllFinite body.velocity.velocity)
  pure
    { entityId := entityId
      entityType := body.entityType.getD 0
      data := body.data
      heldItemId := (body.heldItem.getD 0 : Nat)
      profileId := profile.profileId.getD .zero
      legacyProfileId := profile.legacyProfileId
      playerName := profile.playerName
      properties := profile.properties
      metadata := (body.metadata.map Prod.fst).getD []
      velocityWire := body.velocity.wire
      propertyCount := profile.propertyCount
      metadataEntryCount := (body.metadata.map Prod.snd).getD 0
      x := body.position.1
      y := body.position.2.1
      z := body.position.2.2
      velocityX := body.velocity.velocity.1
      velocityY := body.velocity.velocity.2.1
      velocityZ := body.velocity.velocity.2.2
      yawRaw := body.angles.1
      pitchRaw := body.angles.2
      yaw := angleOfByte body.angles.1
      pitch := angleOfByte body.angles.2
      namedPlayer := decide (protocol ≤ 763)
      hasBinaryProfileId := decide (5 < protocol)
      hasPlayerName := decide (protocol ≤ 5)
      hasProperties := decide (protocol ≤ 5)
      hasMetadata := body.metadata.isSome
      hasEntityType := body.entityType.isSome
      hasHeldItem := body.heldItem.isSome
      hasVelocity := body.velocity.present
      lowPrecisionVelocity := body.velocity.lowPrecision }

structure McClientboundLivingEntitySpawn where
  entityId : Int
  entityType : Int
  entityUuid : McUuid
  metadata : List UInt8
  velocityWire : List UInt8
  x : McDouble
  y : McDouble
  z : McDouble
  velocityX : McDouble
  velocityY : McDouble
  velocityZ : McDouble
  metadataEntryCount : Nat
  yawRaw : UInt8
  pitchRaw : UInt8
  headYawRaw : UInt8
  yaw : McFloat
  pitch : McFloat
  headYaw : McFloat
  hasEntityUuid : Bool
  fixedPointPosition : Bool
  varintEntityType : Bool
  hasMetadata : Bool
  deriving Repr, DecidableEq

/-- An id that is not negative. -/
def readSpawnId : ReadM Int := orReject .invalidPacketBody 0 do
  let entityId ← mcReaderVarint
  require (0 ≤ entityId)
  pure entityId

def readSpawnUuid : ReadM (Option McUuid) :=
  if 47 < protocol then do
    let entityUuid ← mcReaderUuid
    pure (some entityUuid)
  else pure none

/-- What kind of entity: a byte up to the release `last`. -/
def readSpawnType (last : Int) : ReadM Int :=
  if protocol ≤ last then do
    let entityType ← mcReaderU8
    pure entityType.toNat
  else readSpawnId

/-- The packet exists up to 758. -/
def mcReaderClientboundLivingEntitySpawn : DecodeM protocol McClientboundLivingEntitySpawn := do
  .orFailed (require (mcProtocolSupported protocol = true ∧ protocol ≤ 758))
  let entityId ← readSpawnId
  let entityUuid ← readSpawnUuid protocol
  let entityType ← readSpawnType protocol 210
  let position ← readSpawnPosition protocol
  let angles ← readAngles true
  let headYawRaw ← mcReaderU8
  let velocity ← readShortVelocity
  let metadata ← (if protocol ≤ 498 then do
      let metadata ← typedDecodeMetadataEntries validators protocol
      pure (some metadata)
    else pure none)
  typedRequire (AllFinite position ∧ AllFinite velocity.velocity)
  pure
    { entityId := entityId
      entityType := entityType
      entityUuid := entityUuid.getD .zero
      metadata := (metadata.map Prod.fst).getD []
      velocityWire := velocity.wire
      x := position.1
      y := position.2.1
      z := position.2.2
      velocityX := velocity.velocity.1
      velocityY := velocity.velocity.2.1
      velocityZ := velocity.velocity.2.2
      metadataEntryCount := (metadata.map Prod.snd).getD 0
      yawRaw := angles.1
      pitchRaw := angles.2
      headYawRaw := headYawRaw
      yaw := angleOfByte angles.1
      pitch := angleOfByte angles.2
      headYaw := angleOfByte headYawRaw
      hasEntityUuid := entityUuid.isSome
      fixedPointPosition := decide (protocol ≤ 47)
      varintEntityType := decide (210 < protocol)
      hasMetadata := metadata.isSome }

structure McClientboundObjectSpawn where
  entityId : Int
  entityType : Int
  data : Int
  entityUuid : McUuid
  velocityWire : List UInt8
  x : McDouble
  y : McDouble
  z : McDouble
  velocityX : McDouble
  velocityY : McDouble
  velocityZ : McDouble
  yawRaw : UInt8
  pitchRaw : UInt8
  headYawRaw : UInt8
  yaw : McFloat
  pitch : McFloat
  headYaw : McFloat
  hasEntityUuid : Bool
  hasHeadYaw : Bool
  hasVelocity : Bool
  lowPrecisionVelocity : Bool
  deriving Repr, DecidableEq

structure SpawnedObject where
  entityType : Int
  position : Vector3
  angles : UInt8 × UInt8
  headYaw : Option UInt8
  data : Int
  velocity : SpawnVelocity

/-- The objects up to 47: only those with data have a velocity. -/
def readFixedObject : ReadM SpawnedObject := do
  let entityType ← mcReaderU8
  let position ← readFixedPoint
  let pitchRaw ← mcReaderU8
  let yawRaw ← mcReaderU8
  let data ← mcReaderI32
  let velocity ← (if 0 < data then readShortVelocity else pure .none)
  pure ⟨entityType.toNat, position, (yawRaw, pitchRaw), none, data, velocity⟩

def readObject : ReadM SpawnedObject := do
  let entityType ← readSpawnType protocol 404
  let position ← readDoubles
  let early ← (if 773 ≤ protocol then readLpVelocity else pure .none)
  let pitchRaw ← mcReaderU8
  let yawRaw ← mcReaderU8
  let headYaw ← (if 761 ≤ protocol then do
      let headYawRaw ← mcReaderU8
      pure (some headYawRaw)
    else pure none)
  let data ← (if 761 ≤ protocol then mcReaderVarint else mcReaderI32)
  let velocity ← (if protocol ≤ 772 then readShortVelocity else pure early)
  pure ⟨entityType, position, (yawRaw, pitchRaw), headYaw, data, velocity⟩

def mcReaderClientboundObjectSpawn : DecodeM protocol McClientboundObjectSpawn := do
  .orFailed (require (mcProtocolSupported protocol = true))
  let entityId ← readSpawnId
  let entityUuid ← readSpawnUuid protocol
  let object ← (if protocol ≤ 47 then readFixedObject else readObject protocol)
  typedRequire (AllFinite object.position ∧ AllFinite object.velocity.velocity)
  pure
    { entityId := entityId
      entityType := object.entityType
      data := object.data
      entityUuid := entityUuid.getD .zero
      velocityWire := object.velocity.wire
      x := object.position.1
      y := object.position.2.1
      z := object.position.2.2
      velocityX := object.velocity.velocity.1
      velocityY := object.velocity.velocity.2.1
      velocityZ := object.velocity.velocity.2.2
      yawRaw := object.angles.1
      pitchRaw := object.angles.2
      headYawRaw := object.headYaw.getD 0
      yaw := angleOfByte object.angles.1
      pitch := angleOfByte object.angles.2
      headYaw := angleOfByte (object.headYaw.getD 0)
      hasEntityUuid := entityUuid.isSome
      hasHeadYaw := object.headYaw.isSome
      hasVelocity := object.velocity.present
      lowPrecisionVelocity := object.velocity.lowPrecision }

end

structure McClientboundEntityStatus where
  entityId : Int
  status : UInt8
  deriving Repr, DecidableEq

def mcReaderClientboundEntityStatus (protocol : Int) : DecodeM protocol McClientboundEntityStatus := do
  .orFailed (require (mcProtocolSupported protocol = true))
  .orInvalid do
    let entityId ← mcReaderI32
    require (0 ≤ entityId)
    let status ← mcReaderU8
    pure ⟨entityId, status⟩

structure McEntityHandUseMetadata where
  entityId : Int
  metadataIndex : UInt8
  rawFlags : UInt8
  active : Bool
  offHand : Bool
  usesLivingFlags : Bool
  deriving Repr, DecidableEq

/-- Where the flags of the hand are. -/
def entityHandUseMetadataIndex (protocol : Int) : UInt8 :=
  if protocol < 107 then 0
  else if protocol ≤ 110 then 5
  else if protocol ≤ 404 then 6
  else if protocol ≤ 754 then 7
  else 8

section

variable (validators : Validators) (protocol : Int)

/-- The header of the one entry, a byte up to 47, then its index and its serializer. -/
def readHandUseHeader : DecodeM protocol Unit := .orFailed do
  let index ← mcReaderU8
  require (index = entityHandUseMetadataIndex protocol)
  if 47 < protocol then
    if protocol ≤ 340 then
      let legacySerializer ← mcReaderU8
      require (legacySerializer = 0)
    else
      let serializer ← mcReaderVarint
      require (serializer = 0)
  else pure ()

/-- Metadata of exactly one entry. What is refused has no code. -/
def mcReaderEntityHandUseMetadata : DecodeM protocol McEntityHandUseMetadata := do
  .orFailed (require (mcProtocolSupported protocol = true))
  let entityId ← readEntityId protocol
  .orFailed (require (0 ≤ entityId))
  readHandUseHeader protocol
  let rawFlags ← .orFailed do
    let rawFlags ← mcReaderU8
    let terminator ← mcReaderU8
    require (terminator = if protocol ≤ 47 then 0x7f else 0xff)
    pure rawFlags
  let usesLivingFlags := decide (107 ≤ protocol)
  let active := rawFlags &&& (if usesLivingFlags then 0x01 else 0x10) != 0
  pure
    { entityId := entityId
      metadataIndex := entityHandUseMetadataIndex protocol
      rawFlags := rawFlags
      active := active
      offHand := usesLivingFlags && active && rawFlags &&& 0x02 != 0
      usesLivingFlags := usesLivingFlags }

structure McClientboundWorldParticles where
  particleName : List UInt8
  particleData : List UInt8
  particleId : Int
  x : McDouble
  y : McDouble
  z : McDouble
  offsetX : McFloat
  offsetY : McFloat
  offsetZ : McFloat
  speed : McFloat
  count : Int
  longDistance : Bool
  alwaysShow : Bool
  namedParticle : Bool
  hasLongDistance : Bool
  hasAlwaysShow : Bool
  doublePrecisionPosition : Bool
  particleAfterCommonFields : Bool
  speedY : McFloat
  speedZ : McFloat
  randomization : Int
  hasAxisSpeed : Bool
  deriving Repr, DecidableEq

abbrev Offset3 := McFloat × McFloat × McFloat

def readFloats : ReadM Offset3 := do
  let x ← mcReaderFloat
  let y ← mcReaderFloat
  let z ← mcReaderFloat
  pure (x, y, z)

def FiniteOffset (offset : Offset3) : Prop :=
  offset.1.isFinite = true ∧ offset.2.1.isFinite = true ∧ offset.2.2.isFinite = true

instance : DecidablePred FiniteOffset := fun _ => inferInstanceAs (Decidable (_ ∧ _))

/-- The blocks and items of the first particles with data: two numbers, or one. -/
def typedSkipLegacyWorldParticleData (particle : Int) : ReadM Unit :=
  let count := if particle = 36 then 2 else if particle = 37 ∨ particle = 38 then 1 else 0
  .iterate (fun _ => skipVarint) count ()

/-- The data behind the id of a particle, with its bytes. -/
def readParticleData (skip : DecodeM protocol Unit) : DecodeM protocol (List UInt8) := do
  let start ← mcReaderOffset
  skip
  readSince start

/-- The layout of 777: the particle comes first, and the speed has three axes. -/
def readWorldParticles777 : DecodeM protocol McClientboundWorldParticles := do
  let particleId ← mcReaderVarint
  typedRequire (0 ≤ particleId)
  let particleData ← readParticleData protocol (typedSkipModernParticleValue validators protocol particleId)
  let longDistance ← mcReaderBool
  let alwaysShow ← mcReaderBool
  let position ← readDoubles
  let offset ← readFloats
  let speed ← readFloats
  let count ← mcReaderVarint
  let randomization ← mcReaderVarint
  typedRequire (AllFinite position ∧ FiniteOffset offset ∧ FiniteOffset speed ∧ 0 ≤ count
    ∧ 0 ≤ randomization ∧ randomization ≤ 2)
  pure
    { particleName := []
      particleData := particleData
      particleId := particleId
      x := position.1
      y := position.2.1
      z := position.2.2
      offsetX := offset.1
      offsetY := offset.2.1
      offsetZ := offset.2.2
      speed := speed.1
      count := count
      longDistance := longDistance
      alwaysShow := alwaysShow
      namedParticle := false
      hasLongDistance := true
      hasAlwaysShow := true
      doublePrecisionPosition := true
      particleAfterCommonFields := false
      speedY := speed.2.1
      speedZ := speed.2.2
      randomization := randomization
      hasAxisSpeed := true }

/-- The particle in front of the fields that all particles have: its name in 1.7, then its id. -/
def readLeadingParticle : ReadM (List UInt8 × Int) :=
  if protocol ≤ 5 then do
    let particleName ← mcReaderStringBounded 256
    pure (particleName, -1)
  else if 766 ≤ protocol then pure ([], -1)
  else do
    let particleId ← (if 759 ≤ protocol then mcReaderVarint else mcReaderI32)
    typedRequire (0 ≤ particleId)
    pure ([], particleId)

/-- The particle behind them: its id from 766 on, and its data. -/
def readTrailingParticle (leading : Int) : DecodeM protocol (Int × List UInt8) :=
  if protocol ≤ 5 then pure (leading, [])
  else do
    let particleId ← (if 766 ≤ protocol then readSpawnId else pure leading)
    let particleData ← readParticleData protocol
      (if protocol ≤ 340 then typedSkipLegacyWorldParticleData particleId
        else if 766 ≤ protocol then typedSkipModernParticleValue validators protocol particleId
        else typedSkipOldParticleValue validators protocol particleId)
    pure (particleId, particleData)

def readWorldParticles : DecodeM protocol McClientboundWorldParticles := do
  let (particleName, leading) ← readLeadingParticle protocol
  let longDistance ← (if 5 < protocol then mcReaderBool else pure false)
  let alwaysShow ← (if 769 ≤ protocol then mcReaderBool else pure false)
  let position ← (if 573 ≤ protocol then readDoubles else readWidened)
  let offset ← readFloats
  let speed ← mcReaderFloat
  let count ← mcReaderI32
  typedRequire (AllFinite position ∧ FiniteOffset offset ∧ speed.isFinite = true)
  let (particleId, particleData) ← readTrailingParticle validators protocol leading
  pure
    { particleName := particleName
      particleData := particleData
      particleId := particleId
      x := position.1
      y := position.2.1
      z := position.2.2
      offsetX := offset.1
      offsetY := offset.2.1
      offsetZ := offset.2.2
      speed := speed
      count := count
      longDistance := longDistance
      alwaysShow := alwaysShow
      namedParticle := decide (protocol ≤ 5)
      hasLongDistance := decide (5 < protocol)
      hasAlwaysShow := decide (769 ≤ protocol)
      doublePrecisionPosition := decide (573 ≤ protocol)
      particleAfterCommonFields := decide (766 ≤ protocol)
      speedY := 0
      speedZ := 0
      randomization := 0
      hasAxisSpeed := false }

def mcReaderClientboundWorldParticles : DecodeM protocol McClientboundWorldParticles := do
  .orFailed (require (mcProtocolSupported protocol = true))
  if 777 ≤ protocol then readWorldParticles777 validators protocol
  else readWorldParticles validators protocol

end

end McProtocol
