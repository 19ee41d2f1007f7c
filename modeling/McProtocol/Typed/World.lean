import McProtocol.Typed.Metadata

/-! # What the server says of the world

The decoders of block changes, explosions, chunks, respawns and the time.
-/

namespace McProtocol

/-- A block of 1.7: the id and the four bits of its metadata. -/
def readOldBlockChange (protocol : Int) : DecodeM protocol (McPosition × Int) :=
  .orFailProtocol .invalidPacketBody do
    let x ← mcReaderI32
    let y ← mcReaderU8
    let z ← mcReaderI32
    let blockId ← mcReaderVarint
    let metadata ← mcReaderU8
    require (0 ≤ blockId ∧ blockId ≤ int32Max >>> 4 ∧ metadata ≤ 15)
    pure (⟨x, y.toNat, z⟩, blockId * 16 + metadata.toNat)

def mcReaderBlockChange (protocol : Int) : DecodeM protocol (McPosition × Int) := do
  refuseFailed
  if mcProtocolSupported protocol = false then readerFailProtocol .unsupportedProtocol protocol
  else if protocol ≤ 5 then readOldBlockChange protocol
  else
    let position ← mcReaderPosition protocol
    let state ← .orFailProtocol .invalidPacketBody do
      let state ← mcReaderVarint
      require (0 ≤ state)
      pure state
    pure (position, state)

structure McBlockChangePacket where
  position : McPosition
  stateId : Int
  deriving Repr, DecidableEq

def typedDecodeBlockChange (protocol : Int) : DecodeM protocol McBlockChangePacket := do
  let (position, stateId) ← mcReaderBlockChange protocol
  pure ⟨position, stateId⟩

inductive McMultiBlockRecordFormat where
  | legacy17
  | chunk
  | sectionVarlong
  | sectionVarint
  deriving Repr, DecidableEq

structure McMultiBlockChangePacket where
  chunkX : Int
  chunkZ : Int
  sectionY : Int
  recordCount : Nat
  records : List UInt8
  format : McMultiBlockRecordFormat
  suppressLightUpdates : Bool
  hasLightUpdateFlag : Bool
  deriving Repr, DecidableEq

/-- The low `bits` bits as a signed value. -/
def typedSignExtend (value bits : Nat) : Int := toSigned bits (value % 2 ^ bits)

/-- Where the records are, how many, and in which format. -/
structure MultiBlockHeader where
  chunkX : Int
  chunkZ : Int
  sectionY : Int
  count : Int
  format : McMultiBlockRecordFormat
  suppressLightUpdates : Bool

def readMultiBlockHeader (protocol : Int) : ReadM MultiBlockHeader :=
  if protocol ≤ 5 then orReject .invalidPacketBody 0 do
    let chunkX ← mcReaderI32
    let chunkZ ← mcReaderI32
    let wireCount ← mcReaderU16
    let dataLength ← mcReaderI32
    require (dataLength = wireCount * 4)
    pure ⟨chunkX, chunkZ, 0, wireCount, .legacy17, false⟩
  else if protocol < 751 then do
    let chunkX ← mcReaderI32
    let chunkZ ← mcReaderI32
    let count ← mcReaderVarint
    pure ⟨chunkX, chunkZ, 0, count, .chunk, false⟩
  else do
    let sectionWord ← mcReaderU64
    let suppressLightUpdates ← (if protocol ≤ 762 then mcReaderBool else pure false)
    let count ← mcReaderVarint
    pure
      { chunkX := typedSignExtend (sectionWord >>> 42) 22
        chunkZ := typedSignExtend (sectionWord >>> 20) 22
        sectionY := typedSignExtend sectionWord 20
        count := count
        format := if protocol ≤ 758 then .sectionVarlong else .sectionVarint
        suppressLightUpdates := suppressLightUpdates }

def skipBlockRecord : McMultiBlockRecordFormat → ReadM Unit
  | .legacy17 => mcReaderSkip 4
  | .chunk => orReject .invalidPacketBody 0 do
      mcReaderSkip 2
      skipNonnegative
  | .sectionVarlong => orReject .invalidPacketBody 0 do
      let packed ← mcReaderVarlong
      require (0 ≤ packed)
  | .sectionVarint => skipNonnegative

def typedDecodeMultiBlockChange (protocol : Int) :
    DecodeM protocol McMultiBlockChangePacket := do
  let header ← readMultiBlockHeader protocol
  typedCount header.count mcMaxPacketArrayCount
  let recordsStart ← mcReaderOffset
  .iterate (fun _ => skipBlockRecord header.format) header.count.toNat ()
  let records ← readSince recordsStart
  pure
    { chunkX := header.chunkX
      chunkZ := header.chunkZ
      sectionY := header.sectionY
      recordCount := header.count.toNat
      records := records
      format := header.format
      suppressLightUpdates := header.suppressLightUpdates
      hasLightUpdateFlag := decide (751 ≤ protocol ∧ protocol ≤ 762) }

/-- A sound by its registry id, or by name and range behind a `0`. -/
def typedSkipSoundHolder : ReadM Unit :=
  orReject .invalidPacketBody 0 do
    let holder ← mcReaderVarint
    require (0 ≤ holder)
    .when (holder = 0) do
      let _ ← readNonempty 32767
      let fixedRange ← mcReaderBool
      .when (fixedRange = true) do
        let range ← mcReaderFloat
        require (range.isFinite = true ∧ ¬ range < 0)

structure McExplosionPacket where
  x : McDouble
  y : McDouble
  z : McDouble
  radius : McFloat
  affectedBlockCount : Nat
  affectedBlocks : List UInt8
  motionX : McDouble
  motionY : McDouble
  motionZ : McDouble
  effects : List UInt8
  hasMotion : Bool
  deriving Repr, DecidableEq

/-- Three floats as doubles. -/
def readWidened : ReadM (McDouble × McDouble × McDouble) := do
  let x ← mcReaderFloat
  let y ← mcReaderFloat
  let z ← mcReaderFloat
  pure (x.convert, y.convert, z.convert)

def AllFinite (vector : McDouble × McDouble × McDouble) : Prop :=
  vector.1.isFinite = true ∧ vector.2.1.isFinite = true ∧ vector.2.2.isFinite = true

instance : DecidablePred AllFinite := fun _ => inferInstanceAs (Decidable (_ ∧ _))

/-- A finite vector, of floats or of doubles. -/
def readMotion (narrow : Prop) [Decidable narrow] : ReadM (McDouble × McDouble × McDouble) :=
  orReject .invalidPacketBody 0 do
    let motion ← (if narrow then readWidened else readDoubles)
    require (AllFinite motion)
    pure motion

/-- A radius and a count of blocks from 773 on. -/
def readModernRadius : ReadM (McFloat × Nat) :=
  orReject .invalidPacketBody 0 do
    let radius ← mcReaderFloat
    let count ← mcReaderI32
    require (radius.isFinite = true ∧ ¬ radius < 0)
    typedCount count mcMaxPacketArrayCount
    pure (radius, count.toNat)

/-- A radius and a count of blocks up to 767, where the count is checked first. -/
def readOldRadius (protocol : Int) (centre : McDouble × McDouble × McDouble) :
    ReadM (McFloat × Nat) :=
  orReject .invalidPacketBody 0 do
    let radius ← mcReaderFloat
    let count ← (if 755 ≤ protocol then mcReaderVarint else mcReaderI32)
    typedCount count mcMaxPacketArrayCount
    require (AllFinite centre ∧ radius.isFinite = true ∧ ¬ radius < 0)
    pure (radius, count.toNat)

section
variable (validators : Validators) (protocol : Int)

def typedSkipExplosionParticle : DecodeM protocol Unit :=
  if 766 ≤ protocol then typedSkipModernParticle validators protocol else skipNonnegative

/-- A particle of the blast with its weight. -/
def skipBlastParticle : DecodeM protocol Unit := .orInvalid do
  typedSkipExplosionParticle validators protocol
  typedSkipFloats 2
  skipNonnegative

/-- The particles of the blast, from 773 on. -/
def skipBlastParticles : DecodeM protocol Unit := do
  let particleCount ← mcReaderVarint
  typedCount particleCount mcMaxPacketArrayCount
  .iterate (fun _ => skipBlastParticle validators protocol) particleCount.toNat ()

/-- The layout from 768 on. -/
def readModernExplosion (centre : McDouble × McDouble × McDouble) :
    DecodeM protocol McExplosionPacket := do
  let effectsStart ← mcReaderOffset
  let (radius, blockCount) ← (if 773 ≤ protocol then readModernRadius else pure (0, 0))
  let knockback ← mcReaderBool
  let (motionX, motionY, motionZ) ← (if knockback then readMotion (protocol = 768)
    else pure (0, 0, 0))
  typedSkipExplosionParticle validators protocol
  typedSkipSoundHolder
  .when (773 ≤ protocol) (skipBlastParticles validators protocol)
  .when (777 ≤ protocol) skipBool
  let effects ← readSince effectsStart
  pure
    { x := centre.1
      y := centre.2.1
      z := centre.2.2
      radius := radius
      affectedBlockCount := blockCount
      affectedBlocks := []
      motionX := motionX
      motionY := motionY
      motionZ := motionZ
      effects := effects
      hasMotion := knockback }

/-- How the blast interacts with blocks, its particles and its sound, from 765 on. -/
def skipInteraction : DecodeM protocol Unit := .orInvalid do
  let interaction ← mcReaderVarint
  require (0 ≤ interaction ∧ interaction ≤ 4)
  typedSkipExplosionParticle validators protocol
  typedSkipExplosionParticle validators protocol
  typedSkipSoundHolder

/-- The layout up to 767. -/
def readOldExplosion (centre : McDouble × McDouble × McDouble) :
    DecodeM protocol McExplosionPacket := do
  let effectsStart ← mcReaderOffset
  let (radius, count) ← readOldRadius protocol centre
  rejectWhen (sizeMax / 3 < count) .integerOverflow 0
  let affectedBlocks ← mcReaderBytes (count * 3)
  let (motionX, motionY, motionZ) ← readMotion True
  let effects ← (if 765 ≤ protocol then do
    skipInteraction validators protocol
    readSince effectsStart
  else pure [])
  pure
    { x := centre.1
      y := centre.2.1
      z := centre.2.2
      radius := radius
      affectedBlockCount := count
      affectedBlocks := affectedBlocks
      motionX := motionX
      motionY := motionY
      motionZ := motionZ
      effects := effects
      hasMotion := true }

def typedDecodeExplosion : DecodeM protocol McExplosionPacket := do
  let centre ← (if 761 ≤ protocol then readDoubles else readWidened)
  if 768 ≤ protocol then readModernExplosion validators protocol centre
  else readOldExplosion validators protocol centre

end

structure McUnloadChunkPacket where
  chunkX : Int
  chunkZ : Int
  deriving Repr, DecidableEq

/-- The coordinates change places at 764. -/
def typedDecodeUnloadChunk (protocol : Int) : DecodeM protocol McUnloadChunkPacket := do
  let first ← mcReaderI32
  let second ← mcReaderI32
  pure (if 764 ≤ protocol then ⟨second, first⟩ else ⟨first, second⟩)

structure McGameStateChangePacket where
  reason : UInt8
  value : McFloat
  deriving Repr, DecidableEq

def typedDecodeGameState {protocol : Int} : DecodeM protocol McGameStateChangePacket :=
  .orInvalid do
    let reason ← mcReaderU8
    let value ← mcReaderFloat
    require (value.isFinite = true)
    pure ⟨reason, value⟩

structure McTimeUpdatePacket where
  age : Int
  timeOfDay : Int
  clockUpdateCount : Nat
  clockUpdates : List UInt8
  tickDayTime : Bool
  hasTimeOfDay : Bool
  hasTickDayTime : Bool
  hasClockUpdates : Bool
  deriving Repr, DecidableEq

structure McClockUpdate where
  id : Int
  totalTicks : Int
  partialTick : McFloat
  rate : McFloat
  deriving Repr, DecidableEq

def readerClockUpdate : ReadM McClockUpdate :=
  orReject .invalidPacketBody 0 do
    let id ← mcReaderVarint
    require (0 ≤ id)
    let totalTicks ← mcReaderVarlong
    let partialTick ← mcReaderFloat
    let rate ← mcReaderFloat
    require (partialTick.isFinite = true ∧ rate.isFinite = true)
    pure ⟨id, totalTicks, partialTick, rate⟩

def skipClockUpdate : ReadM Unit := do
  let _ ← readerClockUpdate

/-- An unsupported release fails without a code. -/
def mcReaderClientboundTimeUpdate (protocol : Int) : DecodeM protocol McTimeUpdatePacket :=
  if mcProtocolSupported protocol = false then .orFailed .refuse
  else do
    let age ← mcReaderI64
    if protocol < 775 then
      let timeOfDay ← mcReaderI64
      let tickDayTime ← (if 768 ≤ protocol then mcReaderBool else pure false)
      pure ⟨age, timeOfDay, 0, [], tickDayTime, true, decide (768 ≤ protocol), false⟩
    else
      let count ← mcReaderVarint
      typedCount count mcMaxClockUpdateCount
      let start ← mcReaderOffset
      .iterate (fun _ => skipClockUpdate) count.toNat ()
      let clockUpdates ← readSince start
      pure ⟨age, 0, count.toNat, clockUpdates, false, false, false, true⟩

structure McRespawnPacket where
  dimensionId : Int
  dimension : List UInt8
  worldName : List UInt8
  hashedSeed : Int
  gameMode : Int
  previousGameMode : Int
  portalCooldown : Int
  seaLevel : Int
  rawFlags : Nat
  deathLocation : List UInt8
  hasDimensionId : Bool
  hasDimensionData : Bool
  hasWorldName : Bool
  hasHashedSeed : Bool
  hasPreviousGameMode : Bool
  hasDeathLocation : Bool
  hasPortalCooldown : Bool
  hasSeaLevel : Bool
  deriving Repr, DecidableEq

def typedReadDeathLocation (protocol : Int) : DecodeM protocol (Option (List UInt8)) := do
  let present ← mcReaderBool
  if present = false then pure none
  else
    let start ← mcReaderOffset
    .orInvalid do
      let _ ← readNonempty 32767
      let _ ← mcReaderPosition protocol
    let deathLocation ← readSince start
    pure (some deathLocation)

/-- The layout before 735. -/
def readOldRespawn (protocol : Int) : DecodeM protocol McRespawnPacket := do
  let dimensionId ← mcReaderI32
  let difficulty ← (if protocol ≤ 404 then orReject .invalidPacketBody 0 do
    let difficulty ← mcReaderU8
    require (difficulty ≤ 3)
    pure difficulty
  else pure 0)
  let hashedSeed ← (if 573 ≤ protocol then mcReaderI64 else pure 0)
  let (gameMode, dimension) ← .orInvalid do
    let gameMode ← mcReaderU8
    let dimension ← readNonempty 64
    pure (gameMode, dimension)
  pure
    { dimensionId := dimensionId
      dimension := dimension
      worldName := []
      hashedSeed := hashedSeed
      gameMode := gameMode.toNat
      previousGameMode := 0
      portalCooldown := 0
      seaLevel := 0
      rawFlags := difficulty.toNat
      deathLocation := []
      hasDimensionId := true
      hasDimensionData := true
      hasWorldName := false
      hasHashedSeed := decide (573 ≤ protocol)
      hasPreviousGameMode := false
      hasDeathLocation := false
      hasPortalCooldown := false
      hasSeaLevel := false }

/-- The dimension: a registry id from 766 on, an NBT document from 751 to 758, a name
otherwise. -/
def readRespawnDimension (protocol : Int) : ReadM (Int × List UInt8) :=
  if 766 ≤ protocol then orReject .invalidPacketBody 0 do
    let dimensionId ← mcReaderVarint
    require (0 ≤ dimensionId)
    pure (dimensionId, [])
  else if protocol < 751 ∨ 759 ≤ protocol then orReject .invalidPacketBody 0 do
    let dimension ← readNonempty 32767
    pure (0, dimension)
  else do
    let dimension ← mcReaderNbt true
    pure (0, dimension)

/-- A flag that says whether metadata is copied. -/
def readCopyMetadata : ReadM Nat := do
  let copyMetadata ← mcReaderBool
  pure (if copyMetadata then 1 else 0)

def readPortalCooldown : ReadM Int :=
  orReject .invalidPacketBody 0 do
    let portalCooldown ← mcReaderVarint
    require (0 ≤ portalCooldown)
    pure portalCooldown

/-- What is copied, where the player died, the cooldown and the sea level. -/
structure RespawnTail where
  copy : Nat
  deathLocation : Option (List UInt8)
  portalCooldown : Int
  seaLevel : Int

/-- Two bits from 766 on. -/
def readCopyMask : ReadM Nat :=
  orReject .invalidPacketBody 0 do
    let copy ← mcReaderU8
    requireStrict (copy &&& 0xfc = 0)
    pure copy.toNat

def readRespawnTail (protocol : Int) : DecodeM protocol RespawnTail :=
  if protocol < 759 then do
    let copy ← readCopyMetadata
    pure ⟨copy, none, 0, 0⟩
  else if protocol ≤ 763 then do
    let copy ← readCopyMetadata
    let deathLocation ← typedReadDeathLocation protocol
    let portalCooldown ← (if protocol = 763 then readPortalCooldown else pure 0)
    pure ⟨copy, deathLocation, portalCooldown, 0⟩
  else do
    let deathLocation ← typedReadDeathLocation protocol
    let portalCooldown ← readPortalCooldown
    let seaLevel ← (if 768 ≤ protocol then mcReaderVarint else pure 0)
    let copy ← (if 766 ≤ protocol then readCopyMask else readCopyMetadata)
    pure ⟨copy, deathLocation, portalCooldown, seaLevel⟩

/-- The layout from 735 on. -/
def readModernRespawn (protocol : Int) : DecodeM protocol McRespawnPacket := do
  let (dimensionId, dimension) ← readRespawnDimension protocol
  let (worldName, hashedSeed, gameMode, previous) ← .orInvalid do
    let worldName ← readNonempty 32767
    let hashedSeed ← mcReaderI64
    let gameMode ← mcReaderU8
    let previous ← mcReaderU8
    pure (worldName, hashedSeed, gameMode, previous)
  let debug ← mcReaderBool
  let flat ← mcReaderBool
  let tail ← readRespawnTail protocol
  pure
    { dimensionId := dimensionId
      dimension := dimension
      worldName := worldName
      hashedSeed := hashedSeed
      gameMode := gameMode.toNat
      previousGameMode := if previous = 0xff then -1 else previous.toNat
      portalCooldown := tail.portalCooldown
      seaLevel := tail.seaLevel
      rawFlags := (if debug then 1 else 0) ||| (if flat then 2 else 0) ||| tail.copy <<< 8
      deathLocation := tail.deathLocation.getD []
      hasDimensionId := decide (766 ≤ protocol)
      hasDimensionData := decide (protocol < 766)
      hasWorldName := true
      hasHashedSeed := true
      hasPreviousGameMode := true
      hasDeathLocation := tail.deathLocation.isSome
      hasPortalCooldown := decide (763 ≤ protocol)
      hasSeaLevel := decide (768 ≤ protocol) }

def typedDecodeRespawn (protocol : Int) : DecodeM protocol McRespawnPacket := do
  let decoded ← (if protocol < 735 then readOldRespawn protocol else readModernRespawn protocol)
  typedRequire (decoded.gameMode.toNat &&& 0xf4 = 0
    ∧ -1 ≤ decoded.previousGameMode ∧ decoded.previousGameMode ≤ 3)
  pure decoded

end McProtocol
