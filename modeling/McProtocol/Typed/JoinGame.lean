import McProtocol.Typed.Item

/-! # Joining a game

The reader of the packet that opens a game. Where a value is out of range it fails
the reader without a code.
-/

namespace McProtocol

structure McJoinGamePacket where
  entityId : Int
  dimensionId : Int
  maximumPlayers : Int
  viewDistance : Int
  simulationDistance : Int
  portalCooldown : Int
  seaLevel : Int
  hashedSeed : Int
  previousGameMode : Int
  gameMode : UInt8
  difficulty : UInt8
  worldCount : Nat
  worldNames : List UInt8
  registryCodec : List UInt8
  dimension : List UInt8
  worldName : List UInt8
  levelType : List UInt8
  deathLocation : List UInt8
  hardcore : Bool
  reducedDebug : Bool
  showRespawnScreen : Bool
  limitedCrafting : Bool
  debug : Bool
  flat : Bool
  enforcesSecureChat : Bool
  hasDimensionId : Bool
  hasRegistryCodec : Bool
  hasDimensionData : Bool
  dimensionIsNbt : Bool
  hasWorldName : Bool
  hasLevelType : Bool
  hasHashedSeed : Bool
  hasPreviousGameMode : Bool
  hasViewDistance : Bool
  hasSimulationDistance : Bool
  hasDeathLocation : Bool
  hasPortalCooldown : Bool
  hasSeaLevel : Bool
  hasEnforcesSecureChat : Bool
  onlineMode : Bool
  hasOnlineMode : Bool
  deriving Repr, DecidableEq

/-- A packet of which only the entity is known. -/
def McJoinGamePacket.of (entityId : Int) : McJoinGamePacket where
  entityId := entityId
  dimensionId := 0
  maximumPlayers := 0
  viewDistance := 0
  simulationDistance := 0
  portalCooldown := 0
  seaLevel := 0
  hashedSeed := 0
  previousGameMode := -1
  gameMode := 0
  difficulty := 0
  worldCount := 0
  worldNames := []
  registryCodec := []
  dimension := []
  worldName := []
  levelType := []
  deathLocation := []
  hardcore := false
  reducedDebug := false
  showRespawnScreen := false
  limitedCrafting := false
  debug := false
  flat := false
  enforcesSecureChat := false
  hasDimensionId := false
  hasRegistryCodec := false
  hasDimensionData := false
  dimensionIsNbt := false
  hasWorldName := false
  hasLevelType := false
  hasHashedSeed := false
  hasPreviousGameMode := false
  hasViewDistance := false
  hasSimulationDistance := false
  hasDeathLocation := false
  hasPortalCooldown := false
  hasSeaLevel := false
  hasEnforcesSecureChat := false
  onlineMode := false
  hasOnlineMode := false

section
variable {protocol : Int}

/-- The game mode, with hardcore as its fourth bit where it is embedded. -/
def mcReaderJoinGameMode (embeddedHardcore : Bool) : DecodeM protocol (UInt8 × Bool) :=
  .orFailed do
    let encoded ← mcReaderU8
    let normalized := if embeddedHardcore then encoded &&& 0x07 else encoded
    require (normalized ≤ 3 ∧ ¬ (embeddedHardcore = true ∧ encoded &&& 0xf0 ≠ 0))
    pure (normalized, embeddedHardcore && encoded &&& 0x08 != 0)

def mcReaderJoinWorlds : DecodeM protocol (Nat × List UInt8) := do
  let count ← .orFailed do
    let count ← mcReaderVarint
    require (0 ≤ count ∧ count ≤ 16)
    pure count
  let start ← mcReaderOffset
  .orFailed (.iterate (fun _ => do
    let _ ← readNonempty 32767) count.toNat ())
  let worldNames ← readSince start
  pure (count.toNat, worldNames)

def mcReaderJoinNonnegativeVarint : ReadM Int := do
  let value ← mcReaderVarint
  require (0 ≤ value ∧ value ≤ mcMaxPacketArrayCount)
  pure value

end

section
variable (protocol : Int)

def mcReaderJoinDeathLocation : DecodeM protocol (Option (List UInt8)) := do
  let present ← mcReaderBool
  if present = false then pure none
  else
    let start ← mcReaderOffset
    .orFailed do
      let _ ← readNonempty 32767
      let _ ← mcReaderPosition protocol
    let deathLocation ← readSince start
    pure (some deathLocation)

/-- Current and previous mode: two bytes before 777, since then two VarInts of which the
second counts from one. -/
def mcReaderGameModes : DecodeM protocol (UInt8 × Int) :=
  if 777 ≤ protocol then .orFailed do
    let current ← mcReaderVarint
    let prior ← mcReaderVarint
    require (0 ≤ current ∧ current ≤ 3 ∧ 0 ≤ prior ∧ prior ≤ 4)
    pure (toByte current, prior - 1)
  else do
    let (gameMode, _) ← mcReaderJoinGameMode false
    let previous ← mcReaderI8
    require (-1 ≤ previous ∧ previous ≤ 3)
    pure (gameMode, previous)

/-- The layout before 735. -/
def readOldJoinGame (entityId : Int) : DecodeM protocol McJoinGamePacket := do
  let (gameMode, hardcore) ← mcReaderJoinGameMode (decide (protocol ≤ 5))
  let dimensionId ← (if protocol ≤ 47 ∨ protocol = 107 then mcReaderI8 else mcReaderI32)
  let difficulty ← (if protocol ≤ 404 then .orFailed do
    let difficulty ← mcReaderU8
    require (difficulty ≤ 3)
    pure difficulty
  else pure 0)
  let hashedSeed ← (if 573 ≤ protocol then mcReaderI64 else pure 0)
  let (maximum, levelType) ← .orFailed do
    let maximum ← mcReaderU8
    let levelType ← readNonempty 64
    pure (maximum, levelType)
  let viewDistance ← (if 477 ≤ protocol then .orFailed mcReaderJoinNonnegativeVarint
    else pure 0)
  let reducedDebug ← (if 47 ≤ protocol then mcReaderBool else pure false)
  let showRespawnScreen ← (if 573 ≤ protocol then mcReaderBool else pure false)
  pure { McJoinGamePacket.of entityId with
    gameMode := gameMode
    hardcore := hardcore
    dimensionId := dimensionId
    hasDimensionId := true
    difficulty := difficulty
    hashedSeed := hashedSeed
    hasHashedSeed := decide (573 ≤ protocol)
    maximumPlayers := maximum.toNat
    levelType := levelType
    hasLevelType := true
    viewDistance := viewDistance
    hasViewDistance := decide (477 ≤ protocol)
    reducedDebug := reducedDebug
    showRespawnScreen := showRespawnScreen }

/-- What 764 and later put in front of the dimension. -/
def readJoinSettings (packet : McJoinGamePacket) : DecodeM protocol McJoinGamePacket :=
  .orFailed do
    let hardcore ← mcReaderBool
    let (worldCount, worldNames) ← mcReaderJoinWorlds
    let maximumPlayers ← mcReaderJoinNonnegativeVarint
    let viewDistance ← mcReaderJoinNonnegativeVarint
    let simulationDistance ← mcReaderJoinNonnegativeVarint
    let reducedDebug ← mcReaderBool
    let showRespawnScreen ← mcReaderBool
    let limitedCrafting ← mcReaderBool
    pure { packet with
      hardcore := hardcore
      worldCount := worldCount
      worldNames := worldNames
      maximumPlayers := maximumPlayers
      viewDistance := viewDistance
      hasViewDistance := true
      simulationDistance := simulationDistance
      hasSimulationDistance := true
      reducedDebug := reducedDebug
      showRespawnScreen := showRespawnScreen
      limitedCrafting := limitedCrafting }

/-- The dimension from 764 on: a name, or from 766 on a registry id. -/
def readJoinDimension (packet : McJoinGamePacket) : DecodeM protocol McJoinGamePacket :=
  .orFailed (if 766 ≤ protocol then do
    let dimensionId ← mcReaderJoinNonnegativeVarint
    pure { packet with dimensionId := dimensionId, hasDimensionId := true }
  else do
    let dimension ← readNonempty 32767
    pure { packet with dimension := dimension, hasDimensionData := true })

/-- The world the player is put into, from 764 on. -/
def readJoinWorld (packet : McJoinGamePacket) : DecodeM protocol McJoinGamePacket :=
  .orFailed do
    let worldName ← readNonempty 32767
    let hashedSeed ← mcReaderI64
    let (gameMode, previousGameMode) ← mcReaderGameModes protocol
    let debug ← mcReaderBool
    let flat ← mcReaderBool
    let deathLocation ← mcReaderJoinDeathLocation protocol
    let portalCooldown ← mcReaderJoinNonnegativeVarint
    pure { packet with
      worldName := worldName
      hasWorldName := true
      hashedSeed := hashedSeed
      hasHashedSeed := true
      gameMode := gameMode
      previousGameMode := previousGameMode
      hasPreviousGameMode := true
      debug := debug
      flat := flat
      deathLocation := deathLocation.getD []
      hasDeathLocation := deathLocation.isSome
      portalCooldown := portalCooldown
      hasPortalCooldown := true }

/-- The layout from 764 on. -/
def readModernJoinGame (entityId : Int) : DecodeM protocol McJoinGamePacket := do
  let settings ← readJoinSettings protocol (.of entityId)
  let dimension ← readJoinDimension protocol settings
  let world ← readJoinWorld protocol dimension
  let seaLevel ← (if 768 ≤ protocol then mcReaderVarint else pure 0)
  let onlineMode ← (if 776 ≤ protocol then mcReaderBool else pure false)
  let enforcesSecureChat ← (if 766 ≤ protocol then mcReaderBool else pure false)
  pure { world with
    seaLevel := seaLevel
    hasSeaLevel := decide (768 ≤ protocol)
    onlineMode := onlineMode
    hasOnlineMode := decide (776 ≤ protocol)
    enforcesSecureChat := enforcesSecureChat
    hasEnforcesSecureChat := decide (766 ≤ protocol) }

/-- Hardcore and game mode from 735 to 763: apart from 751 on. -/
def readJoinMode : DecodeM protocol (UInt8 × Bool) :=
  if 751 ≤ protocol then do
    let hardcore ← mcReaderBool
    let (gameMode, _) ← mcReaderJoinGameMode false
    pure (gameMode, hardcore)
  else mcReaderJoinGameMode true

/-- The registries and the dimension from 735 to 763. -/
def readJoinRegistries (packet : McJoinGamePacket) : DecodeM protocol McJoinGamePacket := do
  let packet ← .orFailed do
    let previousGameMode ← mcReaderI8
    require (-1 ≤ previousGameMode ∧ previousGameMode ≤ 3)
    let (worldCount, worldNames) ← mcReaderJoinWorlds
    let registryCodec ← mcReaderNbt true
    pure { packet with
      previousGameMode := previousGameMode
      hasPreviousGameMode := true
      worldCount := worldCount
      worldNames := worldNames
      registryCodec := registryCodec
      hasRegistryCodec := true }
  let dimensionIsNbt := decide (736 < protocol ∧ protocol < 759)
  let dimension ← (if dimensionIsNbt then mcReaderNbt true else .orFailed (readNonempty 32767))
  pure { packet with
    dimension := dimension
    dimensionIsNbt := dimensionIsNbt
    hasDimensionData := true }

/-- The distances and flags from 735 to 763. -/
def readJoinLimits (packet : McJoinGamePacket) : DecodeM protocol McJoinGamePacket := do
  let maximumPlayers ← (if protocol ≤ 736 then do
    let maximum ← mcReaderU8
    pure (maximum.toNat : Int)
  else .orFailed mcReaderJoinNonnegativeVarint)
  let viewDistance ← .orFailed mcReaderJoinNonnegativeVarint
  let simulationDistance ← (if 757 ≤ protocol then .orFailed mcReaderJoinNonnegativeVarint
    else pure 0)
  let reducedDebug ← mcReaderBool
  let showRespawnScreen ← mcReaderBool
  let debug ← mcReaderBool
  let flat ← mcReaderBool
  pure { packet with
    maximumPlayers := maximumPlayers
    viewDistance := viewDistance
    hasViewDistance := true
    simulationDistance := simulationDistance
    hasSimulationDistance := decide (757 ≤ protocol)
    reducedDebug := reducedDebug
    showRespawnScreen := showRespawnScreen
    debug := debug
    flat := flat }

/-- The layout from 735 to 763. -/
def readMiddleJoinGame (entityId : Int) : DecodeM protocol McJoinGamePacket := do
  let (gameMode, hardcore) ← readJoinMode protocol
  let registries ← readJoinRegistries protocol
    { McJoinGamePacket.of entityId with gameMode := gameMode, hardcore := hardcore }
  let (worldName, hashedSeed) ← .orFailed do
    let worldName ← readNonempty 32767
    let hashedSeed ← mcReaderI64
    pure (worldName, hashedSeed)
  let limits ← readJoinLimits protocol registries
  let deathLocation ← (if 759 ≤ protocol then mcReaderJoinDeathLocation protocol else pure none)
  let portalCooldown ← (if protocol = 763 then .orFailed mcReaderJoinNonnegativeVarint
    else pure 0)
  pure { limits with
    worldName := worldName
    hasWorldName := true
    hashedSeed := hashedSeed
    hasHashedSeed := true
    deathLocation := deathLocation.getD []
    hasDeathLocation := deathLocation.isSome
    portalCooldown := portalCooldown
    hasPortalCooldown := decide (protocol = 763) }

def mcReaderClientboundJoinGame : DecodeM protocol McJoinGamePacket :=
  if mcProtocolSupported protocol = false then .orFailed .refuse
  else do
    let entityId ← mcReaderI32
    if protocol < 735 then readOldJoinGame protocol entityId
    else if 764 ≤ protocol then readModernJoinGame protocol entityId
    else readMiddleJoinGame protocol entityId

end

end McProtocol
