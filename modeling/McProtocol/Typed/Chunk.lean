import McProtocol.Typed.World

/-! # Chunks

The envelope of a chunk: heightmaps, biomes, block entities and light are skipped by
their grammars, the sections are left to their own iterator.
-/

namespace McProtocol

inductive McChunkHeightmapFormat where
  | none
  | namedNbt
  | anonymousNbt
  | registry
  deriving Repr, DecidableEq

structure McChunkEnvelope where
  chunkX : Int
  chunkZ : Int
  sectionMask : Nat
  sectionMaskWordCount : Nat
  biomeCount : Nat
  blockEntityCount : Nat
  skyLightCount : Nat
  blockLightCount : Nat
  heightmaps : List UInt8
  biomes : List UInt8
  chunkData : List UInt8
  blockEntities : List UInt8
  lightData : List UInt8
  heightmapFormat : McChunkHeightmapFormat
  groundUp : Bool
  ignoreOldData : Bool
  trustEdges : Bool
  hasTrustEdges : Bool
  deriving Repr, DecidableEq

/-- An envelope before anything is read. -/
def McChunkEnvelope.at (chunkX chunkZ : Int) : McChunkEnvelope where
  chunkX := chunkX
  chunkZ := chunkZ
  sectionMask := 0
  sectionMaskWordCount := 0
  biomeCount := 0
  blockEntityCount := 0
  skyLightCount := 0
  blockLightCount := 0
  heightmaps := []
  biomes := []
  chunkData := []
  blockEntities := []
  lightData := []
  heightmapFormat := .none
  groundUp := false
  ignoreOldData := false
  trustEdges := false
  hasTrustEdges := false

/-- A counted array: the count, and the bytes of its items. -/
def readCounted (maximum : Nat) (item : ReadM Unit) : ReadM (Nat × List UInt8) := do
  let wireCount ← mcReaderVarint
  typedCount wireCount maximum
  let start ← mcReaderOffset
  .iterate (fun _ => item) wireCount.toNat ()
  let encoded ← readSince start
  pure (wireCount.toNat, encoded)

def typedReadNbtArray (protocol : Int) (maximum : Nat) : ReadM (Nat × List UInt8) :=
  readCounted maximum (skipNbt (decide (protocol < 764)))

/-- A block entity, with its place and type from 757 on. -/
def skipBlockEntity (protocol : Int) : ReadM Unit := do
  .when (757 ≤ protocol) (orReject .invalidPacketBody 0 do
    mcReaderSkip 1
    let _ ← mcReaderI16
    skipNonnegative)
  skipNbt (decide (protocol < 764))

def typedReadChunkBlockEntities (protocol : Int) : ReadM (Nat × List UInt8) :=
  readCounted mcMaxChunkBlockEntities (skipBlockEntity protocol)

/-- How many words, and the first of them. -/
def typedReadLongArray (maximum : Nat) : ReadM (Nat × Nat) := do
  let wireCount ← mcReaderVarint
  typedCount wireCount maximum
  let first ← .iterate (fun first => do
    let word ← mcReaderU64
    pure (first <|> some word)) wireCount.toNat none
  pure (wireCount.toNat, first.getD 0)

def skipLongArray (maximum : Nat) : ReadM Unit := do
  let _ ← typedReadLongArray maximum

/-- A heightmap by its registry id. -/
def skipHeightmap : ReadM Unit :=
  orReject .invalidPacketBody 0 do
    skipNonnegative
    skipLongArray 64

def typedReadRegistryHeightmaps : ReadM (List UInt8) := do
  let start ← mcReaderOffset
  let count ← orReject .invalidPacketBody 0 do
    let count ← mcReaderVarint
    require (0 ≤ count ∧ count ≤ 16)
    pure count
  .iterate (fun _ => skipHeightmap) count.toNat ()
  readSince start

/-- How many biomes follow, of what is not in the sections. -/
def readBiomes (protocol : Int) (groundUp : Bool) : ReadM Nat :=
  if 573 ≤ protocol ∧ protocol ≤ 736 then
    if groundUp = false then pure 0
    else do
      mcReaderSkip (1024 * 4)
      pure 1024
  else if 751 ≤ protocol ∧ protocol ≤ 756 then
    if protocol ≤ 754 ∧ groundUp = false then pure 0
    else do
      let wireCount ← orReject .invalidPacketBody 0 do
        let wireCount ← mcReaderVarint
        require (0 ≤ wireCount ∧ wireCount ≤ 1024)
        pure wireCount
      .iterate (fun _ => skipNonnegative) wireCount.toNat ()
      pure wireCount.toNat
  else pure 0

def typedReadChunkBiomes (protocol : Int) (groundUp : Bool) : ReadM (Nat × List UInt8) := do
  let start ← mcReaderOffset
  let count ← readBiomes protocol groundUp
  let biomes ← readSince start
  pure (count, biomes)

/-- A light mask as the bytes of a bit set: strict mode wants no zero byte at its end. -/
def typedReadBitsetBytes (maxBytes : Nat) : ReadM Unit := do
  let bytes ← mcReaderBufferVarint
  orReject .invalidPacketBody 0 do
    require (bytes.length ≤ maxBytes)
    requireStrict (bytes.getLast? ≠ some 0)

/-- A light array: strict mode wants all of its 2048 bytes. -/
def skipLightArray : ReadM Unit :=
  orReject .invalidPacketBody 0 do
    let light ← mcReaderBufferVarint
    require (light.length ≤ 2048)
    requireStrict (light.length = 2048)

def typedReadLightArrays : ReadM Nat := do
  let wireCount ← mcReaderVarint
  typedCount wireCount mcMaxChunkLightArrays
  .iterate (fun _ => skipLightArray) wireCount.toNat ()
  pure wireCount.toNat

def skipLightMask (protocol : Int) : ReadM Unit :=
  if 777 ≤ protocol then typedReadBitsetBytes (mcMaxChunkSections * 8)
  else skipLongArray mcMaxChunkSections

section
variable (validators : Validators) (protocol : Int)

/-- Up to 5: one zlib stream behind two masks. -/
def readChunk5 (envelope : McChunkEnvelope) : ReadM McChunkEnvelope := do
  let groundUp ← mcReaderBool
  let mask ← mcReaderU16
  let addMask ← mcReaderU16
  let chunkData ← mcReaderBufferI32
  typedValidateZlibBlob validators.zlib chunkData mcDefaultMaxDecompressedSize
  pure { envelope with
    chunkData := chunkData
    groundUp := groundUp
    sectionMask := mask
    sectionMaskWordCount := 1
    ignoreOldData := addMask != 0 }

def readChunk47 (envelope : McChunkEnvelope) : ReadM McChunkEnvelope := do
  let groundUp ← mcReaderBool
  let mask ← mcReaderU16
  let chunkData ← mcReaderBufferVarint
  pure { envelope with
    chunkData := chunkData
    groundUp := groundUp
    sectionMask := mask
    sectionMaskWordCount := 1 }

/-- The flags and the section mask from 107 to 756. -/
def readChunkMask (envelope : McChunkEnvelope) : ReadM McChunkEnvelope :=
  if protocol ≤ 754 then do
    let groundUp ← mcReaderBool
    let ignoreOldData ← (if protocol = 735 ∨ protocol = 736 then mcReaderBool else pure false)
    let mask ← orReject .invalidPacketBody 0 do
      let mask ← mcReaderVarint
      require (0 ≤ mask)
      pure mask
    pure { envelope with
      groundUp := groundUp
      ignoreOldData := ignoreOldData
      sectionMask := mask.toNat
      sectionMaskWordCount := 1 }
  else do
    let (words, first) ← typedReadLongArray 64
    pure { envelope with
      groundUp := true
      sectionMask := first
      sectionMaskWordCount := words }

/-- From 107 to 756. -/
def readChunk756 (envelope : McChunkEnvelope) : ReadM McChunkEnvelope := do
  let envelope ← readChunkMask protocol envelope
  let heightmaps ← (if 477 ≤ protocol then mcReaderNbt true else pure [])
  let (biomeCount, biomes) ← typedReadChunkBiomes protocol envelope.groundUp
  let chunkData ← mcReaderBufferVarint
  let (blockEntityCount, blockEntities) ← (if 110 ≤ protocol then
    typedReadNbtArray protocol mcMaxChunkBlockEntities else pure (0, []))
  pure { envelope with
    heightmapFormat := if 477 ≤ protocol then .namedNbt else .none
    heightmaps := heightmaps
    biomeCount := biomeCount
    biomes := biomes
    chunkData := chunkData
    blockEntityCount := blockEntityCount
    blockEntities := blockEntities }

/-- The light of a chunk: whether to trust its edges, four masks, and the arrays. -/
def readLight (envelope : McChunkEnvelope) : ReadM McChunkEnvelope := do
  let lightStart ← mcReaderOffset
  let trustEdges ← (if protocol ≤ 762 then mcReaderBool else pure false)
  .iterate (fun _ => skipLightMask protocol) 4 ()
  let skyLightCount ← typedReadLightArrays
  let blockLightCount ← typedReadLightArrays
  let lightData ← readSince lightStart
  pure { envelope with
    hasTrustEdges := decide (protocol ≤ 762)
    trustEdges := trustEdges
    skyLightCount := skyLightCount
    blockLightCount := blockLightCount
    lightData := lightData }

/-- From 757 on: always a full chunk, and the light with it. -/
def readChunkWithLight (envelope : McChunkEnvelope) : ReadM McChunkEnvelope := do
  let heightmaps ← (if 770 ≤ protocol then typedReadRegistryHeightmaps
    else mcReaderNbt (decide (protocol < 764)))
  let chunkData ← mcReaderBufferVarint
  let (blockEntityCount, blockEntities) ← typedReadChunkBlockEntities protocol
  readLight protocol { envelope with
    groundUp := true
    heightmapFormat := if 770 ≤ protocol then .registry
      else if protocol < 764 then .namedNbt else .anonymousNbt
    heightmaps := heightmaps
    chunkData := chunkData
    blockEntityCount := blockEntityCount
    blockEntities := blockEntities }

def typedDecodeChunk : DecodeM protocol McChunkEnvelope := do
  let chunkX ← mcReaderI32
  let chunkZ ← mcReaderI32
  let envelope := McChunkEnvelope.at chunkX chunkZ
  if protocol ≤ 5 then readChunk5 validators envelope
  else if protocol = 47 then readChunk47 envelope
  else if protocol < 757 then readChunk756 protocol envelope
  else readChunkWithLight protocol envelope

end

end McProtocol
