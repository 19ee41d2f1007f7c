import McProtocol.Typed.Entity

/-! # Entity metadata

Metadata is a list of numbered values, each of a serializer that the release numbers
in its own way. A value is skipped by its grammar: what it holds is for the iterators.
-/

namespace McProtocol

def skipVarint : ReadM Unit := do
  let _ ← mcReaderVarint

def skipBool : ReadM Unit := do
  let _ ← mcReaderBool

def skipI32 : ReadM Unit := do
  let _ ← mcReaderI32

def skipNbt (namedRoot : Bool) : ReadM Unit := do
  let _ ← mcReaderNbt namedRoot

def typedSkipFloats (count : Nat) : ReadM Unit :=
  .iterate (fun _ => do
    let value ← mcReaderFloat
    typedRequire (value.isFinite = true)) count ()

def typedSkipStringValue : ReadM Unit := do
  let _ ← mcReaderStringBounded 32767

def typedSkipUuidValue : ReadM Unit := do
  let _ ← mcReaderUuid

/-- `typed_skip_anonymous_nbt_value`. -/
def typedSkipAnonymousNbtValue : ReadM Unit := skipNbt false

/-- Villager data and the like: three registry ids. -/
def skipThreeNonnegative : ReadM Unit := .iterate (fun _ => skipNonnegative) 3 ()

section
variable {protocol : Int}

def typedSkipPositionValue : DecodeM protocol Unit := do
  let _ ← mcReaderPosition protocol

def typedSkipOptional (payload : DecodeM protocol Unit) : DecodeM protocol Unit := do
  let present ← mcReaderBool
  .when (present = true) payload

/-- A painting by its registry id, or in full behind a `0`. -/
def typedSkipRegistryHolderPainting : DecodeM protocol Unit := .orInvalid do
  let holder ← mcReaderVarint
  require (0 ≤ holder)
  .when (holder = 0) do
    let width ← mcReaderI32
    let height ← mcReaderI32
    require (0 < width ∧ 0 < height)
    let _ ← readNonempty 32767
    typedSkipOptional typedSkipAnonymousNbtValue
    typedSkipOptional typedSkipAnonymousNbtValue

end

def skipItem (validators : Validators) (protocol : Int) : DecodeM protocol Unit := do
  let _ ← validators.mcReaderItemStack protocol .full

/-- The particles of the releases before 766 that carry data, by their ids; `-1` where a
release lacks one. -/
structure OldParticles where
  blockA : Int
  blockB : Int
  dust : Int
  transition : Int
  item : Int
  vibration : Int
  rotation : Int
  shriek : Int

def oldParticles (protocol : Int) : OldParticles :=
  if protocol < 477 then ⟨3, 20, 11, -1, 27, -1, -1, -1⟩
  else if protocol < 735 then ⟨3, 23, 14, -1, 32, -1, -1, -1⟩
  else if protocol < 755 then ⟨3, 23, 14, -1, 34, -1, -1, -1⟩
  else if protocol < 757 then ⟨4, 25, 15, 16, 36, 37, -1, -1⟩
  else if protocol < 759 then ⟨2, 24, 14, 15, 35, 36, -1, -1⟩
  else if protocol < 762 then ⟨2, 25, 14, 15, 39, 40, 30, 92⟩
  else if protocol < 763 then ⟨2, 25, 14, 15, 42, 43, 33, 95⟩
  else ⟨2, 25, 14, 15, 40, 41, 31, 93⟩

/-- An entity as the target of a vibration: from 759 on with an eye height and a
destination. -/
def skipVibrationEntity (protocol : Int) : ReadM Unit :=
  orReject .invalidPacketBody 0 do
    let entity ← mcReaderVarint
    require (0 ≤ entity)
    .when (759 ≤ protocol) do
      skipVarint
      let destination ← mcReaderVarint
      require (0 ≤ destination)

def skipOldVibration (protocol : Int) : DecodeM protocol Unit := do
  .when (protocol < 759) typedSkipPositionValue
  let kind ← mcReaderStringBounded 64
  (if kind = "minecraft:block".toUTF8.toList then typedSkipPositionValue
  else if kind = "minecraft:entity".toUTF8.toList then skipVibrationEntity protocol
  else reject .invalidPacketBody 0)
  skipNonnegative

section
variable (validators : Validators) (protocol : Int)

def typedSkipOldParticleValue (particle : Int) : DecodeM protocol Unit := do
  let known := oldParticles protocol
  typedRequire (0 ≤ particle)
  if particle = known.blockA ∨ particle = known.blockB ∨ particle = known.shriek then
    skipNonnegative
  else if particle = known.dust then typedSkipFloats 4
  else if particle = known.transition then typedSkipFloats 7
  else if particle = known.rotation then typedSkipFloats 1
  else if particle = known.item then skipItem validators protocol
  else if particle = known.vibration then skipOldVibration protocol
  else pure ()

def typedSkipOldParticle : DecodeM protocol Unit := do
  let particle ← mcReaderVarint
  typedSkipOldParticleValue validators protocol particle

/-- The particles that carry data from 766 on. -/
structure McParticleProfile where
  maximum : Int
  block : Int
  blockMarker : Int
  fallingDust : Int
  dustPillar : Int
  blockCrumble : Int
  dust : Int
  transition : Int
  entityEffect : Int
  item : Int
  sculkCharge : Int
  shriek : Int
  vibration : Int
  trail : Int
  tintedLeaves : Int
  dragonBreath : Int
  effect : Int
  instantEffect : Int
  flash : Int

def typedParticleProfile : McParticleProfile :=
  if protocol < 768 then
    ⟨108, 1, 2, 28, 105, -1, 13, 14, 20, 44, 35, 99, 45, -1, -1, 7, 15, 43, 39⟩
  else if protocol = 768 then
    ⟨110, 1, 2, 28, 106, 110, 13, 14, 20, 44, 35, 100, 45, 46, -1, 7, 15, 43, 39⟩
  else if protocol = 769 then
    ⟨111, 1, 2, 28, 107, 111, 13, 14, 20, 45, 36, 101, 46, 47, -1, 7, 15, 44, 40⟩
  else if protocol < 773 then
    ⟨113, 1, 2, 28, 108, 112, 13, 14, 20, 46, 37, 102, 47, 48, 35, 7, 15, 45, 41⟩
  else if protocol < 775 then
    ⟨114, 1, 2, 29, 109, 113, 14, 15, 21, 47, 38, 103, 48, 49, 36, 8, 16, 46, 42⟩
  else if protocol = 775 then
    ⟨116, 1, 2, 29, 111, 115, 14, 15, 21, 47, 38, 105, 48, 49, 36, 8, 16, 46, 42⟩
  else if protocol = 776 then
    ⟨124, 1, 2, 36, 118, 122, 21, 22, 28, 54, 45, 112, 55, 56, 43, 15, 23, 53, 49⟩
  else ⟨127, 1, 2, 36, 121, 125, 21, 22, 28, 57, 48, 115, 58, 59, 46, 15, 23, 56, 52⟩

/-- Dust in one colour or, for a transition, in two: floats before 768, packed since. -/
def skipDust (colours : Nat) : ReadM Unit :=
  if protocol < 768 then typedSkipFloats (3 * colours + 1)
  else do
    .iterate (fun _ => skipI32) colours ()
    typedSkipFloats 1

def skipModernVibration : DecodeM protocol Unit := do
  let kind ← .orInvalid do
    let kind ← mcReaderVarint
    require (0 ≤ kind ∧ kind ≤ 1)
    pure kind
  (if kind = 0 then typedSkipPositionValue
  else .orInvalid do
    skipNonnegative
    typedSkipFloats 1)
  skipNonnegative

def skipTrail : ReadM Unit := do
  .iterate (fun _ => orReject .invalidPacketBody 0 do
    let coordinate ← mcReaderDouble
    require (coordinate.isFinite = true)) 3 ()
  let _ ← mcReaderU8

def typedSkipModernParticleValue (particle : Int) : DecodeM protocol Unit := do
  let profile := typedParticleProfile protocol
  typedRequire (0 ≤ particle ∧ particle ≤ profile.maximum)
  if particle = profile.block ∨ particle = profile.blockMarker ∨ particle = profile.fallingDust
      ∨ particle = profile.dustPillar ∨ particle = profile.blockCrumble
      ∨ particle = profile.shriek then skipNonnegative
  else if particle = profile.dust then skipDust protocol 1
  else if particle = profile.transition then skipDust protocol 2
  else if particle = profile.entityEffect ∨ particle = profile.tintedLeaves
      ∨ particle = profile.flash then skipI32
  else if particle = profile.item then skipItem validators protocol
  else if particle = profile.sculkCharge ∨ particle = profile.dragonBreath then typedSkipFloats 1
  else if particle = profile.effect ∨ particle = profile.instantEffect then do
    skipI32
    typedSkipFloats 1
  else if particle = profile.vibration then skipModernVibration protocol
  else if particle = profile.trail then skipTrail
  else pure ()

def typedSkipModernParticle : DecodeM protocol Unit := do
  let particle ← mcReaderVarint
  typedSkipModernParticleValue validators protocol particle

/-- A counted list of particles. -/
def skipParticles : DecodeM protocol Unit := do
  let count ← mcReaderVarint
  typedCount count mcMaxPacketArrayCount
  .iterate (fun _ => typedSkipModernParticle validators protocol) count.toNat ()

/-- Up to 47. -/
def skipValue47 (type : Int) : DecodeM protocol Unit :=
  if type = 0 then mcReaderSkip 1
  else if type = 1 then mcReaderSkip 2
  else if type = 2 then mcReaderSkip 4
  else if type = 3 then typedSkipFloats 1
  else if type = 4 then typedSkipStringValue
  else if type = 5 then skipItem validators protocol
  else if type = 6 then mcReaderSkip 12
  else if type = 7 then typedSkipFloats 3
  else reject .invalidPacketBody 0

/-- From 107 to 340. -/
def skipValue340 (type : Int) : DecodeM protocol Unit :=
  if type = 0 then mcReaderSkip 1
  else if type = 1 ∨ type = 10 ∨ type = 12 then skipVarint
  else if type = 2 then typedSkipFloats 1
  else if type = 3 ∨ type = 4 then typedSkipStringValue
  else if type = 5 then skipItem validators protocol
  else if type = 6 then skipBool
  else if type = 7 then typedSkipFloats 3
  else if type = 8 then typedSkipPositionValue
  else if type = 9 then typedSkipOptional typedSkipPositionValue
  else if type = 11 then typedSkipOptional typedSkipUuidValue
  else if type = 13 then skipNbt true
  else reject .invalidPacketBody 0

/-- From 393 to 760. -/
def skipValue760 (type : Int) : DecodeM protocol Unit :=
  if type = 0 then mcReaderSkip 1
  else if type = 1 then skipVarint
  else if type = 2 then typedSkipFloats 1
  else if type = 3 ∨ type = 4 then typedSkipStringValue
  else if type = 5 then typedSkipOptional typedSkipStringValue
  else if type = 6 then skipItem validators protocol
  else if type = 7 then skipBool
  else if type = 8 then typedSkipFloats 3
  else if type = 9 then typedSkipPositionValue
  else if type = 10 then typedSkipOptional typedSkipPositionValue
  else if type = 11 ∨ type = 13 ∨ type = 17 ∨ type = 18 ∨ type = 19 ∨ type = 20 ∨ type = 22 then
    skipVarint
  else if type = 12 then typedSkipOptional typedSkipUuidValue
  else if type = 14 then skipNbt true
  else if type = 15 then typedSkipOldParticle validators protocol
  else if type = 16 ∧ 477 ≤ protocol then skipThreeNonnegative
  else if type = 21 ∧ 760 ≤ protocol then typedSkipOptional typedSkipStringValue
  else reject .invalidPacketBody 0

/-- 761, behind the values it shares with later releases. -/
def skipValue761 (type : Int) : DecodeM protocol Unit :=
  if type = 14 then skipNonnegative
  else if type = 15 then skipNbt true
  else if type = 16 then typedSkipOldParticle validators protocol
  else if type = 17 then skipThreeNonnegative
  else if type = 18 ∨ type = 19 ∨ type = 20 ∨ type = 21 ∨ type = 23 then skipVarint
  else if type = 22 then typedSkipOptional typedSkipStringValue
  else reject .invalidPacketBody 0

/-- From 762 on, behind the values shared with 761. -/
def skipValueLate (type : Int) : DecodeM protocol Unit :=
  if type = 12 ∨ type = 14 ∨ type = 15 then skipVarint
  else if type = 16 then
    if 773 ≤ protocol then typedSkipModernParticle validators protocol
    else skipNbt (decide (protocol < 764))
  else if type = 17 then
    if 773 ≤ protocol then skipParticles validators protocol
    else if 766 ≤ protocol then typedSkipModernParticle validators protocol
    else if protocol = 765 then skipNonnegative
    else typedSkipOldParticle validators protocol
  else if 766 ≤ protocol ∧ protocol < 773 ∧ type = 18 then skipParticles validators protocol
  else reject .invalidPacketBody 0

/-- From 761 on. -/
def skipValue (type : Int) : DecodeM protocol Unit :=
  if type = 0 then mcReaderSkip 1
  else if type = 1 then skipVarint
  else if type = 2 then do
    let _ ← mcReaderVarlong
  else if type = 3 then typedSkipFloats 1
  else if type = 4 then typedSkipStringValue
  else if type = 5 then
    if 765 ≤ protocol then typedSkipAnonymousNbtValue else typedSkipStringValue
  else if type = 6 then
    typedSkipOptional (if 765 ≤ protocol then typedSkipAnonymousNbtValue else typedSkipStringValue)
  else if type = 7 then skipItem validators protocol
  else if type = 8 then skipBool
  else if type = 9 then typedSkipFloats 3
  else if type = 10 then typedSkipPositionValue
  else if type = 11 then typedSkipOptional typedSkipPositionValue
  else if type = 13 then typedSkipOptional typedSkipUuidValue
  else if protocol = 761 then skipValue761 validators protocol type
  else skipValueLate validators protocol type

def typedSkipMetadataValue (type : Int) : DecodeM protocol Unit :=
  if protocol ≤ 47 then skipValue47 validators protocol type
  else if protocol < 393 then skipValue340 validators protocol type
  else if protocol < 761 then skipValue760 validators protocol type
  else skipValue validators protocol type

/-- Where the serializers behind the common ones stand in a release. -/
structure LateSerializers where
  shared : Int
  particles : Int
  villager : Int
  optionalGlobal : Int
  vector : Int

def lateSerializers : LateSerializers where
  shared := if 773 ≤ protocol then 17 else if 766 ≤ protocol then 18 else 17
  particles := if 773 ≤ protocol then 17 else if 766 ≤ protocol then 18 else -1
  villager := if 773 ≤ protocol then 18 else if 766 ≤ protocol then 19 else 18
  optionalGlobal := if 775 ≤ protocol then 33 else if 774 ≤ protocol then 29
    else if 773 ≤ protocol then 28 else if 766 ≤ protocol then 25 else 23
  vector := if 775 ≤ protocol then 39 else if 774 ≤ protocol then 35
    else if 773 ≤ protocol then 34 else if 766 ≤ protocol then 29 else 26

def typedSkipNamedMetadataValue (type : Int) : DecodeM protocol Unit :=
  let late := lateSerializers protocol
  let optionalUint := late.villager + 1
  let painting := late.optionalGlobal + 1
  if type ≤ late.shared then typedSkipMetadataValue validators protocol type
  else if type = late.particles then skipParticles validators protocol
  else if type = late.villager then skipThreeNonnegative
  else if type = optionalUint then skipNonnegative
  else if type = late.optionalGlobal then typedSkipOptional do
    typedSkipStringValue
    .when (773 ≤ protocol) typedSkipPositionValue
  else if type = painting then
    if 766 ≤ protocol then typedSkipRegistryHolderPainting else skipNonnegative
  else if type = late.vector then typedSkipFloats 3
  else if type = late.vector + 1 then typedSkipFloats 4
  else if 777 ≤ protocol ∧ type = 41 then validators.resolvableProfile protocol 0
  else if 777 ≤ protocol ∧ (type = 42 ∨ type = 43) then skipNonnegative
  else if optionalUint + 1 ≤ type ∧ type < late.vector then skipNonnegative
  else reject .invalidPacketBody 0

structure McEntityMetadataPacket where
  entityId : Int
  entryCount : Nat
  entries : List UInt8
  terminated : Bool
  deriving Repr, DecidableEq

/-- The byte behind the last entry. -/
def metadataTerminator : UInt8 := if protocol ≤ 47 then 0x7f else 0xff

/-- The serializer of an entry: up to 47 it is the top of the key. -/
def readSerializer (key : UInt8) : ReadM Int :=
  if protocol ≤ 47 then pure (key >>> 5).toNat
  else orReject .invalidPacketBody 0 do
    let type ← mcReaderVarint
    require (0 ≤ type)
    pure type

def skipMetadataValue (type : Int) : DecodeM protocol Unit :=
  if 762 ≤ protocol then typedSkipNamedMetadataValue validators protocol type
  else typedSkipMetadataValue validators protocol type

/-- The entries up to the terminator, at most `left` of them behind the first `count`. -/
def skipMetadataEntries : Nat → Nat → DecodeM protocol Nat
  | 0, count => do
      let key ← mcReaderU8
      if key = metadataTerminator protocol then pure count else reject .invalidPacketBody 0
  | left + 1, count => do
      let key ← mcReaderU8
      if key = metadataTerminator protocol then pure count
      else
        let type ← readSerializer protocol key
        skipMetadataValue validators protocol type
        skipMetadataEntries left (count + 1)

def typedDecodeMetadataEntries : DecodeM protocol (List UInt8 × Nat) := do
  let entriesStart ← mcReaderOffset
  let count ← skipMetadataEntries validators protocol mcMaxEntityMetadataEntries 0
  let entries ← readSince entriesStart
  pure (entries, count)

def typedDecodeMetadata : DecodeM protocol McEntityMetadataPacket := do
  let entityId ← readEntityId protocol
  .orInvalid do
    require (0 ≤ entityId)
    let (entries, count) ← typedDecodeMetadataEntries validators protocol
    pure ⟨entityId, count, entries, true⟩

end

end McProtocol
