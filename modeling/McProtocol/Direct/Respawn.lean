import McProtocol.Lockstep

/-! # Two decoders of one respawn

A respawn is read by `mc_reader_clientbound_respawn`, which fails the reader without a
code, and as a typed packet. The two were written apart: they are run side by side,
layout by layout.
-/

namespace McProtocol

structure McClientboundRespawn where
  legacyDimension : Int
  dimensionTypeId : Int
  dimensionIdentifier : List UInt8
  dimensionNbt : List UInt8
  worldName : List UInt8
  levelType : List UInt8
  lastDeathDimension : List UInt8
  lastDeathPosition : McPosition
  hashedSeed : Int
  portalCooldown : Int
  seaLevel : Int
  difficulty : UInt8
  gameMode : UInt8
  previousGameMode : Int
  keepDataMask : UInt8
  hasLegacyDimension : Bool
  hasDimensionTypeId : Bool
  hasDimensionIdentifier : Bool
  hasDimensionNbt : Bool
  hasWorldName : Bool
  hasLevelType : Bool
  hasHashedSeed : Bool
  hasDifficulty : Bool
  hasPreviousGameMode : Bool
  debug : Bool
  flat : Bool
  hasLastDeathLocation : Bool
  hasPortalCooldown : Bool
  hasSeaLevel : Bool
  deriving Repr, DecidableEq

/-- Nothing read yet. -/
def McClientboundRespawn.zero : McClientboundRespawn where
  legacyDimension := 0
  dimensionTypeId := 0
  dimensionIdentifier := []
  dimensionNbt := []
  worldName := []
  levelType := []
  lastDeathDimension := []
  lastDeathPosition := ⟨0, 0, 0⟩
  hashedSeed := 0
  portalCooldown := 0
  seaLevel := 0
  difficulty := 0
  gameMode := 0
  previousGameMode := 0
  keepDataMask := 0
  hasLegacyDimension := false
  hasDimensionTypeId := false
  hasDimensionIdentifier := false
  hasDimensionNbt := false
  hasWorldName := false
  hasLevelType := false
  hasHashedSeed := false
  hasDifficulty := false
  hasPreviousGameMode := false
  debug := false
  flat := false
  hasLastDeathLocation := false
  hasPortalCooldown := false
  hasSeaLevel := false

/-- A boolean that is 0 or 1 in both modes. -/
def mcReaderRespawnBool : ReadM Bool := do
  let encoded ← mcReaderU8
  require (encoded ≤ 1)
  pure (encoded != 0)

section
variable (protocol : Int)

/-- Two bits from 761 on; before, a flag stands for both. -/
def mcReaderRespawnKeepData : ReadM UInt8 := do
  let encoded ← mcReaderU8
  if 761 ≤ protocol then do
    require (encoded &&& ~~~3 = 0)
    pure encoded
  else do
    require (encoded ≤ 1)
    pure (if encoded ≠ 0 then 3 else 0)

/-- The dimension and the place of the last death. -/
def mcReaderRespawnLastDeath : DecodeM protocol (Option (List UInt8 × McPosition)) := do
  let present ← mcReaderRespawnBool
  if present = false then pure none
  else
    let dimension ← mcReaderString
    let position ← mcReaderPosition protocol
    pure (some (dimension, position))

structure RespawnIdentity where
  hashedSeed : Int
  gameMode : UInt8
  previousGameMode : Int
  debug : Bool
  flat : Bool

/-- Current and previous mode, which only 777 checks at once. -/
def readRespawnModes : DecodeM protocol (UInt8 × Int) :=
  if 777 ≤ protocol then mcReaderGameModes protocol
  else do
    let gameMode ← mcReaderU8
    let previousGameMode ← mcReaderI8
    pure (gameMode, previousGameMode)

def mcReaderRespawnIdentityTail : DecodeM protocol RespawnIdentity := do
  let hashedSeed ← mcReaderI64
  let (gameMode, previousGameMode) ← readRespawnModes protocol
  let debug ← mcReaderRespawnBool
  let flat ← mcReaderRespawnBool
  pure ⟨hashedSeed, gameMode, previousGameMode, debug, flat⟩

/-- The layouts up to 578. -/
def readLegacyRespawn : ReadM McClientboundRespawn := do
  let legacyDimension ← mcReaderI32
  let difficulty ← (if protocol ≤ 404 then mcReaderU8 else pure 0)
  let hashedSeed ← (if 498 < protocol then mcReaderI64 else pure 0)
  let gameMode ← mcReaderU8
  let levelType ← mcReaderString
  pure { McClientboundRespawn.zero with
    legacyDimension := legacyDimension
    hasLegacyDimension := true
    difficulty := difficulty
    hasDifficulty := decide (protocol ≤ 404)
    hashedSeed := hashedSeed
    hasHashedSeed := decide (498 < protocol)
    gameMode := gameMode
    levelType := levelType
    hasLevelType := true }

/-- The dimension: a name up to 736, an NBT document up to 758, a name up to 765, and
then a registry id. -/
def readDimension : ReadM McClientboundRespawn :=
  if protocol ≤ 736 ∨ (758 < protocol ∧ protocol ≤ 765) then do
    let dimensionIdentifier ← mcReaderString
    pure { McClientboundRespawn.zero with
      dimensionIdentifier := dimensionIdentifier, hasDimensionIdentifier := true }
  else if protocol ≤ 758 then do
    let dimensionNbt ← mcReaderNbt true
    pure { McClientboundRespawn.zero with dimensionNbt := dimensionNbt, hasDimensionNbt := true }
  else do
    let dimensionTypeId ← mcReaderVarint
    require (0 ≤ dimensionTypeId)
    pure { McClientboundRespawn.zero with
      dimensionTypeId := dimensionTypeId, hasDimensionTypeId := true }

/-- What is kept, where the player died, the cooldown and the sea level. -/
structure RespawnRest where
  keepDataMask : UInt8
  lastDeath : Option (List UInt8 × McPosition)
  portalCooldown : Int
  seaLevel : Int

def readNonnegativeVarint : ReadM Int := do
  let value ← mcReaderVarint
  require (0 ≤ value)
  pure value

/-- The flag comes last from 764 on, and is always a mask from 766 on. -/
def readRespawnRest : DecodeM protocol RespawnRest := do
  let early ← (if protocol ≤ 763 then mcReaderRespawnKeepData protocol else pure 0)
  let lastDeath ← (if 758 < protocol then mcReaderRespawnLastDeath protocol else pure none)
  let portalCooldown ← (if 763 ≤ protocol then readNonnegativeVarint else pure 0)
  let seaLevel ← (if 768 ≤ protocol then mcReaderVarint else pure 0)
  let late ← (if 764 ≤ protocol then mcReaderRespawnKeepData protocol else pure 0)
  pure ⟨if protocol ≤ 763 then early else late, lastDeath, portalCooldown, seaLevel⟩

/-- The layouts from 735 on. -/
def readWorldRespawn : DecodeM protocol McClientboundRespawn := do
  let dimension ← readDimension protocol
  let worldName ← mcReaderString
  let identity ← mcReaderRespawnIdentityTail protocol
  let rest ← readRespawnRest protocol
  pure { dimension with
    worldName := worldName
    hasWorldName := true
    hashedSeed := identity.hashedSeed
    hasHashedSeed := true
    gameMode := identity.gameMode
    previousGameMode := identity.previousGameMode
    hasPreviousGameMode := true
    debug := identity.debug
    flat := identity.flat
    keepDataMask := rest.keepDataMask
    lastDeathDimension := (rest.lastDeath.map (·.1)).getD []
    lastDeathPosition := (rest.lastDeath.map (·.2)).getD ⟨0, 0, 0⟩
    hasLastDeathLocation := rest.lastDeath.isSome
    portalCooldown := rest.portalCooldown
    hasPortalCooldown := decide (763 ≤ protocol)
    seaLevel := rest.seaLevel
    hasSeaLevel := decide (768 ≤ protocol) }

/-- Whatever goes wrong, the reader fails without a code of its own. -/
def mcReaderClientboundRespawn : DecodeM protocol McClientboundRespawn :=
  .orFailed do
    require (mcProtocolSupported protocol = true)
    let decoded ← (if protocol ≤ 578 then readLegacyRespawn protocol
      else readWorldRespawn protocol)
    require (decoded.gameMode ≤ 3 ∧ (decoded.hasPreviousGameMode = true →
      -1 ≤ decoded.previousGameMode ∧ decoded.previousGameMode ≤ 3))
    pure decoded

end

theorem alike_respawnBool : Alike mcReaderRespawnBool.run mcReaderBool.run Eq := by
  refine Alike.both fun encoded => ?_
  refine Alike.requireLeft fun _ => Alike.rejectStrictRight ?_
  exact Alike.pure rfl

variable {protocol : Int}

/-- A flag is set exactly when the mask it stands for has a bit. -/
theorem alike_keepFlag :
    Alike (mcReaderRespawnKeepData protocol).run readCopyMetadata.run
      fun mask copy => mask ≠ 0 ↔ copy ≠ 0 := by
  refine Alike.assocRight (Alike.both fun encoded => ?_)
  refine Alike.assocRight (Alike.rejectStrictRight ?_)
  beta_reduce
  by_cases masked : 761 ≤ protocol
  · rw [if_pos masked]
    refine Alike.requireLeft fun _ => Alike.pure ?_
    by_cases set : encoded = 0 <;> simp [set]
  · rw [if_neg masked]
    refine Alike.requireLeft fun _ => Alike.pure ?_
    by_cases set : encoded = 0 <;> simp [set]

theorem alike_keepMask (masked : 761 ≤ protocol) :
    Alike (mcReaderRespawnKeepData protocol).run readCopyMask.run
      fun mask copy => mask ≠ 0 ↔ copy ≠ 0 := by
  refine Alike.rescueRight (Alike.both fun encoded => ?_)
  beta_reduce
  rw [if_pos masked]
  refine Alike.requireLeft fun _ => Alike.requireStrictRight (Alike.pure ?_)
  rw [ne_eq, ne_eq, ← UInt8.toNat_inj]
  rfl

theorem alike_cooldown : Alike readNonnegativeVarint.run readPortalCooldown.run Eq := by
  refine Alike.rescueRight (Alike.both fun value => ?_)
  refine Alike.requireLeft fun _ => Alike.requireRight fun _ => ?_
  exact Alike.pure rfl

/-- Whether there is a last death is read alike, and so is where it was. -/
theorem alike_lastDeath :
    Alike (mcReaderRespawnLastDeath protocol).run (typedReadDeathLocation protocol).run
      fun _ _ => True := by
  refine Alike.bind alike_respawnBool fun present _ same => ?_
  subst same
  cases present with
  | false => exact Alike.pure trivial
  | true =>
      refine Alike.offsetRight fun start => ?_
      refine Alike.goOnRight (show Alike _ _ fun _ _ => True from ?_) fun _ _ _ =>
        Alike.sinceRight fun _ => Alike.pure trivial
      refine Alike.rescueRight ?_
      refine Alike.bind (alike_nonempty mcDefaultMaxStringBytes 32767) fun _ _ _ => ?_
      refine Alike.bind (Alike.same (mcReaderPosition protocol)) fun _ _ _ => ?_
      exact Alike.pure trivial

theorem alike_dimension (supported : mcProtocolSupported protocol = true) :
    Alike (readDimension protocol).run (readRespawnDimension protocol).run fun _ _ => True := by
  have gap : protocol ≤ 736 ∨ 751 ≤ protocol := of_supported (P := fun p => p ≤ 736 ∨ 751 ≤ p) (by decide) supported
  unfold readDimension readRespawnDimension
  by_cases registry : 766 ≤ protocol
  · rw [if_neg (by omega), if_neg (by omega), if_pos registry]
    refine Alike.rescueRight (Alike.both fun value => ?_)
    refine Alike.requireLeft fun _ => Alike.requireRight fun _ => ?_
    exact Alike.pure trivial
  · by_cases named : protocol ≤ 736 ∨ 758 < protocol
    · rw [if_pos (by omega), if_neg registry, if_pos (by omega)]
      refine Alike.rescueRight ?_
      refine Alike.bind (alike_nonempty mcDefaultMaxStringBytes 32767) fun _ _ _ => ?_
      exact Alike.pure trivial
    · rw [if_neg (by omega), if_pos (by omega), if_neg registry, if_neg (by omega)]
      refine Alike.both fun _ => ?_
      exact Alike.pure trivial

/-- The flag stands in front of the last death, or behind it all. -/
theorem alike_rest :
    Alike (readRespawnRest protocol).run (readRespawnTail protocol).run fun rest tail =>
      (rest.keepDataMask ≠ 0 ↔ tail.copy ≠ 0) ∧ rest.portalCooldown = tail.portalCooldown ∧
        rest.seaLevel = tail.seaLevel := by
  unfold readRespawnRest readRespawnTail
  by_cases early : protocol ≤ 763
  · by_cases buried : protocol < 759
    · rw [if_pos early, if_neg (by omega), if_neg (by omega), if_neg (by omega),
        if_neg (by omega), if_pos buried]
      refine Alike.bind alike_keepFlag fun mask copy same => ?_
      exact Alike.pure ⟨by rw [if_pos early]; exact same, rfl, rfl⟩
    · rw [if_pos early, if_pos (by omega), if_neg (show ¬ 768 ≤ protocol by omega),
        if_neg (show ¬ 764 ≤ protocol by omega), if_neg buried, if_pos early]
      refine Alike.bind alike_keepFlag fun mask copy same => ?_
      refine Alike.bind alike_lastDeath fun _ _ _ => ?_
      by_cases cooldown : protocol = 763
      · rw [if_pos (by omega), if_pos cooldown]
        refine Alike.bind alike_cooldown fun value _ cool => ?_
        exact Alike.pure ⟨by rw [if_pos early]; exact same, cool, rfl⟩
      · rw [if_neg (by omega), if_neg cooldown]
        exact Alike.pure ⟨by rw [if_pos early]; exact same, rfl, rfl⟩
  · rw [if_neg early, if_pos (show 758 < protocol by omega), if_pos (show 763 ≤ protocol by omega),
      if_pos (show 764 ≤ protocol by omega), if_neg (show ¬ protocol < 759 by omega), if_neg early]
    refine Alike.bind (p := (mcReaderRespawnLastDeath protocol).run) alike_lastDeath fun _ _ _ => ?_
    refine Alike.bind alike_cooldown fun value _ cool => ?_
    by_cases level : 768 ≤ protocol
    · rw [if_pos level, if_pos (show 766 ≤ protocol by omega)]
      refine Alike.both fun seaLevel => ?_
      refine Alike.bind (alike_keepMask (by omega)) fun mask copy same => ?_
      exact Alike.pure ⟨by rw [if_neg early]; exact same, cool, rfl⟩
    · rw [if_neg level]
      by_cases masked : 766 ≤ protocol
      · rw [if_pos masked]
        have mask761 : 761 ≤ protocol := by omega
        refine Alike.bind (p := (mcReaderRespawnKeepData protocol).run) (q := readCopyMask.run)
          (alike_keepMask mask761) fun mask copy same => ?_
        exact Alike.pure ⟨by rw [if_neg early]; exact same, cool, rfl⟩
      · rw [if_neg masked]
        refine Alike.bind (p := (mcReaderRespawnKeepData protocol).run) (q := readCopyMetadata.run)
          alike_keepFlag fun mask copy same => ?_
        exact Alike.pure ⟨by rw [if_neg early]; exact same, cool, rfl⟩

/-- A previous mode as the typed packet reports it. -/
def previousGameMode (previous : UInt8) : Int := if previous = 0xff then -1 else previous.toNat

/-- A VarInt that starts with `0xff` is not a mode. -/
theorem IsVarint.not_mode {mode : McDecodeMode} {value : Int} {tail : List UInt8}
    (isVarint : IsVarint mode value (0xff :: tail)) : value < 0 ∨ 4 < value := by
  have bound := isVarint.bound
  have signed := isVarint.signed
  have split : Base128.value (0xff :: tail) = 127 + 128 * Base128.value tail := rfl
  rw [split] at bound signed
  unfold toSigned at signed
  split_ifs at signed <;> omega

section modes
variable {reader other after middle last : McReader} {gameMode first previous : UInt8} {prior : Int}

/-- What one of the two reads a byte from is in front of the other. -/
theorem byte_together (lockstep : reader.Lockstep other)
    (right : mcReaderU8.run other = (some first, middle)) :
    ∃ rest, reader.Before (first :: rest) ∧ (reader.advance 1).Lockstep middle := by
  have before : other.Before (reader.data.drop reader.offset) :=
    ⟨lockstep.permits.right_clean, lockstep.right_sound.offset_le,
      by rw [lockstep.data_eq, lockstep.permits.offset_eq]⟩
  obtain ⟨bytes, rest, split, single, -⟩ := accepts_u8.sound rfl before right
  have ahead : reader.Before (first :: rest) :=
    ⟨lockstep.permits.left_clean, lockstep.left_sound.offset_le, by rw [split, single]; rfl⟩
  obtain ⟨-, moved⟩ :=
    Alike.reader mcReaderU8 _ _ _ _ _ _ lockstep (mcReaderU8_before ahead) right
  exact ⟨rest, ahead, moved⟩

/-- A VarInt that starts with a byte below `0x80` is that byte. -/
theorem varint_together {value : Int} (lockstep : reader.Lockstep other) (low : first.toNat < 128)
    (left : mcReaderVarint.run reader = (some value, after))
    (right : mcReaderU8.run other = (some first, middle)) :
    value = first.toNat ∧ after.Lockstep middle := by
  obtain ⟨rest, before, moved⟩ := byte_together lockstep right
  rw [mcReaderVarint_byte low before] at left
  cases left
  exact ⟨rfl, moved⟩

theorem varint_not_mode {value : Int} (lockstep : reader.Lockstep other)
    (left : mcReaderVarint.run reader = (some value, after))
    (right : mcReaderU8.run other = (some 0xff, middle)) : value < 0 ∨ 4 < value := by
  obtain ⟨rest, before, -⟩ := byte_together lockstep right
  obtain ⟨code, tail, split, isVarint, -⟩ := accepts_varint.sound rfl before left
  cases isVarint.isCode with
  | last small => cases split; simp at small
  | more _ _ => cases split; exact isVarint.not_mode

/-- Where the two bytes are modes, both sides read two bytes; from 777 on one of them takes
the second for a mode that counts from one. -/
theorem readRespawnModes_together (lockstep : reader.Lockstep other)
    (left : (readRespawnModes protocol).run reader = (some (gameMode, prior), after))
    (right : mcReaderU8.run other = (some first, middle))
    (right' : mcReaderU8.run middle = (some previous, last))
    (low : first.toNat < 128) (mode : previous = 0xff ∨ previous.toNat ≤ 3) :
    after.Lockstep last ∧ gameMode = first ∧
      prior = previousGameMode previous - (if 777 ≤ protocol then 1 else 0) := by
  unfold readRespawnModes at left
  by_cases counted : 777 ≤ protocol
  · rw [if_pos counted]
    unfold mcReaderGameModes at left
    rw [if_pos counted, if_pos counted] at left
    obtain ⟨current, between, ran, left⟩ := Prog.bind_eq_some (Prog.rescue_eq_some left)
    obtain ⟨encoded, final, ran', left⟩ := Prog.bind_eq_some left
    obtain ⟨_, checked, passed, returned⟩ := Prog.bind_eq_some left
    obtain ⟨range, unmoved⟩ := require_eq_some passed
    subst unmoved
    cases returned
    obtain ⟨rfl, lockstep⟩ := varint_together lockstep low ran right
    obtain rfl | small := mode
    · obtain negative | large := varint_not_mode lockstep ran' right' <;> omega
    · obtain ⟨rfl, lockstep⟩ := varint_together lockstep (by omega) ran' right'
      refine ⟨lockstep, toByte_toNat first, ?_⟩
      rw [previousGameMode, if_neg (by rintro rfl; simp at small)]
  · rw [if_neg counted] at left
    obtain ⟨byte, between, ran, left⟩ := Prog.bind_eq_some left
    obtain ⟨signed, final, ran', returned⟩ := Prog.bind_eq_some left
    cases returned
    obtain ⟨rfl, lockstep⟩ := Alike.reader mcReaderU8 _ _ _ _ _ _ lockstep ran right
    obtain ⟨byte', _, ran', returned⟩ := Prog.bind_eq_some ran'
    cases returned
    obtain ⟨rfl, lockstep⟩ := Alike.reader mcReaderU8 _ _ _ _ _ _ lockstep ran' right'
    refine ⟨lockstep, rfl, ?_⟩
    rw [if_neg counted, sub_zero, previousGameMode]
    obtain rfl | small := mode
    · rfl
    · rw [if_neg (by rintro rfl; simp at small), toSigned, if_pos (by omega)]

end modes

/-- A field that is there. -/
def carried {α : Type} (has : Bool) (value : α) : Option α := if has then some value else none

/-- The fields both results carry are the same. -/
structure RespawnsAgree (read : McClientboundRespawn) (typed : McRespawnPacket) : Prop where
  hashedSeed : carried read.hasHashedSeed read.hashedSeed =
    carried typed.hasHashedSeed typed.hashedSeed
  worldName : carried read.hasWorldName read.worldName = carried typed.hasWorldName typed.worldName
  gameMode : (read.gameMode.toNat : Int) = typed.gameMode
  previousGameMode : carried read.hasPreviousGameMode read.previousGameMode =
    carried typed.hasPreviousGameMode typed.previousGameMode
  portalCooldown : carried read.hasPortalCooldown read.portalCooldown =
    carried typed.hasPortalCooldown typed.portalCooldown
  seaLevel : carried read.hasSeaLevel read.seaLevel = carried typed.hasSeaLevel typed.seaLevel
  keptData : read.keepDataMask ≠ 0 ↔ typed.rawFlags >>> 8 ≠ 0

theorem alike_legacy (supported : mcProtocolSupported protocol = true) :
    Alike (readLegacyRespawn protocol).run (readOldRespawn protocol).run RespawnsAgree := by
  have seeded : 498 < protocol ↔ 573 ≤ protocol :=
    of_supported (P := fun p => 498 < p ↔ 573 ≤ p) (by decide) supported
  refine Alike.both fun dimension => ?_
  refine Alike.bind (?difficulty : Alike _ _ fun _ (level : UInt8) => level.toNat ≤ 3)
    fun _ level small => ?_
  case difficulty =>
    by_cases there : protocol ≤ 404
    · rw [if_pos there, if_pos there]
      refine Alike.rescueRight (Alike.goOnRight (Alike.reader mcReaderU8) fun _ level _ => ?_)
      exact Alike.requireRight fun small => Alike.pure small
    · rw [if_neg there, if_neg there]
      exact Alike.pure (by decide)
  refine Alike.bind (?seed : Alike _ _ (Eq : Int → Int → Prop)) fun seed _ same => ?_
  case seed =>
    by_cases there : 573 ≤ protocol
    · rw [if_pos (seeded.mpr there), if_pos there]
      exact Alike.reader mcReaderI64
    · rw [if_neg (seeded.not.mpr there), if_neg there]
      exact Alike.pure rfl
  subst same
  refine Alike.rescueBindRight (Alike.assocRight ?_)
  refine Alike.both fun gameMode => Alike.assocRight ?_
  refine Alike.bind (alike_nonempty mcDefaultMaxStringBytes 64) fun _ _ _ => ?_
  refine Alike.pure
    { hashedSeed := ?_
      worldName := rfl
      gameMode := rfl
      previousGameMode := rfl
      portalCooldown := rfl
      seaLevel := rfl
      keptData := ?_ }
  · simp only [seeded]
  · have shifted : level.toNat >>> 8 = 0 := by
      rw [Nat.shiftRight_eq_div_pow, Nat.div_eq_of_lt (by omega)]
    simp only [shifted, McClientboundRespawn.zero, ne_eq, not_true_eq_false]

/-- The typed packet with the previous mode that 777 means. -/
def McRespawnPacket.recounted (typed : McRespawnPacket) (protocol : Int) : McRespawnPacket :=
  { typed with
    previousGameMode := typed.previousGameMode - (if 777 ≤ protocol then 1 else 0) }

/-- What the typed decoder checks in the end. -/
def McRespawnPacket.Plausible (typed : McRespawnPacket) : Prop :=
  typed.gameMode.toNat &&& 0xf4 = 0 ∧ -1 ≤ typed.previousGameMode ∧ typed.previousGameMode ≤ 3

/-- What is copied stands above the two flags. -/
theorem copied_bits (debug flat : Bool) (copy : Nat) :
    ((if debug then 1 else 0) ||| (if flat then 2 else 0) ||| copy <<< 8) >>> 8 = copy := by
  rw [Nat.shiftRight_or_distrib, Nat.shiftRight_or_distrib, Nat.shiftLeft_shiftRight]
  cases debug <;> cases flat <;> simp

theorem plausible_mode {first : UInt8} (low : first.toNat &&& 0xf4 = 0) : first.toNat < 128 := by
  have all : ∀ i : Fin 256, i.val &&& 0xf4 = 0 → i.val < 128 := by decide +kernel
  exact all ⟨first.toNat, first.toNat_lt⟩ low

theorem world_together {reader other after last : McReader} {read : McClientboundRespawn}
    {typed : McRespawnPacket} (supported : mcProtocolSupported protocol = true)
    (lockstep : reader.Lockstep other)
    (left : (readWorldRespawn protocol).run reader = (some read, after))
    (right : (readModernRespawn protocol).run other = (some typed, last))
    (counted : typed.Plausible) : RespawnsAgree read (typed.recounted protocol) := by
  obtain ⟨dimension, reader1, leftDimension, left⟩ := Prog.bind_eq_some left
  obtain ⟨worldName, reader2, leftWorld, left⟩ := Prog.bind_eq_some left
  obtain ⟨identity, reader3, leftIdentity, left⟩ := Prog.bind_eq_some left
  obtain ⟨rest, reader4, leftRest, left⟩ := Prog.bind_eq_some left
  cases left
  obtain ⟨hashedSeed, reader5, leftSeed, leftIdentity⟩ := Prog.bind_eq_some leftIdentity
  obtain ⟨⟨gameMode, prior⟩, reader6, leftModes, leftIdentity⟩ := Prog.bind_eq_some leftIdentity
  obtain ⟨debug, reader7, leftDebug, leftIdentity⟩ := Prog.bind_eq_some leftIdentity
  obtain ⟨flat, reader8, leftFlat, leftIdentity⟩ := Prog.bind_eq_some leftIdentity
  cases leftIdentity
  obtain ⟨⟨id, name⟩, other1, rightDimension, right⟩ := Prog.bind_eq_some right
  obtain ⟨⟨world, seed, first, previous⟩, other2, rightWorld, right⟩ := Prog.bind_eq_some right
  obtain ⟨debug', other3, rightDebug, right⟩ := Prog.bind_eq_some right
  obtain ⟨flat', other4, rightFlat, right⟩ := Prog.bind_eq_some right
  obtain ⟨tail, other5, rightTail, right⟩ := Prog.bind_eq_some right
  cases right
  obtain ⟨world', other6, rightName, rightWorld⟩ :=
    Prog.bind_eq_some (Prog.rescue_eq_some rightWorld)
  obtain ⟨seed', other7, rightSeed, rightWorld⟩ := Prog.bind_eq_some rightWorld
  obtain ⟨first', other8, rightFirst, rightWorld⟩ := Prog.bind_eq_some rightWorld
  obtain ⟨previous', other9, rightPrevious, rightWorld⟩ := Prog.bind_eq_some rightWorld
  cases rightWorld
  -- both sides move together, piece by piece
  obtain ⟨-, lockstep⟩ :=
    alike_dimension supported _ _ _ _ _ _ lockstep leftDimension rightDimension
  obtain ⟨rfl, lockstep⟩ := alike_nonempty _ _ _ _ _ _ _ _ lockstep leftWorld rightName
  obtain ⟨rfl, lockstep⟩ := Alike.reader mcReaderI64 _ _ _ _ _ _ lockstep leftSeed rightSeed
  obtain ⟨low, mode⟩ := counted
  have low : first.toNat < 128 := plausible_mode low
  have mode : previous = 0xff ∨ previous.toNat ≤ 3 := by
    by_cases absent : previous = 0xff
    · exact .inl absent
    · simp only [if_neg absent] at mode
      omega
  obtain ⟨lockstep, rfl, rfl⟩ :=
    readRespawnModes_together lockstep leftModes rightFirst rightPrevious low mode
  obtain ⟨rfl, lockstep⟩ := alike_respawnBool _ _ _ _ _ _ lockstep leftDebug rightDebug
  obtain ⟨rfl, lockstep⟩ := alike_respawnBool _ _ _ _ _ _ lockstep leftFlat rightFlat
  obtain ⟨⟨kept, cooldown, level⟩, -⟩ := alike_rest _ _ _ _ _ _ lockstep leftRest rightTail
  exact
    { hashedSeed := rfl
      worldName := rfl
      gameMode := rfl
      previousGameMode := rfl
      portalCooldown := by
        simp only [McRespawnPacket.recounted, cooldown]
      seaLevel := by
        simp only [McRespawnPacket.recounted, level]
      keptData := by
        simp only [McRespawnPacket.recounted, copied_bits]
        exact kept }

/-- What both decoders accept they agree on, once the previous mode is counted alike. -/
theorem respawn_together {reader other after last : McReader} {read : McClientboundRespawn}
    {typed : McRespawnPacket} (lockstep : reader.Lockstep other)
    (left : (mcReaderClientboundRespawn protocol).run reader = (some read, after))
    (right : (typedDecodeRespawn protocol).run other = (some typed, last)) :
    RespawnsAgree read (typed.recounted protocol) := by
  obtain ⟨_, started, passed, leftRun⟩ := Prog.bind_eq_some (Prog.rescue_eq_some left)
  obtain ⟨supported, unmoved⟩ := require_eq_some passed
  subst unmoved
  obtain ⟨decoded, middle, leftBody, leftRun⟩ := Prog.bind_eq_some leftRun
  obtain ⟨_, checked, passed, leftRun⟩ := Prog.bind_eq_some leftRun
  cases leftRun
  obtain ⟨decoded', middle', rightBody, rightRun⟩ := Prog.bind_eq_some right
  obtain ⟨_, checked', counted, rightRun⟩ := Prog.bind_eq_some rightRun
  cases rightRun
  have gap : protocol ≤ 578 ↔ protocol < 735 :=
    of_supported (P := fun p => p ≤ 578 ↔ p < 735) (by decide) supported
  by_cases legacy : protocol ≤ 578
  · rw [if_pos legacy] at leftBody
    rw [if_pos (gap.mp legacy)] at rightBody
    obtain ⟨agree, -⟩ := alike_legacy supported _ _ _ _ _ _ lockstep leftBody rightBody
    have same : typed.recounted protocol = typed := by
      simp only [McRespawnPacket.recounted, if_neg (show ¬ 777 ≤ protocol by omega), sub_zero]
    rwa [same]
  · rw [if_neg legacy] at leftBody
    rw [if_neg (gap.not.mp legacy)] at rightBody
    exact world_together supported lockstep leftBody rightBody (typedRequire_eq_some counted)

theorem respawn_supported {reader after : McReader} {read : McClientboundRespawn}
    (run : (mcReaderClientboundRespawn protocol).run reader = (some read, after)) :
    mcProtocolSupported protocol = true := by
  obtain ⟨_, _, passed, _⟩ := Prog.bind_eq_some (Prog.rescue_eq_some run)
  exact (require_eq_some passed).1

theorem recounted_of_ne {typed : McRespawnPacket} (supported : mcProtocolSupported protocol = true)
    (other : protocol ≠ 777) : typed.recounted protocol = typed := by
  have last : protocol ≤ 777 := of_supported (P := (· ≤ 777)) (by decide) supported
  simp only [McRespawnPacket.recounted, if_neg (show ¬ 777 ≤ protocol by omega), sub_zero]

theorem typedDecodeRespawn_has_previous {reader after : McReader} {typed : McRespawnPacket}
    (run : (typedDecodeRespawn 777).run reader = (some typed, after)) :
    typed.hasPreviousGameMode = true := by
  obtain ⟨decoded, middle, body, rest⟩ := Prog.bind_eq_some run
  obtain ⟨_, _, _, rest⟩ := Prog.bind_eq_some rest
  cases rest
  obtain ⟨_, _, _, body⟩ := Prog.bind_eq_some body
  obtain ⟨_, _, _, body⟩ := Prog.bind_eq_some body
  obtain ⟨_, _, _, body⟩ := Prog.bind_eq_some body
  obtain ⟨_, _, _, body⟩ := Prog.bind_eq_some body
  obtain ⟨_, _, _, body⟩ := Prog.bind_eq_some body
  cases body
  rfl

/-- A payload that both decoders accept is the same respawn to both, except in 777, where the
typed packet counts the previous mode from one. -/
theorem respawn_decoders_agree_iff (library : PacketLibrary) (arguments : McDecodeArguments)
    (mode : McDecodeMode) (error readerError : Option McError) (read : McClientboundRespawn)
    (typed : McRespawnPacket) (moded : arguments.decodeMode = some mode)
    (readAccepts : (readWhole (mcReaderClientboundRespawn arguments.protocol)
      arguments.payload.content mode readerError).1 = some read)
    (family : (mcDecodePacket library arguments error).family = some .respawn)
    (typedAccepts : (mcDecodePacket library arguments error).packet = some (.respawn typed)) :
    RespawnsAgree read typed ↔ arguments.protocol ≠ 777 := by
  obtain ⟨after, left, -⟩ := readWhole_eq_some.mp readAccepts
  obtain ⟨_, _, last, right, -⟩ := mcDecodePacket_family_body family typedAccepts
  obtain ⟨_, same, right⟩ := Program.map_eq_some right
  cases same
  have together := respawn_together (lockstep_start moded) left right
  constructor
  · rintro agree newest
    have counted := together.previousGameMode.symm.trans agree.previousGameMode
    rw [newest] at right
    rw [newest] at counted
    simp only [McRespawnPacket.recounted, le_refl, if_true,
      typedDecodeRespawn_has_previous right, carried, Option.some.injEq] at counted
    omega
  · intro older
    rwa [recounted_of_ne (respawn_supported left) older] at together

/-- A respawn in the world `w`, with nothing set. -/
def plainRespawn : List UInt8 := [0, 1, 119] ++ List.replicate 8 0 ++ List.replicate 8 0

def plainRespawnRead : McClientboundRespawn :=
  { McClientboundRespawn.zero with
    worldName := [119]
    previousGameMode := -1
    hasDimensionTypeId := true
    hasWorldName := true
    hasHashedSeed := true
    hasPreviousGameMode := true
    hasPortalCooldown := true
    hasSeaLevel := true }

def plainRespawnTyped : McRespawnPacket where
  dimensionId := 0
  dimension := []
  worldName := [119]
  hashedSeed := 0
  gameMode := 0
  previousGameMode := 0
  portalCooldown := 0
  seaLevel := 0
  rawFlags := 0
  deathLocation := []
  hasDimensionId := true
  hasDimensionData := false
  hasWorldName := true
  hasHashedSeed := true
  hasPreviousGameMode := true
  hasDeathLocation := false
  hasPortalCooldown := true
  hasSeaLevel := true

/-- In 777 the one reads that there was no mode before, the other that it was survival. -/
theorem respawn_decoders_differ :
    (readWhole (mcReaderClientboundRespawn 777) plainRespawn .strict none).1 =
        some plainRespawnRead ∧
      (mcDecodePacket (plainLibrary ["respawn"] 96 (by decide))
        (playArguments 777 1 0 1 plainRespawn 96) none).family = some .respawn ∧
      (mcDecodePacket (plainLibrary ["respawn"] 96 (by decide))
        (playArguments 777 1 0 1 plainRespawn 96) none).packet =
          some (.respawn plainRespawnTyped) ∧
      ¬ RespawnsAgree plainRespawnRead plainRespawnTyped :=
  ⟨by decide +kernel, by decide +kernel, by decide +kernel,
    fun agree => absurd agree.previousGameMode (by decide)⟩

theorem respawn_decoders_agree_776 :
    RespawnsAgree { plainRespawnRead with previousGameMode := 0 } plainRespawnTyped :=
  (respawn_decoders_agree_iff (plainLibrary ["respawn"] 96 (by decide))
    (playArguments 776 1 0 1 plainRespawn 96) .strict none none
    { plainRespawnRead with previousGameMode := 0 } plainRespawnTyped rfl
    (by decide +kernel) (by decide +kernel) (by decide +kernel)).mpr (by decide)

end McProtocol
