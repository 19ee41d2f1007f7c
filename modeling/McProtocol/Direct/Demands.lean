import McProtocol.Lib.Foresight
import McProtocol.Direct.ReaderCalls

/-! # What is refused without a word

A few readers refuse a value without saying so: they only set the flag, or not even that. What they
demand of the fields in front of them is listed here for each. Where it is met, whatever is refused
is refused with a code, and where it is not, something is refused without one.
-/

namespace McProtocol

open Prog (Foresees Foretells Lands)

section demands

variable (protocol : Int)

def demandNonnegative : Ahead McReader Unit := do
  let value ← .field mcReaderVarint.run
  .demand (0 ≤ value)

/-- As `mcReaderJoinNonnegativeVarint`. -/
def demandCount : Ahead McReader Unit := do
  let value ← .field mcReaderVarint.run
  .demand (0 ≤ value ∧ value ≤ mcMaxPacketArrayCount)

def demandNonempty (maxSize : Nat) : Ahead McReader Unit := do
  let text ← .field (mcReaderStringBounded maxSize).run
  .demand (text ≠ [])

def demandGameMode (embeddedHardcore : Bool) : Ahead McReader UInt8 := do
  let encoded ← .field mcReaderU8.run
  let normalized := if embeddedHardcore then encoded &&& 0x07 else encoded
  .demand (normalized ≤ 3 ∧ ¬ (embeddedHardcore = true ∧ encoded &&& 0xf0 ≠ 0))
  pure normalized

def demandGameModes : Ahead McReader (UInt8 × Int) :=
  if 777 ≤ protocol then do
    let current ← .field mcReaderVarint.run
    let prior ← .field mcReaderVarint.run
    .demand (0 ≤ current ∧ current ≤ 3 ∧ 0 ≤ prior ∧ prior ≤ 4)
    pure (toByte current, prior - 1)
  else do
    let gameMode ← demandGameMode false
    let previous ← .field mcReaderI8.run
    .demand (-1 ≤ previous ∧ previous ≤ 3)
    pure (gameMode, previous)

def demandWorldCount : Ahead McReader Int := do
  let count ← .field mcReaderVarint.run
  .demand (0 ≤ count ∧ count ≤ 16)
  pure count

def demandWorlds : Ahead McReader Unit := do
  let count ← demandWorldCount
  .times (demandNonempty 32767) count.toNat

def demandDeathLocation : Ahead McReader Unit := do
  let present ← .field mcReaderBool.run
  if present = false then pure ()
  else
    demandNonempty 32767
    .skip (mcReaderPosition protocol).run

def demandDifficulty : Ahead McReader Unit := do
  let difficulty ← .field mcReaderU8.run
  .demand (difficulty ≤ 3)

def demandLevelType : Ahead McReader Unit := do
  .skip mcReaderU8.run
  demandNonempty 64

/-- The layout before 735. -/
def demandOldJoinGame : Ahead McReader Unit := do
  let _ ← demandGameMode (decide (protocol ≤ 5))
  (if protocol ≤ 47 ∨ protocol = 107 then .skip mcReaderI8.run else .skip mcReaderI32.run)
  (if protocol ≤ 404 then demandDifficulty else pure ())
  (if 573 ≤ protocol then .skip mcReaderI64.run else pure ())
  demandLevelType
  (if 477 ≤ protocol then demandCount else pure ())

def demandJoinMode : Ahead McReader Unit :=
  if 751 ≤ protocol then do
    .skip mcReaderBool.run
    let _ ← demandGameMode false
    pure ()
  else do
    let _ ← demandGameMode true
    pure ()

def demandRegistryCodec : Ahead McReader Unit := do
  let previousGameMode ← .field mcReaderI8.run
  .demand (-1 ≤ previousGameMode ∧ previousGameMode ≤ 3)
  demandWorlds
  .skip (mcReaderNbt true).run

def demandJoinRegistries : Ahead McReader Unit := do
  demandRegistryCodec
  (if decide (736 < protocol ∧ protocol < 759) then .skip (mcReaderNbt true).run
    else demandNonempty 32767)

def demandJoinName : Ahead McReader Unit := do
  demandNonempty 32767
  .skip mcReaderI64.run

def demandJoinLimits : Ahead McReader Unit := do
  (if protocol ≤ 736 then .skip mcReaderU8.run else demandCount)
  demandCount
  (if 757 ≤ protocol then demandCount else pure ())
  .skip mcReaderBool.run
  .skip mcReaderBool.run
  .skip mcReaderBool.run
  .skip mcReaderBool.run

/-- The layout from 735 to 763. -/
def demandMiddleJoinGame : Ahead McReader Unit := do
  demandJoinMode protocol
  demandJoinRegistries protocol
  demandJoinName
  demandJoinLimits protocol
  (if 759 ≤ protocol then demandDeathLocation protocol else pure ())
  (if protocol = 763 then demandCount else pure ())

def demandJoinSettings : Ahead McReader Unit := do
  .skip mcReaderBool.run
  demandWorlds
  demandCount
  demandCount
  demandCount
  .skip mcReaderBool.run
  .skip mcReaderBool.run
  .skip mcReaderBool.run

def demandJoinWorld : Ahead McReader Unit := do
  demandNonempty 32767
  .skip mcReaderI64.run
  let _ ← demandGameModes protocol
  .skip mcReaderBool.run
  .skip mcReaderBool.run
  demandDeathLocation protocol
  demandCount

/-- The layout from 764 on. -/
def demandModernJoinGame : Ahead McReader Unit := do
  demandJoinSettings
  (if 766 ≤ protocol then demandCount else demandNonempty 32767)
  demandJoinWorld protocol

def demandJoinGame : Ahead McReader Unit := do
  .demand (¬ mcProtocolSupported protocol = false)
  .skip mcReaderI32.run
  (if protocol < 735 then demandOldJoinGame protocol
    else if 764 ≤ protocol then demandModernJoinGame protocol
    else demandMiddleJoinGame protocol)

/-- As `mcReaderRespawnBool`. -/
def demandFlag : Ahead McReader Bool := do
  let encoded ← .field mcReaderU8.run
  .demand (encoded ≤ 1)
  pure (encoded != 0)

def demandKeepData : Ahead McReader Unit := do
  let encoded ← .field mcReaderU8.run
  (if 761 ≤ protocol then .demand (encoded &&& ~~~3 = 0) else .demand (encoded ≤ 1))

def demandLastDeath : Ahead McReader Unit := do
  let present ← demandFlag
  if present = false then pure ()
  else
    .skip mcReaderString.run
    .skip (mcReaderPosition protocol).run

def demandRespawnModes : Ahead McReader (UInt8 × Int) :=
  if 777 ≤ protocol then demandGameModes protocol
  else do
    let gameMode ← .field mcReaderU8.run
    let previousGameMode ← .field mcReaderI8.run
    pure (gameMode, previousGameMode)

def demandRespawnIdentity : Ahead McReader (UInt8 × Int) := do
  .skip mcReaderI64.run
  let modes ← demandRespawnModes protocol
  let _ ← demandFlag
  let _ ← demandFlag
  pure modes

def demandDimension : Ahead McReader Unit :=
  if protocol ≤ 736 ∨ (758 < protocol ∧ protocol ≤ 765) then .skip mcReaderString.run
  else if protocol ≤ 758 then .skip (mcReaderNbt true).run
  else demandNonnegative

def demandRespawnRest : Ahead McReader Unit := do
  (if protocol ≤ 763 then demandKeepData protocol else pure ())
  (if 758 < protocol then demandLastDeath protocol else pure ())
  (if 763 ≤ protocol then demandNonnegative else pure ())
  (if 768 ≤ protocol then .skip mcReaderVarint.run else pure ())
  (if 764 ≤ protocol then demandKeepData protocol else pure ())

/-- The layouts up to 578: the mode, and that there is no previous one. -/
def demandLegacyRespawn : Ahead McReader (UInt8 × Bool × Int) := do
  .skip mcReaderI32.run
  (if protocol ≤ 404 then .skip mcReaderU8.run else pure ())
  (if 498 < protocol then .skip mcReaderI64.run else pure ())
  let gameMode ← .field mcReaderU8.run
  .skip mcReaderString.run
  pure (gameMode, false, 0)

def demandWorldRespawn : Ahead McReader (UInt8 × Bool × Int) := do
  demandDimension protocol
  .skip mcReaderString.run
  let modes ← demandRespawnIdentity protocol
  demandRespawnRest protocol
  pure (modes.1, true, modes.2)

/-- The modes are looked at last. -/
def demandRespawn : Ahead McReader Unit := do
  .demand (mcProtocolSupported protocol = true)
  let modes ← (if protocol ≤ 578 then demandLegacyRespawn protocol else demandWorldRespawn protocol)
  .demand (modes.1 ≤ 3 ∧ (modes.2.1 = true → -1 ≤ modes.2.2 ∧ modes.2.2 ≤ 3))

/-- A slot that the protocol has, and that has not come before. -/
def demandEquipmentEntry (wireSlot : Int) (decoded : EquipmentDecoded) :
    Ahead McReader EquipmentDecoded :=
  match equipmentSlotNormalize protocol wireSlot with
  | none => .never
  | some slot => do
      .demand (decoded.entries.length < mcEntityEquipmentMaxEntries ∧
        decoded.seen &&& 1 <<< slot.code = 0)
      let item ← .field (mcReaderPlainItem protocol).run
      pure (decoded.add ⟨slot, item.1, item.2⟩)

def demandEquipmentRound (decoded : EquipmentDecoded) : Ahead McReader (Bool × EquipmentDecoded) := do
  let encodedSlot ← .field mcReaderU8.run
  let decoded ← demandEquipmentEntry protocol (encodedSlot.toNat &&& 0x7f : Nat) decoded
  pure (decide (encodedSlot.toNat &&& 0x80 ≠ 0), decoded)

def demandEquipmentEntries : Ahead McReader EquipmentDecoded :=
  if protocol ≤ 47 then do
    let wireSlot ← .field mcReaderU16.run
    demandEquipmentEntry protocol wireSlot ⟨[], 0⟩
  else if protocol < 735 then do
    let wireSlot ← .field mcReaderVarint.run
    demandEquipmentEntry protocol wireSlot ⟨[], 0⟩
  else .loopWith (demandEquipmentRound protocol) (mcEntityEquipmentMaxEntries + 1) ⟨[], 0⟩

def demandEntityEquipment : Ahead McReader Unit := do
  .demand (¬ mcProtocolSupported protocol = false)
  let entityId ← .field (readEntityId protocol).run
  .demand (0 ≤ entityId)
  let _ ← demandEquipmentEntries protocol
  pure ()

def demandHandUseHeader : Ahead McReader Unit := do
  let index ← .field mcReaderU8.run
  .demand (index = entityHandUseMetadataIndex protocol)
  if 47 < protocol then
    if protocol ≤ 340 then
      let legacySerializer ← .field mcReaderU8.run
      .demand (legacySerializer = 0)
    else
      let serializer ← .field mcReaderVarint.run
      .demand (serializer = 0)
  else pure ()

def demandHandUseFlags : Ahead McReader Unit := do
  .skip mcReaderU8.run
  let terminator ← .field mcReaderU8.run
  .demand (terminator = if protocol ≤ 47 then 0x7f else 0xff)

def demandHandUse : Ahead McReader Unit := do
  .demand (mcProtocolSupported protocol = true)
  let entityId ← .field (readEntityId protocol).run
  .demand (0 ≤ entityId)
  demandHandUseHeader protocol
  demandHandUseFlags protocol

def demandContentCounts : Ahead McReader Int :=
  if 756 ≤ protocol then do
    let stateId ← .field mcReaderVarint.run
    .demand (0 ≤ stateId)
    let encodedCount ← .field mcReaderVarint.run
    .demand (0 ≤ encodedCount)
    pure encodedCount
  else do
    let count ← .field mcReaderU16.run
    pure count

def demandContainerContent : Ahead McReader Unit := do
  .demand (¬ mcProtocolSupported protocol = false)
  (if 768 ≤ protocol then demandNonnegative else .skip mcReaderU8.run)
  let count ← demandContentCounts protocol
  .demand (count ≤ mcContainerContentMaxSlots)

/-- The windows of 1.7. -/
def demandNumberedWindow : Ahead McReader Unit := do
  .skip mcReaderU8.run
  .skip mcReaderU8.run
  .skip mcReaderString.run
  .skip mcReaderU8.run
  let suppliedTitle ← .field mcReaderU8.run
  .demand (suppliedTitle ≤ 1)

def demandRegistryWindow : Ahead McReader Unit := do
  let windowId ← .field mcReaderVarint.run
  .demand (0 ≤ windowId)
  let menuType ← .field mcReaderVarint.run
  .demand (0 ≤ menuType)

def demandContainerOpen : Ahead McReader Unit := do
  .demand (mcProtocolSupported protocol = true)
  if protocol ≤ 5 then demandNumberedWindow
  else if protocol ≤ 404 then pure ()
  else demandRegistryWindow

def demandInventorySlot : Ahead McReader Unit := do
  let slot ← .field mcReaderVarint.run
  .demand (0 ≤ slot ∧ slot ≤ 42)

def demandMenuSlot : Ahead McReader Unit := do
  .skip mcReaderU8.run
  (if 756 ≤ protocol then demandNonnegative else pure ())
  .skip mcReaderU16.run

def demandSlotUpdate (directPlayerInventory : Bool) : Ahead McReader Unit := do
  .demand (¬ (mcProtocolSupported protocol = false ∨ directPlayerInventory = true ∧ protocol < 768))
  if directPlayerInventory then demandInventorySlot else demandMenuSlot protocol

end demands

/-- A reader to go on with, that has somewhere to say what goes wrong. -/
structure McReader.Asked (reader : McReader) : Prop where
  clean : reader.Clean
  told : reader.error.isSome = true

theorem McReader.Asked.not_coded {reader : McReader} (asked : reader.Asked) : ¬ reader.Coded := by
  intro coded
  have failed := coded.failed
  rw [asked.clean.clean] at failed
  cases failed

/-- Where nothing is demanded all refusals have a code. -/
theorem McReader.Asked.lands {α : Type} {program : Prog McReader α}
    (lawful : readingDiscipline.Lawful program) (refuses : Refuses .coded program) :
    Lands McReader.Asked McReader.Coded program where
  returns reader a after asked run := by
    have told := (lawful.steps reader asked.clean.sound).told
    rw [run] at told
    exact ⟨refuses.returns reader a after asked.clean run, told.trans asked.told⟩
  refuses reader after asked run := refuses.refuses reader after asked.clean run

/-- What is demanded of the fields in front of a program decides whether its refusals have a code. -/
abbrev Foreseen {α β : Type} (program : Prog McReader α) (view : α → β) (ahead : Ahead McReader β) :
    Prop :=
  Foresees McReader.Asked McReader.Coded program view ahead

abbrev Foretold {α : Type} (program : Prog McReader α) (ahead : Ahead McReader Unit) : Prop :=
  Foretells McReader.Asked McReader.Coded program ahead

namespace Foreseen

variable {α β : Type} {protocol : Int}

theorem reads {program : ReadM α} (refuses : Refuses .coded program.run) :
    Foreseen program.run id (.field program.run) :=
  .field (McReader.Asked.lands (ReadingM.read program).lawful refuses)

theorem decodes {program : DecodeM protocol α} (refuses : Refuses .coded program.run) :
    Foreseen program.run id (.field program.run) :=
  .field (McReader.Asked.lands (ReadingM.decode program).lawful refuses)

theorem skips {program : ReadM α} (refuses : Refuses .coded program.run) :
    Foreseen program.run (fun _ => ()) (.skip program.run) :=
  .skip (McReader.Asked.lands (ReadingM.read program).lawful refuses)

theorem skipsDecode {program : DecodeM protocol α} (refuses : Refuses .coded program.run) :
    Foreseen program.run (fun _ => ()) (.skip program.run) :=
  .skip (McReader.Asked.lands (ReadingM.decode program).lawful refuses)

theorem requires {condition : Prop} [Decidable condition] :
    Foreseen (require condition).run id (.demand condition) :=
  .demand fun _ => McReader.Asked.not_coded

/-- The flag is no code. -/
theorem coded_failed {program : DecodeM protocol α} {reader after : McReader} (asked : reader.Asked)
    (run : program.run reader = (none, after)) :
    McReader.Coded { after with failed := true } ↔ after.Coded := by
  have sound := program.lawful.keeps reader asked.clean.sound
  have told := (program.lawful.steps reader asked.clean.sound).onward.told
  rw [run] at sound told
  constructor
  · intro coded
    refine ⟨?_, coded.code⟩
    obtain ⟨error, there⟩ := Option.isSome_iff_exists.mp (told.trans asked.told)
    cases failed : after.failed with
    | true => rfl
    | false => exact absurd (sound.clean failed error there) (coded.code error there)
  · intro coded
    exact ⟨rfl, coded.code⟩

theorem orFailed {program : DecodeM protocol α} {view : α → β} {ahead : Ahead McReader β}
    (foreseen : Foreseen program.run view ahead) :
    Foreseen (DecodeM.orFailed program).run view ahead :=
  .rescue foreseen fun _ _ => coded_failed

theorem branch {D : Discipline McReader} {condition : Prop} [Decidable condition]
    {p q : Program D α} {view : α → β} {ahead other : Ahead McReader β}
    (yes : condition → Foreseen p.run view ahead) (no : ¬ condition → Foreseen q.run view other) :
    Foreseen (if condition then p else q).run view (if condition then ahead else other) := by
  rw [apply_ite Program.run]
  exact .ite yes no

theorem nonnegative : Foreseen readNonnegativeVarint.run (fun _ => ()) demandNonnegative :=
  .bind (reads .varint) fun _ => .done requires fun _ => .pure _

theorem count : Foreseen mcReaderJoinNonnegativeVarint.run (fun _ => ()) demandCount :=
  .bind (reads .varint) fun _ => .done requires fun _ => .pure _

theorem nonempty (maxSize : Nat) :
    Foreseen (readNonempty maxSize).run (fun _ => ()) (demandNonempty maxSize) :=
  .bind (reads (.stringBounded maxSize)) fun _ => .done requires fun _ => .pure _

theorem gameMode (embeddedHardcore : Bool) :
    Foreseen (mcReaderJoinGameMode embeddedHardcore : DecodeM protocol (UInt8 × Bool)).run Prod.fst
      (demandGameMode embeddedHardcore) :=
  orFailed <| .bind (reads .u8) fun _ => .bind requires fun _ => .pure _

theorem gameModes : Foreseen (mcReaderGameModes protocol).run id (demandGameModes protocol) := by
  apply branch
  · intro _
    exact orFailed <| .bind (reads .varint) fun _ => .bind (reads .varint) fun _ =>
      .bind requires fun _ => .pure _
  · intro _
    exact .bind (gameMode false) fun _ => .bind (reads .i8) fun _ => .bind requires fun _ => .pure _

theorem worlds : Foreseen (mcReaderJoinWorlds : DecodeM protocol (Nat × List UInt8)).run
    (fun _ => ()) demandWorlds := by
  refine .bind (?_ : Foreseen _ id demandWorldCount) fun count => .observe fun start => ?_
  · exact orFailed <| .bind (reads .varint) fun _ => .bind requires fun _ => .pure _
  · exact .done (orFailed <| .times (fun _ => .done (nonempty _) fun _ => .pure _) _ _) fun _ =>
      .observe fun _ => .pure _

theorem deathLocation : Foreseen (mcReaderJoinDeathLocation protocol).run (fun _ => ())
    (demandDeathLocation protocol) := by
  refine .bind (reads .bool) fun present => branch (fun _ => .pure _) fun _ =>
    .observe fun start => ?_
  exact .done (orFailed (.bind (nonempty _) fun _ => .done (skipsDecode .position) fun _ => .pure _))
    fun _ => .observe fun _ => .pure _

theorem joinMode : Foreseen (readJoinMode protocol).run (fun _ => ()) (demandJoinMode protocol) := by
  apply branch
  · intro _
    exact .bind (skips .bool) fun _ => .bind (gameMode false) fun _ => .pure _
  · intro _
    exact .forget (gameMode true)

theorem joinSettings (packet : McJoinGamePacket) :
    Foreseen (readJoinSettings protocol packet).run (fun _ => ()) demandJoinSettings :=
  orFailed <| .bind (skips .bool) fun _ => .bind worlds fun _ => .bind count fun _ =>
    .bind count fun _ => .bind count fun _ => .bind (skips .bool) fun _ => .bind (skips .bool) fun _ =>
      .done (skips .bool) fun _ => .pure _

theorem joinDimension (packet : McJoinGamePacket) :
    Foreseen (readJoinDimension protocol packet).run (fun _ => ())
      (if 766 ≤ protocol then demandCount else demandNonempty 32767) := by
  apply orFailed
  apply branch
  · intro _
    exact .done count fun _ => .pure _
  · intro _
    exact .done (nonempty _) fun _ => .pure _

theorem joinWorld (packet : McJoinGamePacket) :
    Foreseen (readJoinWorld protocol packet).run (fun _ => ()) (demandJoinWorld protocol) :=
  orFailed <| .bind (nonempty _) fun _ => .bind (skips .i64) fun _ => .bind gameModes fun _ =>
    .bind (skips .bool) fun _ => .bind (skips .bool) fun _ => .bind deathLocation fun _ =>
      .done count fun _ => .pure _

theorem joinLimits (packet : McJoinGamePacket) :
    Foreseen (readJoinLimits protocol packet).run (fun _ => ()) (demandJoinLimits protocol) := by
  refine .bind (branch (fun _ => ?_) fun _ => orFailed count) fun _ => .bind (orFailed count) fun _ =>
    .bind (branch (fun _ => orFailed count) fun _ => .pure _) fun _ => ?_
  · exact .done (skips .u8) fun _ => .pure _
  · exact .bind (skips .bool) fun _ => .bind (skips .bool) fun _ => .bind (skips .bool) fun _ =>
      .done (skips .bool) fun _ => .pure _

theorem joinRegistries (packet : McJoinGamePacket) :
    Foreseen (readJoinRegistries protocol packet).run (fun _ => ()) (demandJoinRegistries protocol) := by
  refine .seq ?_ fun _ => ?_
  · exact orFailed <| .bind (reads .i8) fun _ => .bind requires fun _ => .bind worlds fun _ =>
      .done (skips (.nbt true)) fun _ => .pure _
  · exact .done (branch (fun _ => skips (.nbt true)) fun _ => orFailed (nonempty _)) fun _ => .pure _

theorem flag : Foreseen mcReaderRespawnBool.run id demandFlag :=
  .bind (reads .u8) fun _ => .bind requires fun _ => .pure _

theorem keepData :
    Foreseen (mcReaderRespawnKeepData protocol).run (fun _ => ()) (demandKeepData protocol) := by
  refine .bind (reads .u8) fun _ => branch (fun _ => ?_) fun _ => ?_
  · exact .done requires fun _ => .pure _
  · exact .done requires fun _ => .pure _

theorem lastDeath :
    Foreseen (mcReaderRespawnLastDeath protocol).run (fun _ => ()) (demandLastDeath protocol) := by
  refine .bind flag fun present => branch (fun _ => .pure _) fun _ => ?_
  exact .bind (skips .string) fun _ => .done (skipsDecode .position) fun _ => .pure _

theorem respawnModes :
    Foreseen (readRespawnModes protocol).run id (demandRespawnModes protocol) := by
  refine branch (fun _ => gameModes) fun _ => ?_
  exact .bind (reads .u8) fun _ => .bind (reads .i8) fun _ => .pure _

theorem respawnIdentity : Foreseen (mcReaderRespawnIdentityTail protocol).run
    (fun identity => (identity.gameMode, identity.previousGameMode)) (demandRespawnIdentity protocol) :=
  .bind (skips .i64) fun _ => .bind respawnModes fun _ => .bind flag fun _ => .bind flag fun _ => .pure _

theorem dimension :
    Foreseen (readDimension protocol).run (fun _ => ()) (demandDimension protocol) := by
  refine branch (fun _ => ?_) fun _ => branch (fun _ => ?_) fun _ => ?_
  · exact .done (skips .string) fun _ => .pure _
  · exact .done (skips (.nbt true)) fun _ => .pure _
  · exact .bind (reads .varint) fun _ => .done requires fun _ => .pure _

theorem respawnRest :
    Foreseen (readRespawnRest protocol).run (fun _ => ()) (demandRespawnRest protocol) :=
  .seq (branch (fun _ => keepData) fun _ => .pure _) fun _ =>
    .seq (branch (fun _ => lastDeath) fun _ => .pure _) fun _ =>
    .seq (branch (fun _ => nonnegative) fun _ => .pure _) fun _ =>
    .seq (branch (fun _ => skips .varint) fun _ => .pure _) fun _ =>
    .done (branch (fun _ => keepData) fun _ => .pure _) fun _ => .pure _

/-- What the last check looks at. -/
def modesOf (respawn : McClientboundRespawn) : UInt8 × Bool × Int :=
  (respawn.gameMode, respawn.hasPreviousGameMode, respawn.previousGameMode)

theorem legacyRespawn :
    Foreseen (readLegacyRespawn protocol).run modesOf (demandLegacyRespawn protocol) :=
  .bind (skips .i32) fun _ => .seq (branch (fun _ => skips .u8) fun _ => .pure _) fun _ =>
    .seq (branch (fun _ => skips .i64) fun _ => .pure _) fun _ => .bind (reads .u8) fun _ =>
    .bind (skips .string) fun _ => .pure _

theorem worldRespawn :
    Foreseen (readWorldRespawn protocol).run modesOf (demandWorldRespawn protocol) :=
  .bind dimension fun _ => .bind (skips .string) fun _ => .bind respawnIdentity fun _ =>
    .bind respawnRest fun _ => .pure _

theorem equipmentEntry (wireSlot : Int) (decoded : EquipmentDecoded) :
    Foreseen (readerEntityEquipmentEntry protocol wireSlot decoded).run id
      (demandEquipmentEntry protocol wireSlot decoded) := by
  unfold readerEntityEquipmentEntry demandEquipmentEntry
  refine orFailed ?_
  cases equipmentSlotNormalize protocol wireSlot with
  | none => exact .refuse fun _ => McReader.Asked.not_coded
  | some slot => exact .bind requires fun _ => .bind (decodes (.plainItem protocol)) fun _ => .pure _

theorem equipmentEntries :
    Foreseen (readEquipmentEntries protocol).run id (demandEquipmentEntries protocol) := by
  refine branch (fun _ => ?_) fun _ => branch (fun _ => ?_) fun _ => ?_
  · exact .bind (reads .u16) fun _ => equipmentEntry _ _
  · exact .bind (reads .varint) fun _ => equipmentEntry _ _
  · refine .loopWith (fun _ => McReader.Asked.not_coded) (fun decoded => ?_) _ _
    exact .bind (reads .u8) fun _ => .bind (equipmentEntry _ _) fun _ => .pure _

theorem handUseHeader :
    Foreseen (readHandUseHeader protocol).run (fun _ => ()) (demandHandUseHeader protocol) := by
  refine orFailed <| .bind (reads .u8) fun _ => .bind requires fun _ => branch (fun _ =>
    branch (fun _ => ?_) fun _ => ?_) fun _ => .pure _
  · exact .bind (reads .u8) fun _ => requires
  · exact .bind (reads .varint) fun _ => requires

theorem contentCounts :
    Foreseen (readContentCounts protocol).run Prod.snd (demandContentCounts protocol) := by
  apply branch
  · intro _
    exact orFailed <| .bind (reads .varint) fun _ => .bind requires fun _ => .bind (reads .varint)
      fun _ => .bind requires fun _ => .pure _
  · intro _
    exact .bind (reads .u16) fun _ => .pure _

theorem contentWindowId : Foreseen (readContentWindowId protocol).run (fun _ => ())
    (if 768 ≤ protocol then demandNonnegative else .skip mcReaderU8.run) := by
  apply branch
  · intro _
    exact orFailed <| .bind (reads .varint) fun _ => .done requires fun _ => .pure _
  · intro _
    exact .done (skips .u8) fun _ => .pure _

end Foreseen

namespace Foretold

open Foreseen

variable {α : Type} {protocol : Int}

theorem either {D : Discipline McReader} {condition : Prop} [Decidable condition]
    {p q : Program D α} {ahead other : Ahead McReader Unit}
    (yes : condition → Foretold p.run ahead) (no : ¬ condition → Foretold q.run other) :
    Foretold (if condition then p else q).run (if condition then ahead else other) := by
  rw [apply_ite Program.run]
  exact .ite yes no

/-- Nothing is demanded any more. -/
theorem lands {program : DecodeM protocol α} (refuses : Refuses .coded program.run) :
    Lands McReader.Asked McReader.Coded program.run :=
  McReader.Asked.lands (ReadingM.decode program).lawful refuses

theorem oldJoinGame (entityId : Int) :
    Foretold (readOldJoinGame protocol entityId).run (demandOldJoinGame protocol) := by
  refine .bind (gameMode _) fun _ => .seq (branch (fun _ => skips .i8) fun _ => skips .i32) fun _ =>
    .seq (branch (fun _ => orFailed ?_) fun _ => .pure _) fun _ =>
    .seq (branch (fun _ => skips .i64) fun _ => .pure _) fun _ => .seq (orFailed ?_) fun _ =>
    .last (branch (fun _ => orFailed count) fun _ => .pure _) fun _ => ?_
  · exact .bind (reads .u8) fun _ => .done requires fun _ => .pure _
  · exact .bind (skips .u8) fun _ => .done (nonempty _) fun _ => .pure _
  · exact lands <| .bind (.ite (fun _ => .bool) fun _ => .pure _) fun _ =>
      .bind (.ite (fun _ => .bool) fun _ => .pure _) fun _ => .pure _

theorem middleJoinGame (entityId : Int) :
    Foretold (readMiddleJoinGame protocol entityId).run (demandMiddleJoinGame protocol) := by
  refine .bind joinMode fun _ => .bind (joinRegistries _) fun _ => .seq (orFailed ?_) fun _ =>
    .bind (joinLimits _) fun _ => .seq (branch (fun _ => deathLocation) fun _ => .pure _) fun _ =>
    .last (branch (fun _ => orFailed count) fun _ => .pure _) fun _ => ?_
  · exact .bind (nonempty _) fun _ => .done (skips .i64) fun _ => .pure _
  · exact lands <| .pure _

theorem modernJoinGame (entityId : Int) :
    Foretold (readModernJoinGame protocol entityId).run (demandModernJoinGame protocol) := by
  refine .bind (joinSettings _) fun _ => .seq (joinDimension _) fun _ => .last (joinWorld _) fun _ => ?_
  exact lands <| .bind (.ite (fun _ => .varint) fun _ => .pure _) fun _ =>
    .bind (.ite (fun _ => .bool) fun _ => .pure _) fun _ =>
    .bind (.ite (fun _ => .bool) fun _ => .pure _) fun _ => .pure _

/-- What is refused at once is refused without a code. -/
theorem bare_orFailed {program : DecodeM protocol α} {reader : McReader} (asked : reader.Asked)
    (refused : program.run reader = (none, reader)) :
    ∃ after, (DecodeM.orFailed program).run reader = (none, after) ∧ ¬ after.Coded := by
  refine ⟨{ reader with failed := true }, ?_, ?_⟩
  · change program.run.rescue _ reader = _
    rw [Prog.rescue, refused]
  · exact (coded_failed asked refused).not.mpr asked.not_coded

/-- A protocol that is not known is refused before anything is read. -/
theorem known {condition : Prop} [Decidable condition] {program : DecodeM protocol α}
    {ahead : Ahead McReader Unit} (foretold : ¬ condition → Foretold program.run ahead) :
    Foretold (if condition then .orFailed .refuse else program : DecodeM protocol α).run (do
      .demand (¬ condition)
      ahead) := by
  refine .guarded (fun fine => ?_) fun unknown reader asked => ?_
  · rw [if_neg fine]
    exact foretold fine
  · rw [if_pos (not_not.mp unknown)]
    exact bare_orFailed asked rfl

theorem barely {condition : Prop} [Decidable condition] {rest : Unit → DecodeM protocol α}
    (refuses : Refuses (PublicReader.barelyUnless condition)
      ((DecodeM.orFailed (require condition) : DecodeM protocol Unit) >>= rest).run) :
    Foretold ((DecodeM.orFailed (require condition) : DecodeM protocol Unit) >>= rest).run
      (.demand condition) := by
  change Foretold _ (Ahead.demand condition >>= fun _ => pure ())
  refine .guarded (fun holds => .anyway (lands ?_)) fun fails reader asked => ?_
  · rwa [PublicReader.barelyUnless, if_pos holds] at refuses
  · have refused : (monadLift (require condition) : DecodeM protocol Unit).run reader =
      (none, reader) := if_pos fails
    obtain ⟨after, ran, bare⟩ := bare_orFailed asked refused
    exact ⟨after, Prog.bind_none ran, bare⟩

theorem joinGame : Foretold (mcReaderClientboundJoinGame protocol).run (demandJoinGame protocol) := by
  refine known fun _ => .seq (skips .i32) fun entityId => either (fun _ => oldJoinGame entityId) fun _ =>
    either (fun _ => modernJoinGame entityId) fun _ => middleJoinGame entityId

theorem respawn : Foretold (mcReaderClientboundRespawn protocol).run (demandRespawn protocol) :=
  .of_foresees <| orFailed <| .bind requires fun _ =>
    .bind (branch (fun _ => legacyRespawn) fun _ => worldRespawn) fun _ =>
    .done requires fun _ => .pure _

theorem entityEquipment :
    Foretold (mcReaderEntityEquipment protocol).run (demandEntityEquipment protocol) := by
  refine known fun _ => .bind (reads (.entityId protocol)) fun _ => .bind (orFailed requires) fun _ =>
    .bind equipmentEntries fun _ => .anyway (lands (.pure _))

theorem entityHandUseMetadata :
    Foretold (mcReaderEntityHandUseMetadata protocol).run (demandHandUse protocol) := by
  refine .bind (orFailed requires) fun _ => .bind (reads (.entityId protocol)) fun _ =>
    .bind (orFailed requires) fun _ => .bind handUseHeader fun _ => .last (orFailed ?_) fun _ => ?_
  · exact .bind (skips .u8) fun _ => .bind (reads .u8) fun _ => .done requires fun _ => .pure _
  · exact lands (.pure _)

theorem containerContent :
    Foretold (mcReaderContainerContent protocol).run (demandContainerContent protocol) := by
  refine known fun _ => .seq contentWindowId fun _ => .bind contentCounts fun _ =>
    .last (orFailed requires) fun _ => lands ?_
  exact .bind (.iterate (fun _ => .bind (.bind (.plainItem protocol) fun _ => .pure _) fun _ =>
    .pure _) _ _) fun _ =>
      .bind (.ite (fun _ => .bind (.plainItem protocol) fun _ => .pure _) fun _ => .pure _)
        fun _ => .pure _

theorem containerOpen :
    Foretold (mcReaderContainerOpen protocol).run (demandContainerOpen protocol) := by
  refine .bind (orFailed requires) fun _ => either (fun _ => ?_) fun _ => either (fun _ => ?_) fun _ => ?_
  · refine .last (orFailed ?_) fun _ => lands <| .bind .horse fun _ => .pure _
    exact .bind (skips .u8) fun _ => .bind (skips .u8) fun _ => .bind (skips .string) fun _ =>
      .bind (skips .u8) fun _ => .bind (reads .u8) fun _ => .done requires fun _ => .pure _
  · refine .anyway (McReader.Asked.lands (ReadingM.read readNamedWindow).lawful ?_)
    exact .bind .u8 fun _ => .bind .string fun _ => .bind .string fun _ => .bind .u8 fun _ =>
      .bind .horse fun _ => .pure _
  · refine .last (orFailed ?_) fun _ => lands <|
      .bind (.ite (fun _ => .nbt false) fun _ => .string) fun _ => .pure _
    exact .bind (reads .varint) fun _ => .bind requires fun _ => .bind (reads .varint) fun _ =>
      .done requires fun _ => .pure _

theorem inventorySlotUpdate (direct : Bool) :
    Foretold (mcReaderInventorySlotUpdate protocol direct).run (demandSlotUpdate protocol direct) := by
  refine known fun _ => .last (branch (fun _ => orFailed ?_) fun _ => ?_) fun _ => lands <|
    .bind (.plainItem protocol) fun _ => .pure _
  · exact .bind (reads .varint) fun _ => .done requires fun _ => .pure _
  · exact .bind (skips .u8) fun _ => .seq (branch (fun _ => .bind (reads .varint) fun _ =>
      .done requires fun _ => .pure _) fun _ => .pure _) fun _ => .done (skips .u16) fun _ => .pure _

theorem barelyElse {program : DecodeM protocol α}
    (refuses : Refuses (PublicReader.barelyUnsupported protocol)
      (if mcProtocolSupported protocol = false then .orFailed .refuse else program :
        DecodeM protocol α).run) :
    Foretold (if mcProtocolSupported protocol = false then .orFailed .refuse else program :
      DecodeM protocol α).run (.demand (mcProtocolSupported protocol = true)) := by
  change Foretold _ (Ahead.demand _ >>= fun _ => pure ())
  refine .guarded (fun holds => .anyway (lands ?_)) fun fails reader asked => ?_
  · rwa [PublicReader.barelyUnsupported, PublicReader.barelyUnless, if_pos holds] at refuses
  · rw [if_pos (Bool.not_eq_true _ |>.mp fails)]
    exact bare_orFailed asked rfl

end Foretold

/-- What the reader demands without saying so. -/
def PublicReader.demands {α : Type} : PublicReader α → Ahead McReader Unit
  | .joinGame protocol => demandJoinGame protocol
  | .respawn protocol => demandRespawn protocol
  | .entityEquipment protocol => demandEntityEquipment protocol
  | .entityHandUseMetadata protocol => demandHandUse protocol
  | .containerContent protocol => demandContainerContent protocol
  | .containerOpen protocol => demandContainerOpen protocol
  | .inventorySlotUpdate protocol direct => demandSlotUpdate protocol direct
  | .livingEntitySpawn protocol => .demand (mcProtocolSupported protocol = true ∧ protocol ≤ 758)
  | .timeUpdate protocol | .playerInfo protocol | .playerRemove protocol | .removeEntities protocol
  | .systemChat protocol | .entityMove protocol | .entityMoveLook protocol | .entityLook protocol
  | .entityStatus protocol | .entitySpawn protocol | .objectSpawn protocol
  | .worldParticles protocol => .demand (mcProtocolSupported protocol = true)
  | _ => pure ()

/-- Most readers demand nothing that they do not speak of. -/
theorem PublicReader.unasked {validators : Validators} (records : validators.Recording) {α : Type}
    (reading : PublicReader α) (coded : reading.refusal = .coded) :
    Foretold (reading.program validators).run (pure ()) := by
  refine .anyway (McReader.Asked.lands (reading.program validators).lawful ?_)
  rw [← coded]
  exact reading.refuses records

/-- The refusals of each reader have a code exactly where its demands are met. -/
theorem PublicReader.foretold {validators : Validators} (records : validators.Recording) {α : Type}
    (reading : PublicReader α) : Foretold (reading.program validators).run reading.demands := by
  cases reading with
  | joinGame protocol => exact .joinGame
  | respawn protocol => exact .respawn
  | entityEquipment protocol => exact .entityEquipment
  | entityHandUseMetadata protocol => exact .entityHandUseMetadata
  | containerContent protocol => exact .containerContent
  | containerOpen protocol => exact .containerOpen
  | inventorySlotUpdate protocol direct => exact .inventorySlotUpdate direct
  | livingEntitySpawn protocol =>
      have refuses : Refuses (PublicReader.livingEntitySpawn protocol).refusal _ :=
        .livingEntitySpawn records
      exact .barely refuses
  | timeUpdate protocol => exact .barelyElse .timeUpdate
  | playerInfo protocol => exact .barelyElse .playerInfo
  | playerRemove protocol => exact .barely .playerRemove
  | removeEntities protocol => exact .barelyElse .removeEntities
  | systemChat protocol => exact .barely .systemChat
  | entityMove protocol => exact .barely (.entityMovement true false)
  | entityMoveLook protocol => exact .barely (.entityMovement true true)
  | entityLook protocol => exact .barely (.entityMovement false true)
  | entityStatus protocol => exact .barely .entityStatus
  | entitySpawn protocol => exact .barely (.entitySpawn records)
  | objectSpawn protocol => exact .barely .objectSpawn
  | worldParticles protocol => exact .barely (.worldParticles records)
  | _ => exact unasked records _ rfl

namespace ReaderCall

def demands : ReaderCall → Ahead McReader Unit
  | .read reading => reading.demands
  | .finish => pure ()

/-- What the calls return, and the reader behind each. -/
def outcomes (validators : Validators) : List ReaderCall → McReader → List (Bool × McReader)
  | [], _ => []
  | call :: later, reader =>
      call.run validators reader :: outcomes validators later (call.run validators reader).2

/-- The cursor stays inside the input; the first call that returns false leaves a failure with a
code; and every later call returns false, and leaves the cursor, the code and its place alone. -/
def FailsOpenly (validators : Validators) : List ReaderCall → McReader → Prop
  | [], reader => reader.offset ≤ reader.size
  | call :: later, reader =>
      let outcome := call.run validators reader
      reader.offset ≤ reader.size ∧
        if outcome.1 = true then FailsOpenly validators later outcome.2
        else
          (outcome.2.offset ≤ outcome.2.size ∧ outcome.2.failed = true ∧
            ∃ error ∈ outcome.2.error, error.code ≠ .none) ∧
          ∀ seen ∈ outcomes validators later outcome.2, seen.1 = false ∧
            seen.2.offset = outcome.2.offset ∧
            seen.2.error.map McError.verdict = outcome.2.error.map McError.verdict

/-- Every call that finds a reader to go on with finds what it demands in front of it. -/
def DemandsMet (validators : Validators) : List ReaderCall → McReader → Prop
  | [], _ => True
  | call :: later, reader =>
      (reader.failed = false → call.demands.Holds reader) ∧
        DemandsMet validators later (call.run validators reader).2

instance decidableDemandsMet (validators : Validators) :
    ∀ (calls : List ReaderCall) (reader : McReader), Decidable (DemandsMet validators calls reader)
  | [], _ => .isTrue trivial
  | _ :: later, _ =>
      have := decidableDemandsMet validators later
      inferInstanceAs (Decidable (_ ∧ _))

section runs

variable {validators : Validators} {reader : McReader}

theorem told (records : validators.Recording) (asked : reader.Asked) (call : ReaderCall) :
    ((call.run validators reader).1 = true →
        (call.run validators reader).2.Asked ∧ call.demands.Holds reader) ∧
      ((call.run validators reader).1 = false →
        (call.demands.Holds reader ↔ (call.run validators reader).2.Coded)) := by
  have behaves := call.behaves records asked.clean.sound
  have told := behaves.onward.told.trans asked.told
  cases call with
  | read reading =>
      have foretold := reading.foretold records
      rcases ran : (reading.program validators).run reader with ⟨_ | a, after⟩
      · have outcome : (ReaderCall.read reading).run validators reader = (false, after) := by
          simp only [run, ran, Option.isSome_none]
        rw [outcome]
        exact ⟨fun returned => (by cases returned), fun _ => foretold.refuses reader after asked ran⟩
      · have outcome : (ReaderCall.read reading).run validators reader = (true, after) := by
          simp only [run, ran, Option.isSome_some]
        rw [outcome] at behaves told ⊢
        exact ⟨fun returned => ⟨⟨⟨behaves.sound, behaves.returns returned⟩, told⟩,
          foretold.returns reader a after asked ran⟩, fun refused => (by cases refused)⟩
  | finish =>
      exact ⟨fun returned => ⟨⟨⟨behaves.sound, behaves.returns returned⟩, told⟩, rfl⟩,
        fun refused => iff_of_true rfl (behaves.refuses asked.clean.clean refused)⟩

/-- Behind a failure nothing is demanded, and nothing changes. -/
theorem failed_stuck (records : validators.Recording) (sound : reader.Sound)
    (failed : reader.failed = true) (calls : List ReaderCall) :
    DemandsMet validators calls reader ∧
      ∀ seen ∈ outcomes validators calls reader, seen.1 = false ∧ seen.2.offset = reader.offset ∧
        seen.2.error.map McError.verdict = reader.error.map McError.verdict := by
  induction calls generalizing reader with
  | nil => exact ⟨trivial, by simp [outcomes]⟩
  | cons call later ih =>
      have behaves := call.behaves records sound
      obtain ⟨failed', offset, verdict⟩ := behaves.onward.stuck failed
      obtain ⟨met, stuck⟩ := ih behaves.sound failed'
      refine ⟨⟨fun clean => ?_, met⟩, ?_⟩
      · rw [failed] at clean
        cases clean
      · intro seen mem
        obtain rfl | mem := List.mem_cons.mp mem
        · exact ⟨behaves.stops failed, offset, verdict⟩
        · obtain ⟨refused, same, said⟩ := stuck seen mem
          exact ⟨refused, same.trans offset, said.trans verdict⟩

theorem failsOpenly_iff (records : validators.Recording) (asked : reader.Asked)
    (calls : List ReaderCall) :
    FailsOpenly validators calls reader ↔ DemandsMet validators calls reader := by
  induction calls generalizing reader with
  | nil => exact iff_of_true asked.clean.sound.offset_le trivial
  | cons call later ih =>
      have behaves := call.behaves records asked.clean.sound
      obtain ⟨returns, refuses⟩ := told records asked call
      simp only [FailsOpenly, DemandsMet, asked.clean.clean, true_imp_iff]
      rw [and_iff_right asked.clean.sound.offset_le]
      cases returned : (call.run validators reader).1 with
      | true =>
          obtain ⟨next, holds⟩ := returns returned
          rw [if_pos rfl, and_iff_right holds]
          exact ih next
      | false =>
          rw [if_neg Bool.false_ne_true, refuses returned]
          constructor
          · rintro ⟨⟨-, failed, error, there, code⟩, -⟩
            refine ⟨⟨failed, fun other mem => ?_⟩, (failed_stuck records behaves.sound failed later).1⟩
            rw [Option.mem_unique mem there]
            exact code
          · rintro ⟨coded, -⟩
            obtain ⟨error, there⟩ := Option.isSome_iff_exists.mp (behaves.onward.told.trans asked.told)
            exact ⟨⟨behaves.sound.offset_le, coded.failed, error, there, coded.code error there⟩,
              (failed_stuck records behaves.sound coded.failed later).2⟩

end runs

end ReaderCall

/-- In every run over every input, in every mode: what is promised of failures is kept exactly where
each call finds its demands met as long as nothing has failed. -/
theorem reader_failures_coded_iff (validators : Validators) (records : validators.Recording)
    (data : List UInt8) (mode : McDecodeMode) (error : McError) (calls : List ReaderCall) :
    ReaderCall.FailsOpenly validators calls (mcReaderInitMode data mode (some error)) ↔
      ReaderCall.DemandsMet validators calls (mcReaderInitMode data mode (some error)) :=
  ReaderCall.failsOpenly_iff records
    ⟨⟨ReaderCall.sound_init data mode (some error), rfl⟩, rfl⟩ calls

/-- A negative state id is refused, and the reader has neither failed nor said why. -/
theorem reader_failures_coded_stateId :
    ¬ ReaderCall.FailsOpenly recordingValidators [.read (.inventorySlotUpdate 776 false)]
      (mcReaderInitMode [0, 255, 255, 255, 255, 15] .strict (some mcErrorClear)) := by
  rintro ⟨-, rest⟩
  rw [if_neg (by decide +kernel)] at rest
  exact absurd rest.1.2.1 (by decide +kernel)

/-- A slot, half a window, and two calls behind it. -/
theorem reader_failures_coded_window :
    ReaderCall.FailsOpenly recordingValidators
      [.read (.inventorySlotUpdate 776 false), .read (.containerOpen 776), .read .u8, .finish]
      (mcReaderInitMode [0, 7, 0, 36, 3, 0x81, 2, 0, 0, 5, 0xac, 2, 10] .strict (some mcErrorClear)) :=
  (reader_failures_coded_iff recordingValidators recordingValidators_recording
    [0, 7, 0, 36, 3, 0x81, 2, 0, 0, 5, 0xac, 2, 10] .strict mcErrorClear
    [.read (.inventorySlotUpdate 776 false), .read (.containerOpen 776), .read .u8, .finish]).mpr
      (by decide +kernel)

end McProtocol
