import McProtocol.Direct.Equipment
import McProtocol.Direct.Refusals

/-! # Sequences of reader calls

Whatever is called on a reader, and in whatever order: the cursor stays inside its input, and once
the reader has failed nothing is read any more. All but a few of the readers say why they have
failed; one of them may refuse without failing at all.
-/

namespace McProtocol

/-- What moves on along the input, and is stuck once it has failed. -/
structure McReader.Onward (before after : McReader) : Prop where
  data_eq : after.data = before.data
  mode_eq : after.mode = before.mode
  offset_le : before.offset ≤ after.offset
  stuck : before.failed = true → after.failed = true ∧ after.offset = before.offset ∧
    after.error.map McError.verdict = before.error.map McError.verdict
  told : after.error.isSome = before.error.isSome

theorem McReader.AdvancesFor.onward {protocol : Int} {before after : McReader}
    (advances : AdvancesFor protocol before after) : Onward before after where
  data_eq := advances.data_eq
  mode_eq := advances.mode_eq
  offset_le := advances.offset_le
  stuck := advances.stuck
  told := by
    have stamped := advances.stamped
    generalize before.error = first at stamped ⊢
    generalize after.error = second at stamped ⊢
    cases stamped <;> rfl

theorem McReader.Onward.trans {first second third : McReader} (left : Onward first second)
    (right : Onward second third) : Onward first third where
  data_eq := right.data_eq.trans left.data_eq
  mode_eq := right.mode_eq.trans left.mode_eq
  offset_le := left.offset_le.trans right.offset_le
  stuck failed := by
    obtain ⟨failed, offset, verdict⟩ := left.stuck failed
    obtain ⟨failed', offset', verdict'⟩ := right.stuck failed
    exact ⟨failed', offset'.trans offset, verdict'.trans verdict⟩
  told := right.told.trans left.told

theorem McReader.Onward.refl (reader : McReader) : Onward reader reader :=
  ⟨rfl, rfl, Nat.le_refl _, fun failed => ⟨failed, rfl, rfl⟩, rfl⟩

/-- What all readers owe, whichever protocol they are for. -/
def readingDiscipline : Discipline McReader where
  inv := McReader.Sound
  step := McReader.Onward
  le := McReader.Permits
  step_refl := McReader.Onward.refl
  step_trans := McReader.Onward.trans

abbrev ReadingM := Program readingDiscipline

def ReadingM.decode {α : Type} {protocol : Int} (program : DecodeM protocol α) : ReadingM α where
  run := program.run
  lawful :=
    { keeps := program.lawful.keeps
      steps := fun reader sound => (program.lawful.steps reader sound).onward
      replay := program.lawful.replay }

def ReadingM.read {α : Type} (program : ReadM α) : ReadingM α :=
  .decode (monadLift program : DecodeM 0 α)

/-- The readers of the library, with what they are told. -/
inductive PublicReader : Type → Type where
  | bytes (size : Nat) : PublicReader (List UInt8)
  | skip (size : Nat) : PublicReader Unit
  | bool : PublicReader Bool
  | i8 : PublicReader Int
  | u8 : PublicReader UInt8
  | i16 : PublicReader Int
  | u16 : PublicReader Nat
  | i32 : PublicReader Int
  | u32 : PublicReader Nat
  | i64 : PublicReader Int
  | u64 : PublicReader Nat
  | float : PublicReader McFloat
  | double : PublicReader McDouble
  | varint : PublicReader Int
  | varlong : PublicReader Int
  | bufferI32 : PublicReader (List UInt8)
  | bufferVarint : PublicReader (List UInt8)
  | string : PublicReader (List UInt8)
  | stringBounded (maxSize : Nat) : PublicReader (List UInt8)
  | nbtName : PublicReader (List UInt8)
  | nbtValue (type : McNbtType) : PublicReader (List UInt8)
  | nbt (namedRoot : Bool) : PublicReader (List UInt8)
  | uuid : PublicReader McUuid
  | position (protocol : Int) : PublicReader McPosition
  | plainItem (protocol : Int) : PublicReader (Int × Int)
  | itemStack (protocol : Int) (wireKind : McItemWireKind) : PublicReader McItemStackView
  | blockChange (protocol : Int) : PublicReader (McPosition × Int)
  | blockEvent (protocol : Int) : PublicReader McClientboundBlockEvent
  | playerPosition (protocol : Int) : PublicReader McClientboundPlayerPosition
  | joinGame (protocol : Int) : PublicReader McJoinGamePacket
  | respawn (protocol : Int) : PublicReader McClientboundRespawn
  | timeUpdate (protocol : Int) : PublicReader McTimeUpdatePacket
  | playerInfo (protocol : Int) : PublicReader McClientboundPlayerInfo
  | playerRemove (protocol : Int) : PublicReader McClientboundPlayerRemove
  | removeEntities (protocol : Int) : PublicReader McClientboundRemoveEntities
  | systemChat (protocol : Int) : PublicReader McClientboundSystemChat
  | entityMove (protocol : Int) : PublicReader McClientboundEntityMovement
  | entityMoveLook (protocol : Int) : PublicReader McClientboundEntityMovement
  | entityLook (protocol : Int) : PublicReader McClientboundEntityMovement
  | entityStatus (protocol : Int) : PublicReader McClientboundEntityStatus
  | entitySpawn (protocol : Int) : PublicReader McClientboundEntitySpawn
  | livingEntitySpawn (protocol : Int) : PublicReader McClientboundLivingEntitySpawn
  | objectSpawn (protocol : Int) : PublicReader McClientboundObjectSpawn
  | worldParticles (protocol : Int) : PublicReader McClientboundWorldParticles
  | entityEquipment (protocol : Int) : PublicReader McEntityEquipment
  | entityHandUseMetadata (protocol : Int) : PublicReader McEntityHandUseMetadata
  | containerOpen (protocol : Int) : PublicReader McContainerOpen
  | containerData (protocol : Int) : PublicReader McContainerData
  | containerContent (protocol : Int) : PublicReader McContainerContent
  | inventorySlotUpdate (protocol : Int) (directPlayerInventory : Bool) :
      PublicReader McInventorySlotUpdate
  | scoreboardObjective (protocol : Int) : PublicReader McScoreboardObjective
  | scoreboardDisplay (protocol : Int) : PublicReader McScoreboardDisplay
  | scoreboardScore (protocol : Int) : PublicReader McScoreboardScore
  | scoreboardReset (protocol : Int) : PublicReader McScoreboardReset

namespace PublicReader

/-- The reader itself. -/
def program (validators : Validators) {α : Type} : PublicReader α → ReadingM α
  | .bytes size => .read (mcReaderBytes size)
  | .skip size => .read (mcReaderSkip size)
  | .bool => .read mcReaderBool
  | .i8 => .read mcReaderI8
  | .u8 => .read mcReaderU8
  | .i16 => .read mcReaderI16
  | .u16 => .read mcReaderU16
  | .i32 => .read mcReaderI32
  | .u32 => .read mcReaderU32
  | .i64 => .read mcReaderI64
  | .u64 => .read mcReaderU64
  | .float => .read mcReaderFloat
  | .double => .read mcReaderDouble
  | .varint => .read mcReaderVarint
  | .varlong => .read mcReaderVarlong
  | .bufferI32 => .read mcReaderBufferI32
  | .bufferVarint => .read mcReaderBufferVarint
  | .string => .read mcReaderString
  | .stringBounded maxSize => .read (mcReaderStringBounded maxSize)
  | .nbtName => .read mcReaderNbtName
  | .nbtValue type => .read (mcReaderNbtValue type)
  | .nbt namedRoot => .read (mcReaderNbt namedRoot)
  | .uuid => .read mcReaderUuid
  | .position protocol => .decode (mcReaderPosition protocol)
  | .plainItem protocol => .decode (mcReaderPlainItem protocol)
  | .itemStack protocol wireKind => .decode (validators.mcReaderItemStack protocol wireKind)
  | .blockChange protocol => .decode (mcReaderBlockChange protocol)
  | .blockEvent protocol => .decode (mcReaderClientboundBlockEvent protocol)
  | .playerPosition protocol => .decode (mcReaderClientboundPlayerPosition protocol)
  | .joinGame protocol => .decode (mcReaderClientboundJoinGame protocol)
  | .respawn protocol => .decode (mcReaderClientboundRespawn protocol)
  | .timeUpdate protocol => .decode (mcReaderClientboundTimeUpdate protocol)
  | .playerInfo protocol => .decode (mcReaderClientboundPlayerInfo protocol)
  | .playerRemove protocol => .decode (mcReaderClientboundPlayerRemove protocol)
  | .removeEntities protocol => .decode (mcReaderClientboundRemoveEntities protocol)
  | .systemChat protocol => .decode (mcReaderClientboundSystemChat protocol)
  | .entityMove protocol => .decode (mcReaderClientboundEntityMove protocol)
  | .entityMoveLook protocol => .decode (mcReaderClientboundEntityMoveLook protocol)
  | .entityLook protocol => .decode (mcReaderClientboundEntityLook protocol)
  | .entityStatus protocol => .decode (mcReaderClientboundEntityStatus protocol)
  | .entitySpawn protocol => .decode (mcReaderClientboundEntitySpawn validators protocol)
  | .livingEntitySpawn protocol =>
      .decode (mcReaderClientboundLivingEntitySpawn validators protocol)
  | .objectSpawn protocol => .decode (mcReaderClientboundObjectSpawn protocol)
  | .worldParticles protocol => .decode (mcReaderClientboundWorldParticles validators protocol)
  | .entityEquipment protocol => .decode (mcReaderEntityEquipment protocol)
  | .entityHandUseMetadata protocol => .decode (mcReaderEntityHandUseMetadata protocol)
  | .containerOpen protocol => .decode (mcReaderContainerOpen protocol)
  | .containerData protocol => .decode (mcReaderContainerData protocol)
  | .containerContent protocol => .decode (mcReaderContainerContent protocol)
  | .inventorySlotUpdate protocol direct => .decode (mcReaderInventorySlotUpdate protocol direct)
  | .scoreboardObjective protocol => .read (mcReaderScoreboardObjective protocol)
  | .scoreboardDisplay protocol => .read (mcReaderScoreboardDisplay protocol)
  | .scoreboardScore protocol => .read (mcReaderScoreboardScore protocol)
  | .scoreboardReset protocol => .read (mcReaderScoreboardReset protocol)

/-- Readers that fail barely unless something holds. -/
def barelyUnless (condition : Prop) [Decidable condition] : Refusal :=
  if condition then .coded else .bare

/-- Readers that fail barely for a protocol that they do not know. -/
def barelyUnsupported (protocol : Int) : Refusal :=
  barelyUnless (mcProtocolSupported protocol = true)

/-- A slot that is addressed directly, or the state id of one in a window. -/
def slotRefusal (protocol : Int) (directPlayerInventory : Bool) : Refusal :=
  if directPlayerInventory = true ∨ mcProtocolSupported protocol = false then .bare
  else if 756 ≤ protocol then .quiet else .coded

/-- How a refusal of the reader leaves it. -/
def refusal {α : Type} : PublicReader α → Refusal
  | .joinGame _ | .respawn _ | .entityEquipment _ | .entityHandUseMetadata _
  | .containerContent _ => .bare
  | .containerOpen protocol =>
      barelyUnless (mcProtocolSupported protocol = true ∧ 5 < protocol ∧ protocol ≤ 404)
  | .inventorySlotUpdate protocol direct => slotRefusal protocol direct
  | .livingEntitySpawn protocol => barelyUnless (mcProtocolSupported protocol = true ∧ protocol ≤ 758)
  | .timeUpdate protocol | .playerInfo protocol | .playerRemove protocol | .removeEntities protocol
  | .systemChat protocol | .entityMove protocol | .entityMoveLook protocol | .entityLook protocol
  | .entityStatus protocol | .entitySpawn protocol | .objectSpawn protocol
  | .worldParticles protocol => barelyUnsupported protocol
  | _ => .coded

end PublicReader

namespace Refuses

section layouts

variable {kind : Refusal} {protocol : Int}

theorem floats : Refuses kind readFloats.run :=
  .bind .float fun _ => .bind .float fun _ => .bind .float fun _ => .pure _

theorem doubles : Refuses kind readDoubles.run :=
  .bind .double fun _ => .bind .double fun _ => .bind .double fun _ => .pure _

theorem widened : Refuses kind readWidened.run :=
  .bind .float fun _ => .bind .float fun _ => .bind .float fun _ => .pure _

theorem shorts : Refuses kind readShorts.run :=
  .bind .i16 fun _ => .bind .i16 fun _ => .bind .i16 fun _ => .pure _

theorem fixedPoint : Refuses kind readFixedPoint.run :=
  .bind .i32 fun _ => .bind .i32 fun _ => .bind .i32 fun _ => .pure _

theorem angles (withRotation : Bool) : Refuses kind (readAngles withRotation).run :=
  .ite (fun _ => .bind .u8 fun _ => .bind .u8 fun _ => .pure _) fun _ => .pure _

theorem shortVelocity : Refuses kind readShortVelocity.run :=
  .bind .offset fun _ => .bind .shorts fun _ => .bind (.since _) fun _ => .pure _

theorem lpScale (low : UInt8) : Refuses kind (readLpScale low).run :=
  .orReject (by decide) (.ite
    (fun _ => .bind .varint fun _ => .bind .require fun _ => .bind .requireStrict fun _ => .pure _)
    fun _ => .bind .requireStrict fun _ => .pure _) 0

theorem lpVelocity : Refuses kind readLpVelocity.run :=
  .bind (.bind .offset fun _ => .bind .u8 fun _ => .ite (fun _ => .bind (.since _) fun _ => .pure _)
    fun _ => .bind .u8 fun _ => .bind .u32 fun _ => .bind (.lpScale _) fun _ =>
      .bind (.since _) fun _ => .pure _) fun _ => .pure _

theorem vecDelta : Refuses kind readVecDelta777.run :=
  .bind .varint fun _ => .bind .typedRequire fun _ =>
    .ite (fun _ => .bind .shorts fun _ => .pure _) fun _ =>
      .bind (.orReject (by decide) (.bind .require fun _ => .requireRoom _ _) 0) fun _ =>
        .bind (.iterate (fun _ => .bind .varint fun _ => .bind .typedRequire fun _ =>
          .bind .shorts fun _ => .pure _) _ _) fun _ => .pure _

theorem delta : Refuses kind (readDelta protocol).run :=
  .ite (fun _ => .bind .i8 fun _ => .bind .i8 fun _ => .bind .i8 fun _ => .pure _) fun _ => .shorts

theorem spawnId : Refuses kind readSpawnId.run :=
  .orReject (by decide) (.bind .varint fun _ => .bind .require fun _ => .pure _) 0

theorem spawnUuid : Refuses kind (readSpawnUuid protocol).run :=
  .ite (fun _ => .bind .uuid fun _ => .pure _) fun _ => .pure _

theorem spawnType (last : Int) : Refuses kind (readSpawnType protocol last).run :=
  .ite (fun _ => .bind .u8 fun _ => .pure _) fun _ => .spawnId

theorem profileProperties : Refuses kind readerPlayerInfoProperties.run :=
  .bind (.orReject (by decide) (.bind .varint fun _ => .bind .require fun _ => .pure _) 0) fun _ =>
    .bind .offset fun _ =>
      .bind (.iterate (fun _ => .orReject (by decide) (.bind (.nonempty _) fun _ =>
        .bind (.stringBounded _) fun _ => .bind .bool fun _ =>
          .when fun _ => .bind (.nonempty _) fun _ => .pure ()) 0) _ _) fun _ =>
        .bind (.since _) fun _ => .pure _

end layouts

/-- What fails barely where a first condition does not hold. -/
theorem barely {α : Type} {protocol : Int} {condition : Prop} [Decidable condition]
    {rest : DecodeM protocol α} (coded : condition → Refuses .coded rest.run) :
    Refuses (PublicReader.barelyUnless condition)
      (do .orFailed (McProtocol.require condition)
          rest : DecodeM protocol α).run := by
  unfold PublicReader.barelyUnless
  by_cases holds : condition
  · rw [if_pos holds]
    exact .bind (.supported holds) fun _ => coded holds
  · rw [if_neg holds]
    refine ⟨fun reader a after clean run => ?_, fun reader after clean run => ?_⟩
    · obtain ⟨_, _, passed, -⟩ := Prog.bind_eq_some run
      exact absurd (require_eq_some (Prog.rescue_eq_some passed)).1 holds
    · obtain stopped | ⟨_, _, passed, -⟩ := Prog.bind_eq_none run
      · exact (orFailed _).refuses reader after clean stopped
      · exact absurd (require_eq_some (Prog.rescue_eq_some passed)).1 holds

/-- The same, where the protocol is looked at on its own. -/
theorem barelyElse {α : Type} {protocol : Int} {rest : DecodeM protocol α}
    (coded : Refuses .coded rest.run) :
    Refuses (PublicReader.barelyUnsupported protocol)
      (if mcProtocolSupported protocol = false then .orFailed .refuse else rest).run := by
  unfold PublicReader.barelyUnsupported PublicReader.barelyUnless
  cases known : mcProtocolSupported protocol with
  | true => exact coded
  | false => exact .orFailed _

section readers

variable {protocol : Int}

theorem blockChange : Refuses .coded (mcReaderBlockChange protocol).run :=
  .bind .refuseFailed fun _ => .ite (fun _ => .readerFailProtocol (by decide)) fun _ =>
    .ite (fun _ => .orFailProtocol (by decide) <| .bind .i32 fun _ => .bind .u8 fun _ =>
      .bind .i32 fun _ => .bind .varint fun _ => .bind .u8 fun _ => .bind .require fun _ => .pure _)
    fun _ => .bind .position fun _ => .bind (.orFailProtocol (by decide) <| .bind .varint fun _ =>
      .bind .require fun _ => .pure _) fun _ => .pure _

theorem blockEvent : Refuses .coded (mcReaderClientboundBlockEvent protocol).run :=
  .bind .refuseFailed fun _ => .ite (fun _ => .readerFailProtocol (by decide)) fun _ =>
    .bind (.ite (fun _ => .bind .i32 fun _ => .bind .i16 fun _ => .bind .i32 fun _ => .pure _)
      fun _ => .position) fun _ => .bind .u8 fun _ => .bind .u8 fun _ => .bind .varint fun _ =>
        .ite (fun _ => .readerFailProtocol (by decide)) fun _ => .pure _

theorem playerPosition : Refuses .coded (mcReaderClientboundPlayerPosition protocol).run :=
  .bind .refuseFailed fun _ => .ite (fun _ => .readerFailProtocol (by decide)) fun _ =>
    .bind (.ite
      (fun _ => .orFailProtocol (by decide) <| .bind .varint fun _ => .bind .double fun _ =>
        .bind .double fun _ => .bind .double fun _ => .bind .double fun _ => .bind .double fun _ =>
          .bind .double fun _ => .bind .float fun _ => .bind .float fun _ => .bind .i32 fun _ =>
            .bind .require fun _ => .pure _)
      fun _ => .bind (.orFailProtocol (by decide) <| .bind .double fun _ => .bind .double fun _ =>
          .bind .double fun _ => .bind .float fun _ => .bind .float fun _ => .bind .u8 fun _ =>
            .bind .require fun _ => .pure _) fun _ =>
        .bind (.orFailProtocol (by decide) <| .ite (fun _ => .varint) fun _ => .pure _) fun _ =>
          .bind (.orFailProtocol (by decide) <| .bind (.ite (fun _ => .u8) fun _ => .pure _)
            fun _ => .bind .require fun _ => .pure _) fun _ => .pure _) fun _ =>
      .ite (fun _ => .pure _) fun _ => .readerFailProtocol (by decide)

theorem containerData : Refuses .coded (mcReaderContainerData protocol).run :=
  .bind .refuseFailed fun _ => .ite (fun _ => .readerFailProtocol (by decide)) fun _ =>
    .bind (.ite (fun _ => .bind .varint fun _ =>
        .ite (fun _ => .readerFailProtocol (by decide)) fun _ => .pure _)
      fun _ => .bind .u8 fun _ => .pure _) fun _ => .bind .i16 fun _ => .bind .i16 fun _ => .pure _

theorem timeUpdate :
    Refuses (PublicReader.barelyUnsupported protocol) (mcReaderClientboundTimeUpdate protocol).run :=
  .barelyElse <| .bind .i64 fun _ => .ite
    (fun _ => .bind .i64 fun _ => .bind (.ite (fun _ => .bool) fun _ => .pure _) fun _ => .pure _)
    fun _ => .bind .varint fun _ => .bind .typedCount fun _ => .bind .offset fun _ =>
      .bind (.iterate (fun _ => .bind (.orReject (by decide) (.bind .varint fun _ =>
        .bind .require fun _ => .bind .varlong fun _ => .bind .float fun _ => .bind .float fun _ =>
          .bind .require fun _ => .pure _) 0) fun _ => .pure ()) _ _) fun _ =>
        .bind (.since _) fun _ => .pure _

theorem removeEntities :
    Refuses (PublicReader.barelyUnsupported protocol) (mcReaderClientboundRemoveEntities protocol).run :=
  .barelyElse <|
    .bind (.bind (.ite (fun _ => .bind .u8 fun _ => .pure _) fun _ => .ite (fun _ => .pure _)
      fun _ => .varint) fun _ => .bind .typedRequire fun _ => .pure _) fun _ =>
    .bind .offset fun _ =>
      .bind (.iterate (fun _ => .bind (.orReject (by decide) (.bind (.ite (fun _ => .i32)
        fun _ => .varint) fun _ => .bind .require fun _ => .pure _) 0) fun _ => .pure ()) _ _)
      fun _ => .bind (.since _) fun _ => .pure _

theorem playerRemove :
    Refuses (PublicReader.barelyUnsupported protocol) (mcReaderClientboundPlayerRemove protocol).run := by
  refine .barely fun _ => ?_
  exact .bind (.rejectWhen (by decide) 0) fun _ =>
    .bind (.orReject (by decide) (.bind .varint fun _ => .bind .require fun _ => .pure _) 0) fun _ =>
      .bind .offset fun _ => .bind (.iterate (fun _ => .bind .uuid fun _ => .pure ()) _ _) fun _ =>
        .bind (.since _) fun _ => .pure _

theorem systemChat :
    Refuses (PublicReader.barelyUnsupported protocol) (mcReaderClientboundSystemChat protocol).run := by
  refine .barely fun _ => ?_
  exact .bind (.ite (fun _ => .nbt false) fun _ => .string) fun _ =>
    .ite (fun _ => .pure _) fun _ =>
      .ite (fun _ => .bind (.orReject (by decide) (.bind .u8 fun _ => .bind .require fun _ =>
          .pure _) 0) fun _ => .bind (.ite (fun _ => .bind .uuid fun _ => .pure _) fun _ => .pure _)
            fun _ => .pure _) fun _ =>
        .ite (fun _ => .bind (.orReject (by decide) (.bind .varint fun _ => .bind .require fun _ =>
          .pure _) 0) fun _ => .pure _) fun _ => .bind .bool fun _ => .pure _

theorem entityMovement (carriesPosition carriesRotation : Bool) :
    Refuses (PublicReader.barelyUnsupported protocol)
      (readerClientboundEntityMovement protocol carriesPosition carriesRotation).run :=
  .barely fun _ => .bind (.entityId protocol) fun _ => .bind .typedRequire fun _ => .ite
    (fun _ => .bind (.ite (fun _ => .vecDelta) fun _ => .bind .bool fun _ => .pure _) fun _ =>
      .bind (.angles _) fun _ => .pure _)
    fun _ => .bind (.ite (fun _ => .delta) fun _ => .pure _) fun _ => .bind (.angles _) fun _ =>
      .bind (.ite (fun _ => .bool) fun _ => .pure _) fun _ => .pure _

theorem entityStatus :
    Refuses (PublicReader.barelyUnsupported protocol) (mcReaderClientboundEntityStatus protocol).run :=
  .barely fun _ => .orInvalid <| .bind .i32 fun _ => .bind .require fun _ => .bind .u8 fun _ =>
    .pure _

theorem objectSpawn :
    Refuses (PublicReader.barelyUnsupported protocol) (mcReaderClientboundObjectSpawn protocol).run :=
  .barely fun _ => .bind .spawnId fun _ => .bind .spawnUuid fun _ => .bind (.ite
    (fun _ => .bind .u8 fun _ => .bind .fixedPoint fun _ => .bind .u8 fun _ => .bind .u8 fun _ =>
      .bind .i32 fun _ => .bind (.ite (fun _ => .shortVelocity) fun _ => .pure _) fun _ => .pure _)
    fun _ => .bind (.spawnType 404) fun _ => .bind .doubles fun _ =>
      .bind (.ite (fun _ => .lpVelocity) fun _ => .pure _) fun _ => .bind .u8 fun _ =>
        .bind .u8 fun _ => .bind (.ite (fun _ => .bind .u8 fun _ => .pure _) fun _ => .pure _)
          fun _ => .bind (.ite (fun _ => .varint) fun _ => .i32) fun _ =>
            .bind (.ite (fun _ => .shortVelocity) fun _ => .pure _) fun _ => .pure _) fun _ =>
      .bind .typedRequire fun _ => .pure _

section metadata

variable {validators : Validators} (records : validators.Recording)

include records

theorem entitySpawn : Refuses (PublicReader.barelyUnsupported protocol)
    (mcReaderClientboundEntitySpawn validators protocol).run := by
  refine .barely fun _ => ?_
  exact .bind (.orReject (by decide) .varint 0) fun _ =>
    .bind (.ite (fun _ => .orInvalid <| .bind (.stringBounded 36) fun _ => .bind .require fun _ =>
        .bind (.nonempty 16) fun _ => .bind .profileProperties fun _ => .pure _)
      fun _ => .bind .uuid fun _ => .pure _) fun _ =>
    .bind (.ite
      (fun _ => .bind .fixedPoint fun _ => .bind (.angles true) fun _ => .bind .u16 fun _ =>
        .bind (.metadataEntries records) fun _ => .pure _)
      fun _ => .ite
        (fun _ => .bind .doubles fun _ => .bind (.angles true) fun _ =>
          .bind (.ite (fun _ => .bind (.metadataEntries records) fun _ => .pure _) fun _ => .pure _)
            fun _ => .pure _)
        fun _ => .bind (.orInvalid <| .bind .varint fun _ => .bind .require fun _ =>
            .bind .doubles fun _ => .pure _) fun _ =>
          .bind (.ite (fun _ => .lpVelocity) fun _ => .pure _) fun _ => .bind .u8 fun _ =>
            .bind .u8 fun _ => .bind (.skip 1) fun _ => .bind .varint fun _ =>
              .bind (.ite (fun _ => .shortVelocity) fun _ => .pure _) fun _ => .pure _) fun _ =>
      .bind .typedRequire fun _ => .pure _

theorem worldParticles : Refuses (PublicReader.barelyUnsupported protocol)
    (mcReaderClientboundWorldParticles validators protocol).run :=
  .barely fun _ => .ite
    (fun _ => .bind .varint fun _ => .bind .typedRequire fun _ =>
      .bind (.bind .offset fun _ => .bind (.modernParticle records _) fun _ => .since _) fun _ =>
        .bind .bool fun _ => .bind .bool fun _ => .bind .doubles fun _ => .bind .floats fun _ =>
          .bind .floats fun _ => .bind .varint fun _ => .bind .varint fun _ =>
            .bind .typedRequire fun _ => .pure _)
    fun _ => .bind (.ite (fun _ => .bind (.stringBounded 256) fun _ => .pure _) fun _ =>
        .ite (fun _ => .pure _) fun _ => .bind (.ite (fun _ => .varint) fun _ => .i32) fun _ =>
          .bind .typedRequire fun _ => .pure _) fun _ =>
      .bind (.ite (fun _ => .bool) fun _ => .pure _) fun _ =>
      .bind (.ite (fun _ => .bool) fun _ => .pure _) fun _ =>
      .bind (.ite (fun _ => .doubles) fun _ => .widened) fun _ => .bind .floats fun _ =>
        .bind .float fun _ => .bind .i32 fun _ => .bind .typedRequire fun _ =>
          .bind (.ite (fun _ => .pure _) fun _ => .bind (.ite (fun _ => .spawnId) fun _ => .pure _)
            fun _ => .bind (.bind .offset fun _ => .bind
              (.ite (fun _ => .iterate (fun _ => .skipVarint) _ _) fun _ =>
                .ite (fun _ => .modernParticle records _) fun _ => .oldParticle records _)
              fun _ => .since _) fun _ => .pure _) fun _ => .pure _

end metadata

theorem playerInfoEntry (layout : PlayerInfoLayout) :
    Refuses .coded (readerPlayerInfoEntry layout).run := by
  have player : Refuses .coded readAddedPlayer.run := by
    refine .orReject (by decide) (.bind (.nonempty 16) fun _ => ?_) 0
    exact .bind .profileProperties fun _ => .pure _
  have varintIn (condition : Int → Prop) [DecidablePred condition] :
      Refuses .coded (readVarintIn condition).run :=
    .orReject (by decide) (.bind .varint fun _ => .bind .require fun _ => .pure _) 0
  have display : Refuses .coded (readerPlayerInfoOptionalDisplay layout.protocol).run :=
    .bind .bool fun _ => .ite (fun _ => .bind (.ite (fun _ => .stringBounded _) fun _ => .nbt false)
      fun _ => .pure _) fun _ => .pure _
  have session (hasSessionId : Bool) : Refuses .coded (readerPlayerInfoPublicKey hasSessionId).run := by
    refine .bind .bool fun _ => .ite (fun _ => .bind .offset fun _ => .bind ?_ fun _ =>
      .bind (.since _) fun _ => .pure _) fun _ => .pure _
    exact .orReject (by decide) (.bind (.when fun _ => .bind .uuid fun _ => .pure _) fun _ =>
      .bind .i64 fun _ => .bind .bufferVarint fun _ => .bind .bufferVarint fun _ => .require) 0
  refine .ite (fun _ => ?_) fun _ => .ite (fun _ => ?_) fun _ => ?_
  · exact .orReject (by decide) (.bind (.nonempty 16) fun _ => .bind .bool fun _ =>
      .bind .i16 fun _ => .pure _) 0
  · exact .bind .uuid fun _ => .bind (.ite (fun _ => player) fun _ => .pure _) fun _ =>
      .bind (.ite (fun _ => varintIn _) fun _ => .pure _) fun _ =>
      .bind (.ite (fun _ => varintIn _) fun _ => .pure _) fun _ =>
      .bind (.ite (fun _ => display) fun _ => .pure _) fun _ =>
      .bind (.ite (fun _ => session false) fun _ => .pure _) fun _ => .pure _
  · exact .bind .uuid fun _ => .bind (.ite (fun _ => player) fun _ => .pure _) fun _ =>
      .bind (.ite (fun _ => session true) fun _ => .pure _) fun _ =>
      .bind (.ite (fun _ => varintIn _) fun _ => .pure _) fun _ =>
      .bind (.ite (fun _ => varintIn _) fun _ => .pure _) fun _ =>
      .bind (.ite (fun _ => varintIn _) fun _ => .pure _) fun _ =>
      .bind (.ite (fun _ => display) fun _ => .pure _) fun _ =>
      .bind (.ite (fun _ => varintIn _) fun _ => .pure _) fun _ =>
      .bind (.ite (fun _ => .bool) fun _ => .pure _) fun _ => .pure _

theorem readDefined {α : Type} (value : Option α) : Refuses .quiet (McProtocol.readDefined value).run := by
  cases value with
  | none => exact .refuse
  | some a => exact .pure a

theorem playerInfo :
    Refuses (PublicReader.barelyUnsupported protocol) (mcReaderClientboundPlayerInfo protocol).run := by
  refine .barelyElse (.bind ?_ fun _ => .bind .offset fun _ =>
    .bind (.iterate (fun _ => .bind (.playerInfoEntry _) fun _ => .pure _) _ _) fun _ =>
      .bind (.since _) fun _ => .pure _)
  refine .ite (fun _ => .pure _) fun _ => .ite (fun _ => ?_) fun _ => ?_
  · exact .orReject (by decide) (.bind .varint fun _ => .bind (.readDefined _) fun _ =>
      .bind .varint fun _ => .bind .require fun _ => .pure _) 0
  · exact .orReject (by decide) (.bind .u8 fun _ => .bind (.readDefined _) fun _ =>
      .bind .require fun _ => .bind .varint fun _ => .bind .require fun _ => .pure _) 0

theorem joinGame : Refuses .bare (mcReaderClientboundJoinGame protocol).run := by
  have mode (embedded : Bool) :
      Refuses .bare (mcReaderJoinGameMode embedded : DecodeM protocol (UInt8 × Bool)).run :=
    .orFailed _
  have death : Refuses .bare (mcReaderJoinDeathLocation protocol).run :=
    .bind .bool fun _ => .ite (fun _ => .pure _) fun _ => .bind .offset fun _ =>
      .bind (.orFailed _) fun _ => .bind (.since _) fun _ => .pure _
  refine .ite (fun _ => .orFailed _) fun _ => .bind .i32 fun _ => .ite (fun _ => ?_) fun _ =>
    .ite (fun _ => ?_) fun _ => ?_
  · exact .bind (mode _) fun _ => .bind (.ite (fun _ => .i8) fun _ => .i32) fun _ =>
      .bind (.ite (fun _ => .orFailed _) fun _ => .pure _) fun _ =>
      .bind (.ite (fun _ => .i64) fun _ => .pure _) fun _ => .bind (.orFailed _) fun _ =>
      .bind (.ite (fun _ => .orFailed _) fun _ => .pure _) fun _ =>
      .bind (.ite (fun _ => .bool) fun _ => .pure _) fun _ =>
      .bind (.ite (fun _ => .bool) fun _ => .pure _) fun _ => .pure _
  · exact .bind (.orFailed _) fun _ => .bind (.orFailed _) fun _ => .bind (.orFailed _) fun _ =>
      .bind (.ite (fun _ => .varint) fun _ => .pure _) fun _ =>
      .bind (.ite (fun _ => .bool) fun _ => .pure _) fun _ =>
      .bind (.ite (fun _ => .bool) fun _ => .pure _) fun _ => .pure _
  · exact .bind (.ite (fun _ => .bind .bool fun _ => .bind (mode _) fun _ => .pure _)
        fun _ => mode _) fun _ =>
      .bind (.bind (.orFailed _) fun _ => .bind (.ite (fun _ => .nbt true) fun _ => .orFailed _)
        fun _ => .pure _) fun _ => .bind (.orFailed _) fun _ =>
      .bind (.bind (.ite (fun _ => .bind .u8 fun _ => .pure _) fun _ => .orFailed _) fun _ =>
        .bind (.orFailed _) fun _ => .bind (.ite (fun _ => .orFailed _) fun _ => .pure _) fun _ =>
        .bind .bool fun _ => .bind .bool fun _ => .bind .bool fun _ => .bind .bool fun _ =>
          .pure _) fun _ =>
      .bind (.ite (fun _ => death) fun _ => .pure _) fun _ =>
      .bind (.ite (fun _ => .orFailed _) fun _ => .pure _) fun _ => .pure _

theorem entityEquipment : Refuses .bare (mcReaderEntityEquipment protocol).run := by
  refine .ite (fun _ => .orFailed _) fun _ => .bind (.entityId protocol) fun _ =>
    .bind (.orFailed _) fun _ => .bind (.ite (fun _ => ?_) fun _ => .ite (fun _ => ?_) fun _ => ?_)
      fun _ => .pure _
  · exact .bind .u16 fun _ => .orFailed _
  · exact .bind .varint fun _ => .orFailed _
  · exact Prog.Lands.loopWith (fun _ => Refuses.bind .u8 fun _ => .bind (.orFailed _) fun _ => .pure _)
      (equipmentRound_ends protocol)

theorem entityHandUseMetadata : Refuses .bare (mcReaderEntityHandUseMetadata protocol).run :=
  .bind (.orFailed _) fun _ => .bind (.entityId protocol) fun _ => .bind (.orFailed _) fun _ =>
    .bind (.orFailed _) fun _ => .bind (.orFailed _) fun _ => .pure _

theorem containerContent : Refuses .bare (mcReaderContainerContent protocol).run :=
  .ite (fun _ => .orFailed _) fun _ =>
    .bind (.ite (fun _ => .orFailed _) fun _ => .bind .u8 fun _ => .pure _) fun _ =>
    .bind (.ite (fun _ => .orFailed _) fun _ => .bind .u16 fun _ => .pure _) fun _ =>
    .bind (.orFailed _) fun _ =>
    .bind (.iterate (fun _ => .bind (.bind (.plainItem protocol) fun _ => .pure _) fun _ =>
      .pure _) _ _) fun _ =>
    .bind (.ite (fun _ => .bind (.plainItem protocol) fun _ => .pure _) fun _ => .pure _)
      fun _ => .pure _

theorem horse {kind : Refusal} {present : Prop} [Decidable present] :
    Refuses kind (readHorse present).run :=
  .ite (fun _ => .bind .i32 fun _ => .pure _) fun _ => .pure _

theorem containerOpen : Refuses (PublicReader.containerOpen protocol).refusal
    (mcReaderContainerOpen protocol).run := by
  have named {kind : Refusal} : Refuses kind readNamedWindow.run :=
    .bind .u8 fun _ => .bind .string fun _ => .bind .string fun _ => .bind .u8 fun _ =>
      .bind .horse fun _ => .pure _
  change Refuses (PublicReader.barelyUnless _) _
  unfold PublicReader.barelyUnless
  split_ifs with middle
  · obtain ⟨known, late, early⟩ := middle
    exact .bind (.supported known) fun _ => .ite (fun _ => absurd late (by omega)) fun _ =>
      .ite (fun _ => named) fun _ => absurd early (by omega)
  · refine .bind (.orFailed _) fun _ => .ite (fun _ => ?_) fun _ => .ite (fun _ => named) fun _ => ?_
    · exact .bind (.orFailed _) fun _ => .bind .horse fun _ => .pure _
    · exact .bind (.orFailed _) fun _ => .bind (.ite (fun _ => .nbt false) fun _ => .string)
        fun _ => .pure _

theorem inventorySlotUpdate (direct : Bool) :
    Refuses (PublicReader.inventorySlotUpdate protocol direct).refusal
      (mcReaderInventorySlotUpdate protocol direct).run := by
  change Refuses (PublicReader.slotRefusal protocol direct) _
  unfold PublicReader.slotRefusal mcReaderInventorySlotUpdate
  by_cases bare : direct = true ∨ mcProtocolSupported protocol = false
  · rw [if_pos bare]
    refine .ite (fun _ => .orFailed _) fun known => ?_
    obtain rfl | unsupported := bare
    · exact .bind (.orFailed _) fun _ => .bind (.plainItem protocol) fun _ => .pure _
    · exact absurd (.inl unsupported) known
  · rw [if_neg bare]
    refine .ite (fun early => absurd ?_ bare) fun _ => ?_
    · exact early.elim .inr fun direct => .inl direct.1
    · by_cases stated : 756 ≤ protocol
      · rw [if_pos stated]
        refine .bind (.ite (fun same => absurd (.inl same) bare) fun _ => ?_) fun _ =>
          .bind (.plainItem protocol) fun _ => .pure _
        exact .bind .u8 fun _ => .bind (.ite (fun _ => .bind .varint fun _ => .bind .require fun _ =>
          .pure _) fun _ => .pure _) fun _ => .bind .u16 fun _ => .pure _
      · rw [if_neg stated]
        refine .bind (.ite (fun same => absurd (.inl same) bare) fun _ => ?_) fun _ =>
          .bind (.plainItem protocol) fun _ => .pure _
        exact .bind .u8 fun _ => .bind (.ite (fun late => absurd late stated) fun _ => .pure _)
          fun _ => .bind .u16 fun _ => .pure _

theorem livingEntitySpawn {validators : Validators} (records : validators.Recording) :
    Refuses (PublicReader.livingEntitySpawn protocol).refusal
      (mcReaderClientboundLivingEntitySpawn validators protocol).run := by
  refine .barely fun _ => ?_
  exact .bind .spawnId fun _ => .bind .spawnUuid fun _ => .bind (.spawnType 210) fun _ =>
    .bind (.ite (fun _ => .fixedPoint) fun _ => .doubles) fun _ => .bind (.angles true) fun _ =>
      .bind .u8 fun _ => .bind .shortVelocity fun _ =>
        .bind (.ite (fun _ => .bind (.metadataEntries records) fun _ => .pure _) fun _ => .pure _)
          fun _ => .bind .typedRequire fun _ => .pure _

theorem scoreboardReady : Refuses .coded (scoreboardReaderReady protocol).run :=
  .bind .refuseFailed fun _ => .rejectWhen (by decide) 0

theorem numberFormat : Refuses .coded scoreboardReadNumberFormat.run := by
  refine .bind (.orReject (by decide) ?_ 0) fun _ => .ite (fun _ => .bind (.nbt false) fun _ => .pure _)
    fun _ => .pure _
  exact .bind .varint fun _ => .bind .require fun _ => .pure _

theorem scoreboardObjective : Refuses .coded (mcReaderScoreboardObjective protocol).run := by
  refine .bind .scoreboardReady fun _ => .bind (.stringBounded _) fun _ => .ite (fun _ => ?_) fun _ =>
    .bind (.orReject (by decide) (.bind .u8 fun _ => .bind .require fun _ => .pure _) 0) fun _ =>
      .ite (fun _ => .pure _) fun _ => ?_
  · exact .bind (.stringBounded _) fun _ => .bind .u8 fun _ => .bind (.rejectWhen (by decide) 0)
      fun _ => .pure _
  · refine .bind (.ite (fun _ => .stringBounded _) fun _ => .nbt false) fun _ =>
      .bind (.ite (fun _ => .stringBounded _) fun _ => .pure _) fun _ =>
      .bind (.ite (fun _ => .pure _) fun _ => ?_) fun _ =>
      .bind (.ite (fun _ => .present .numberFormat) fun _ => .pure _) fun _ => .pure _
    exact .orReject (by decide) (.bind .varint fun _ => .bind .require fun _ => .pure _) 0

theorem scoreboardDisplay : Refuses .coded (mcReaderScoreboardDisplay protocol).run := by
  refine .bind .scoreboardReady fun _ => .bind (.ite (fun _ => .bind .u8 fun _ => .pure _)
    fun _ => ?_) fun _ => .bind (.stringBounded _) fun _ => .pure _
  exact .orReject (by decide) (.bind .varint fun _ => .bind .require fun _ => .pure _) 0

theorem scoreboardScore : Refuses .coded (mcReaderScoreboardScore protocol).run := by
  refine .bind .scoreboardReady fun _ => .bind (.stringBounded _) fun _ => .ite (fun _ => ?_) fun _ =>
    .ite (fun _ => ?_) fun _ => ?_
  · refine .bind ?_ fun _ => .ite (fun _ => .bind (.stringBounded _) fun _ => .bind .i32 fun _ =>
      .pure _) fun _ => .pure _
    exact .orReject (by decide) (.bind .u8 fun _ => .bind .require fun _ => .pure _) 0
  · refine .bind ?_ fun _ => .ite (fun _ => .bind .varint fun _ => .pure _) fun _ => .pure _
    exact .orReject (by decide) (.bind .varint fun _ => .bind .require fun _ =>
      .bind (.stringBounded _) fun _ => .pure _) 0
  · exact .bind (.stringBounded _) fun _ => .bind .varint fun _ => .bind (.present (.nbt false))
      fun _ => .bind (.present .numberFormat) fun _ => .pure _

theorem scoreboardReset : Refuses .coded (mcReaderScoreboardReset protocol).run :=
  .bind .scoreboardReady fun _ => .bind (.rejectWhen (by decide) 0) fun _ =>
    .bind (.stringBounded _) fun _ => .bind (.present (.stringBounded _)) fun _ => .pure _

end readers

end Refuses

/-- Each of the readers refuses as it is said to. -/
theorem PublicReader.refuses {validators : Validators} (records : validators.Recording) {α : Type}
    (reading : PublicReader α) : Refuses reading.refusal (reading.program validators).run := by
  cases reading with
  | bytes size => exact .bytes size
  | skip size => exact .skip size
  | bool => exact .bool
  | i8 => exact .i8
  | u8 => exact .u8
  | i16 => exact .i16
  | u16 => exact .u16
  | i32 => exact .i32
  | u32 => exact .u32
  | i64 => exact .i64
  | u64 => exact .u64
  | float => exact .float
  | double => exact .double
  | varint => exact .varint
  | varlong => exact .varlong
  | bufferI32 => exact .bufferI32
  | bufferVarint => exact .bufferVarint
  | string => exact .string
  | stringBounded maxSize => exact .stringBounded maxSize
  | nbtName => exact .nbtName
  | nbtValue type => exact .nbtValue type
  | nbt namedRoot => exact .nbt namedRoot
  | uuid => exact .uuid
  | position protocol => exact .position
  | plainItem protocol => exact .plainItem protocol
  | itemStack protocol wireKind => exact .itemStack records wireKind
  | blockChange protocol => exact .blockChange
  | blockEvent protocol => exact .blockEvent
  | playerPosition protocol => exact .playerPosition
  | joinGame protocol => exact .joinGame
  | respawn protocol => exact .orFailed _
  | timeUpdate protocol => exact .timeUpdate
  | playerInfo protocol => exact .playerInfo
  | playerRemove protocol => exact .playerRemove
  | removeEntities protocol => exact .removeEntities
  | systemChat protocol => exact .systemChat
  | entityMove protocol => exact .entityMovement true false
  | entityMoveLook protocol => exact .entityMovement true true
  | entityLook protocol => exact .entityMovement false true
  | entityStatus protocol => exact .entityStatus
  | entitySpawn protocol => exact .entitySpawn records
  | livingEntitySpawn protocol => exact .livingEntitySpawn records
  | objectSpawn protocol => exact .objectSpawn
  | worldParticles protocol => exact .worldParticles records
  | entityEquipment protocol => exact .entityEquipment
  | entityHandUseMetadata protocol => exact .entityHandUseMetadata
  | containerOpen protocol => exact .containerOpen
  | containerData protocol => exact .containerData
  | containerContent protocol => exact .containerContent
  | inventorySlotUpdate protocol direct => exact .inventorySlotUpdate direct
  | scoreboardObjective protocol => exact .scoreboardObjective
  | scoreboardDisplay protocol => exact .scoreboardDisplay
  | scoreboardScore protocol => exact .scoreboardScore
  | scoreboardReset protocol => exact .scoreboardReset

namespace Stops

variable {α β : Type} {protocol : Int}

theorem refuse : Stops (Prog.refuse : Prog McReader α) := fun _ _ _ => rfl

theorem refuseFailed : Stops McProtocol.refuseFailed.run := fun reader _ failed =>
  congrArg Prod.fst (Prog.check_bad failed :
    Prog.check (fun reader : McReader => reader.failed = true) id reader = (none, reader))

theorem ite {D : Discipline McReader} {condition : Prop} [Decidable condition] {p q : Program D α}
    (yes : Stops p.run) (no : Stops q.run) : Stops (if condition then p else q).run := by
  split_ifs
  · exact yes
  · exact no

/-- A decoder in front leaves a failed reader failed. -/
theorem behindDecode {first : DecodeM protocol α} {rest : α → Prog McReader β}
    (stops : ∀ a, Stops (rest a)) : Stops (first.run >>= rest) := by
  intro reader sound failed
  have still := (first.lawful.steps reader sound).stuck failed
  have sound' := first.lawful.keeps reader sound
  rcases run : first.run reader with ⟨_ | a, after⟩
  · exact congrArg Prod.fst (Prog.bind_none run)
  · rw [run] at still sound'
    rw [Prog.bind_some run]
    exact stops a after sound' still.1

/-- What comes next may depend on what the program in front can return. -/
theorem knowing {first : ReadM α} {rest : α → Prog McReader β}
    (stops : ∀ reader a after, first.run reader = (some a, after) → Stops (rest a)) :
    Stops (first.run >>= rest) := by
  intro reader sound failed
  have same := (first.lawful.steps reader sound).sticky failed
  rcases run : first.run reader with ⟨_ | a, after⟩
  · exact congrArg Prod.fst (Prog.bind_none run)
  · rw [run] at same
    obtain rfl : after = reader := same
    rw [Prog.bind_some run]
    exact stops after a after run after sound failed

theorem iterate {body : α → Prog McReader α} (stops : ∀ a, Stops (body a)) (n : Nat) (a : α) :
    Stops (Prog.iterate body (n + 1) a) := bind (stops a)

theorem skip (size : Nat) : Stops (mcReaderSkip size).run := bind (bytes size)

theorem u16 : Stops mcReaderU16.run := bind (bytes 2)

theorem i16 : Stops mcReaderI16.run := bind u16

theorem u32 : Stops mcReaderU32.run := bind (bytes 4)

theorem i32 : Stops mcReaderI32.run := bind u32

theorem u64 : Stops mcReaderU64.run := bind (bytes 8)

theorem float : Stops mcReaderFloat.run := bind u32

theorem double : Stops mcReaderDouble.run := bind u64

theorem varint : Stops mcReaderVarint.run := bind (bind u8)

theorem stringBounded (maxSize : Nat) : Stops (mcReaderStringBounded maxSize).run :=
  behind fun _ => bind varint

theorem nbt (namedRoot : Bool) : Stops (mcReaderNbt namedRoot).run := behind fun _ => bind (bind u8)

/-- The loop runs its body at least once. -/
theorem readLoop {body : ReadM Bool} (stops : Stops body.run) :
    Stops (McProtocol.readLoop body).run := by
  intro reader sound failed
  have stuck := stops reader sound failed
  rcases run : body.run reader with ⟨_ | more, after⟩
  · exact congrArg Prod.fst (Prog.loopAtMost_none run)
  · rw [run] at stuck
    cases stuck

theorem nbtValueAt (budget : Nat) (type : McNbtType) : Stops (nbtSkipValueAt budget type).run := by
  have array (width : Nat) : Stops (nbtSkipArray width).run := behind fun _ => bind i32
  cases budget with
  | zero => exact fun _ _ _ => rfl
  | succ budget =>
      cases type with
      | endTag => exact fun _ _ _ => rfl
      | byte => exact skip 1
      | short => exact skip 2
      | int => exact skip 4
      | float => exact skip 4
      | long => exact skip 8
      | double => exact skip 8
      | byteArray => exact array 1
      | intArray => exact array 4
      | longArray => exact array 8
      | string => exact bind (bind u16)
      | list => exact bind u8
      | compound =>
          exact readLoop (bind u8)

theorem entityId (protocol : Int) : Stops (readEntityId protocol).run := ite i32 varint

theorem entityMovement (carriesPosition carriesRotation : Bool) :
    Stops (readerClientboundEntityMovement protocol carriesPosition carriesRotation).run :=
  behindDecode fun _ => bind (entityId protocol)

/-- Before the lists of players there is a single one, by its name. -/
theorem playerInfo : Stops (mcReaderClientboundPlayerInfo protocol).run := by
  have named (fields : Nat) : Stops (readNamedEntry fields).run :=
    rescue (bind (bind (stringBounded 16)))
  refine ite (rescue refuse) ?_
  by_cases early : protocol ≤ 5
  · refine knowing fun reader header after run => ?_
    unfold readPlayerInfoHeader at run
    rw [if_pos early] at run
    cases run
    exact behind fun _ => bind (iterate (fun fields => bind (named fields)) 0 _)
  · unfold readPlayerInfoHeader
    rw [if_neg early]
    exact bind (ite (rescue (bind varint)) (rescue (bind u8)))

/-- One release has a single entity to remove, and no count. -/
theorem removeEntities : Stops (mcReaderClientboundRemoveEntities protocol).run := by
  have entity (fixed : Bool) : Stops (skipListedEntity fixed).run :=
    bind (rescue (bind (ite i32 varint)))
  refine ite (rescue refuse) ?_
  by_cases single : protocol = 755
  · subst single
    refine knowing fun reader count after run => ?_
    obtain rfl : count = 1 := by
      obtain ⟨one, middle, read, ran⟩ := Prog.bind_eq_some run
      cases read
      obtain ⟨_, _, _, returned⟩ := Prog.bind_eq_some ran
      cases returned
      rfl
    exact behind fun _ => bind (iterate (fun _ => entity _) 0 ())
  · unfold readEntityCount
    rw [if_neg single]
    exact bind (bind (ite (bind u8) varint))

theorem worldParticles (validators : Validators) :
    Stops (mcReaderClientboundWorldParticles validators protocol).run := by
  refine behindDecode fun _ => ite (bind varint) ?_
  exact behindDecode fun _ => behindDecode fun _ => behindDecode fun _ => bind (ite (bind double) (bind float))

end Stops

/-- No reader reads anything with a failed reader. -/
theorem PublicReader.stops (validators : Validators) {α : Type} (reading : PublicReader α) :
    Stops (reading.program validators).run := by
  cases reading with
  | bytes size => exact .bytes size
  | skip size => exact .skip size
  | bool => exact .bind .u8
  | i8 => exact .bind .u8
  | u8 => exact .u8
  | i16 => exact .i16
  | u16 => exact .u16
  | i32 => exact .i32
  | u32 => exact .u32
  | i64 => exact .bind .u64
  | u64 => exact .u64
  | float => exact .float
  | double => exact .double
  | varint => exact .varint
  | varlong => exact .bind (.bind .u8)
  | bufferI32 => exact .bind .i32
  | bufferVarint => exact .behind fun _ => .bind .varint
  | string => exact .stringBounded _
  | stringBounded maxSize => exact .stringBounded maxSize
  | nbtName => exact .bind .u16
  | nbtValue type => exact .behind fun _ => .bind (.nbtValueAt _ type)
  | nbt namedRoot => exact .nbt namedRoot
  | uuid => exact .bind .refuseFailed
  | position protocol => exact .bind .refuseFailed
  | plainItem protocol => exact .bind .refuseFailed
  | itemStack protocol wireKind => exact .bind .refuseFailed
  | blockChange protocol => exact .bind .refuseFailed
  | blockEvent protocol => exact .bind .refuseFailed
  | playerPosition protocol => exact .bind .refuseFailed
  | joinGame protocol => exact .ite (.rescue .refuse) (.bind .i32)
  | respawn protocol => exact .rescue (.behind fun _ => .bind (.ite (.bind .i32) (.bind (.ite
      (.bind (.stringBounded _)) (.ite (.bind (.nbt true)) (.bind .varint))))))
  | timeUpdate protocol => exact .ite (.rescue .refuse) (.bind (.bind .u64))
  | playerInfo protocol => exact .playerInfo
  | playerRemove protocol => exact .behindDecode fun _ => .behind fun _ => .bind (.rescue (.bind .varint))
  | removeEntities protocol => exact .removeEntities
  | systemChat protocol => exact .behindDecode fun _ => .bind (.ite (.nbt false) (.stringBounded _))
  | entityMove protocol => exact .entityMovement true false
  | entityMoveLook protocol => exact .entityMovement true true
  | entityLook protocol => exact .entityMovement false true
  | entityStatus protocol => exact .behindDecode fun _ => .rescue (.bind .i32)
  | entitySpawn protocol => exact .behindDecode fun _ => .bind (.rescue .varint)
  | livingEntitySpawn protocol => exact .behindDecode fun _ => .bind (.rescue (.bind .varint))
  | objectSpawn protocol => exact .behindDecode fun _ => .bind (.rescue (.bind .varint))
  | worldParticles protocol => exact .worldParticles validators
  | entityEquipment protocol => exact .ite (.rescue .refuse) (.bind (.entityId protocol))
  | entityHandUseMetadata protocol => exact .behindDecode fun _ => .bind (.entityId protocol)
  | containerOpen protocol =>
      exact .behindDecode fun _ => .ite (.bind (.rescue (.bind .u8)))
        (.ite (.bind .u8) (.bind (.rescue (.bind .varint))))
  | containerData protocol => exact .bind .refuseFailed
  | containerContent protocol => exact .ite (.rescue .refuse) (.bind (.ite (.rescue (.bind .varint)) (.bind .u8)))
  | inventorySlotUpdate protocol direct =>
      exact .ite (.rescue .refuse) (.bind (.ite (.rescue (.bind .varint)) (.bind .u8)))
  | scoreboardObjective protocol => exact .bind (.bind .refuseFailed)
  | scoreboardDisplay protocol => exact .bind (.bind .refuseFailed)
  | scoreboardScore protocol => exact .bind (.bind .refuseFailed)
  | scoreboardReset protocol => exact .bind (.bind .refuseFailed)

/-- A call on a reader. -/
inductive ReaderCall where
  | read {α : Type} (reading : PublicReader α)
  | finish

namespace ReaderCall

/-- Whether the call returns true, and the reader behind it. -/
def run (validators : Validators) (call : ReaderCall) (reader : McReader) : Bool × McReader :=
  match call with
  | .read reading =>
      let (value, after) := (reading.program validators).run reader
      (value.isSome, after)
  | .finish =>
      let (value, after) := mcReaderFinish reader
      (value.isSome, after)

def refusal : ReaderCall → Refusal
  | .read reading => reading.refusal
  | .finish => .coded

/-- The reader after some calls, whatever they returned. -/
def afterAll (validators : Validators) (calls : List ReaderCall) (reader : McReader) : McReader :=
  calls.foldl (fun reader call => (call.run validators reader).2) reader

/-- What a call is to do. -/
structure Behaves (kind : Refusal) (before : McReader) (outcome : Bool × McReader) : Prop where
  sound : outcome.2.Sound
  onward : before.Onward outcome.2
  stops : before.failed = true → outcome.1 = false
  returns : outcome.1 = true → outcome.2.failed = false
  refuses : before.failed = false → outcome.1 = false → kind.Leaves outcome.2

section steps

variable {validators : Validators} {before : McReader}

theorem behaves_read {α : Type} (records : validators.Recording) (sound : before.Sound)
    (reading : PublicReader α) :
    Behaves reading.refusal before ((ReaderCall.read reading).run validators before) := by
  have lawful := (reading.program validators).lawful
  have stops := reading.stops validators before sound
  have lands := reading.refuses records
  have sound' := lawful.keeps before sound
  have onward := lawful.steps before sound
  rcases ran : (reading.program validators).run before with ⟨_ | a, after⟩
  · have outcome : (ReaderCall.read reading).run validators before = (false, after) := by
      simp only [run, ran, Option.isSome_none]
    rw [ran] at sound' onward
    rw [outcome]
    refine ⟨sound', onward, fun _ => rfl, fun returned => (by cases returned), fun clean _ => ?_⟩
    exact lands.refuses before after ⟨sound, clean⟩ ran
  · have outcome : (ReaderCall.read reading).run validators before = (true, after) := by
      simp only [run, ran, Option.isSome_some]
    rw [ran] at sound' onward stops
    have clean : before.failed = false := by
      cases failed : before.failed with
      | false => rfl
      | true => cases stops failed
    rw [outcome]
    refine ⟨sound', onward, fun failed => ?_, fun _ => ?_, fun _ refused => (by cases refused)⟩
    · rw [clean] at failed
      cases failed
    · exact (lands.returns before a after ⟨sound, clean⟩ ran).clean

theorem behaves_finish (sound : before.Sound) :
    Behaves .coded before (ReaderCall.finish.run validators before) := by
  by_cases failed : before.failed = true
  · have outcome : ReaderCall.finish.run validators before = (false, before) := by
      simp only [run, mcReaderFinish, failed, if_true, Option.isSome_none]
    rw [outcome]
    refine ⟨sound, .refl before, fun _ => rfl, fun returned => (by cases returned), fun clean _ => ?_⟩
    rw [failed] at clean
    cases clean
  · have clean : before.failed = false := Bool.not_eq_true _ |>.mp failed
    by_cases behind : before.offset ≠ before.size
    · have outcome : ReaderCall.finish.run validators before =
          (false, before.fail .trailingBytes before.offset) := by
        simp only [run, mcReaderFinish, if_neg failed, if_pos behind, Option.isSome_none]
      rw [outcome]
      have told : (before.fail .trailingBytes before.offset).error.isSome = before.error.isSome := by
        rw [McReader.fail, if_neg failed]
        exact Option.isSome_map
      refine ⟨sound.fail sound.offset_le, ?_, fun _ => rfl, fun returned => (by cases returned),
        fun _ _ => McReader.Clean.fail ⟨sound, clean⟩ (by decide) _⟩
      exact ⟨McReader.fail_data, McReader.fail_mode, Nat.le_of_eq McReader.fail_offset.symm,
        fun failed' => absurd failed' failed, told⟩
    · have outcome : ReaderCall.finish.run validators before = (true, before) := by
        simp only [run, mcReaderFinish, if_neg failed, if_neg behind, Option.isSome_some]
      rw [outcome]
      exact ⟨sound, .refl before, fun failed' => absurd failed' failed, fun _ => clean,
        fun _ refused => (by cases refused)⟩

/-- Each of the calls does what it is to do. -/
theorem behaves (records : validators.Recording) (sound : before.Sound) (call : ReaderCall) :
    Behaves call.refusal before (call.run validators before) := by
  cases call with
  | read reading => exact behaves_read records sound reading
  | finish => exact behaves_finish sound

theorem sound_init (data : List UInt8) (mode : McDecodeMode) (error : Option McError) :
    (mcReaderInitMode data mode error).Sound where
  offset_le := Nat.zero_le _
  clean _ recorded mem := by
    obtain ⟨_, _, rfl⟩ := Option.mem_map.mp mem
    rfl
  bounded recorded mem code := by
    obtain ⟨_, _, rfl⟩ := Option.mem_map.mp mem
    exact absurd rfl code

/-- Any number of calls leaves a sound reader, further on. -/
theorem afterAll_onward (records : validators.Recording) (calls : List ReaderCall)
    (sound : before.Sound) :
    (afterAll validators calls before).Sound ∧ before.Onward (afterAll validators calls before) := by
  induction calls generalizing before with
  | nil => exact ⟨sound, .refl before⟩
  | cons call calls ih =>
      have step := behaves records sound call
      obtain ⟨sound', onward⟩ := ih step.sound
      exact ⟨sound', step.onward.trans onward⟩

end steps

end ReaderCall

/-- Whatever was called before, and whatever is called now: the cursor stays inside the input and
never goes back, a call on a failed reader returns false, the first refusal leaves what its reader is
said to leave, and later calls change nothing about it. -/
theorem reader_calls_stick (validators : Validators) (records : validators.Recording)
    (data : List UInt8) (mode : McDecodeMode) (error : Option McError) (calls : List ReaderCall)
    (call : ReaderCall) (later : List ReaderCall) :
    let reader := ReaderCall.afterAll validators calls (mcReaderInitMode data mode error)
    let outcome := call.run validators reader
    let last := ReaderCall.afterAll validators later outcome.2
    (reader.offset ≤ outcome.2.offset ∧ outcome.2.offset ≤ data.length) ∧
      (reader.failed = false → ∀ recorded ∈ reader.error, recorded.code = .none) ∧
      (outcome.1 = true → reader.failed = false ∧ outcome.2.failed = false) ∧
      (reader.failed = false → outcome.1 = false → call.refusal.Leaves outcome.2) ∧
      (outcome.2.failed = true → last.failed = true ∧ last.offset = outcome.2.offset ∧
        last.error.map McError.verdict = outcome.2.error.map McError.verdict) := by
  intro reader outcome last
  obtain ⟨sound, onward⟩ := ReaderCall.afterAll_onward records calls
    (ReaderCall.sound_init data mode error)
  have step := ReaderCall.behaves records sound call
  have after := ReaderCall.afterAll_onward records later step.sound
  have size : outcome.2.size = data.length :=
    congrArg List.length (step.onward.data_eq.trans onward.data_eq)
  refine ⟨⟨step.onward.offset_le, ?_⟩, sound.clean, fun returned => ⟨?_, step.returns returned⟩,
    step.refuses, after.2.stuck⟩
  · rw [← size]
    exact step.sound.offset_le
  · cases failed : reader.failed with
    | false => rfl
    | true => cases returned.symm.trans (step.stops failed)

/-- Validators of one component, the greatest size of a stack: type 1, and a VarInt. -/
def recordingValidators : Validators where
  zlib := .knowing [] []
  skipSlotComponentType := fun _ _ => do
    let id ← mcReaderVarint
    typedRequire (id = 1)
  skipSlotComponent := fun _ _ => do
    let id ← mcReaderVarint
    typedRequire (id = 1)
    let _ ← mcReaderVarint
  resolvableProfile := fun _ _ => typedRequire False

theorem recordingValidators_recording : recordingValidators.Recording where
  component _ := .bind .varint fun _ => .bind .typedRequire fun _ => .bind .varint fun _ => .pure ()
  componentType _ := .bind .varint fun _ => .typedRequire
  profile _ := (Refuses.typedRequire : Refuses .coded (McProtocol.typedRequire False).run)

/-- Half a VarInt behind a byte: it is said what is missing, and nothing more is read. -/
theorem reader_calls_stick_half :
    let reader := ReaderCall.afterAll recordingValidators [.read .u8]
      (mcReaderInitMode [7, 128] .strict (some mcErrorClear))
    let half := (ReaderCall.read .varint).run recordingValidators reader
    half.1 = false ∧ half.2.Coded ∧
      (ReaderCall.afterAll recordingValidators [.read (.skip 0), .finish] half.2).offset =
        half.2.offset := by
  have sticks := reader_calls_stick recordingValidators recordingValidators_recording [7, 128] .strict
    (some mcErrorClear) [.read .u8] (.read .varint) [.read (.skip 0), .finish]
  have coded := sticks.2.2.2.1 (by decide) (by decide)
  exact ⟨by decide, coded, (sticks.2.2.2.2 coded.failed).2.1⟩

/-- A negative state id is refused, and the reader does not know. -/
example :
    let reader := mcReaderInitMode [0, 255, 255, 255, 255, 15] .strict (some mcErrorClear)
    let refused := (ReaderCall.read (.inventorySlotUpdate 776 false)).run recordingValidators reader
    refused.1 = false ∧ refused.2.failed = false ∧ refused.2.offset = 6 := by decide +kernel

/-- What a caller reads next depends on what was read; it gives up where something is refused. -/
inductive ReaderScript (β : Type) where
  | done (value : β)
  | read {α : Type} (reading : PublicReader α) (rest : α → ReaderScript β)

def ReaderScript.program (validators : Validators) {β : Type} : ReaderScript β → ReadingM β
  | .done value => pure value
  | .read reading rest => do
      let value ← reading.program validators
      (rest value).program validators

/-- A caller that is content with some bytes finds the same in front of more of them, and where
more is allowed. -/
theorem reader_scripts_replay (validators : Validators) {β : Type} (script : ReaderScript β)
    (data more : List UInt8) (mode : McDecodeMode) (error other : Option McError) (value : β)
    (after : McReader)
    (read : (script.program validators).run (mcReaderInitMode data mode error) =
      (some value, after)) (wider : McDecodeMode) (permitted : wider = mode ∨ wider = .vanillaCompat) :
    ∃ last, (script.program validators).run (mcReaderInitMode (data ++ more) wider other) =
      (some value, last) ∧ last.offset = after.offset ∧ last.failed = false := by
  have permits : (mcReaderInitMode data mode error).Permits
      (mcReaderInitMode (data ++ more) wider other) :=
    ⟨rfl, rfl, rfl, List.prefix_append data more, permitted⟩
  obtain ⟨returned, behind⟩ := (script.program validators).lawful.replay _ _ value
    (ReaderCall.sound_init data mode error) (ReaderCall.sound_init (data ++ more) wider other) permits
    (congrArg Prod.fst read)
  rw [read] at behind
  exact ⟨_, Prod.ext returned rfl, behind.offset_eq, behind.right_clean⟩

/-- A length, and as many bytes. -/
theorem reader_scripts_replay_counted :
    ∃ last, ((ReaderScript.read .u8 fun size => .read (.bytes size.toNat) .done).program
        recordingValidators).run (mcReaderInitMode ([2, 3, 5] ++ [8]) .vanillaCompat none) =
      (some [3, 5], last) ∧ last.offset = 3 ∧ last.failed = false :=
  reader_scripts_replay recordingValidators (.read .u8 fun size => .read (.bytes size.toNat) .done)
    [2, 3, 5] [8] .strict (some mcErrorClear) none [3, 5] _ rfl .vanillaCompat (.inr rfl)

end McProtocol
