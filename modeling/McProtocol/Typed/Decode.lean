import McProtocol.Registry
import McProtocol.Typed.Chunk
import McProtocol.Typed.Inventory
import McProtocol.Typed.JoinGame

/-! # Typed packets

`mc_decode_packet` looks a packet up in the catalog, decodes its body by its family and
writes the decoded packet out. Every family is a program over the sticky reader, so what
all of them owe is proved once, from the discipline of those programs.
-/

namespace McProtocol

inductive McPacketFamily where
  | unknown
  | playerMovement
  | playerInput
  | entityAction
  | abilities
  | vehicleMove
  | steerVehicle
  | useEntity
  | attack
  | armAnimation
  | blockDig
  | blockPlace
  | useItem
  | heldItemSlot
  | teleportConfirm
  | windowClick
  | setCreativeSlot
  | clientCommand
  | closeWindow
  | serverPosition
  | entityVelocity
  | explosion
  | entityEffect
  | removeEntityEffect
  | updateAttributes
  | relativeEntityMove
  | entityMoveLook
  | entityTeleport
  | entityHeadRotation
  | entityMetadata
  | attachEntity
  | setPassengers
  | blockChange
  | multiBlockChange
  | mapChunk
  | unloadChunk
  | setSlot
  | windowItems
  | respawn
  | gameStateChange
  | joinGame
  | updateTime
  deriving Repr, DecidableEq

namespace McPacketFamily

def serverbound : List (String × McPacketFamily) := [
  ("flying", .playerMovement),
  ("position", .playerMovement),
  ("look", .playerMovement),
  ("position_look", .playerMovement),
  ("player_input", .playerInput),
  ("entity_action", .entityAction),
  ("abilities", .abilities),
  ("vehicle_move", .vehicleMove),
  ("steer_vehicle", .steerVehicle),
  ("use_entity", .useEntity),
  ("attack", .attack),
  ("arm_animation", .armAnimation),
  ("punch", .armAnimation),
  ("block_dig", .blockDig),
  ("block_place", .blockPlace),
  ("use_item", .useItem),
  ("held_item_slot", .heldItemSlot),
  ("teleport_confirm", .teleportConfirm),
  ("window_click", .windowClick),
  ("set_creative_slot", .setCreativeSlot),
  ("client_command", .clientCommand),
  ("close_window", .closeWindow)]

def clientbound : List (String × McPacketFamily) := [
  ("login", .joinGame),
  ("position", .serverPosition),
  ("entity_velocity", .entityVelocity),
  ("explosion", .explosion),
  ("abilities", .abilities),
  ("entity_effect", .entityEffect),
  ("remove_entity_effect", .removeEntityEffect),
  ("update_attributes", .updateAttributes),
  ("entity_update_attributes", .updateAttributes),
  ("rel_entity_move", .relativeEntityMove),
  ("entity_move_look", .entityMoveLook),
  ("entity_teleport", .entityTeleport),
  ("sync_entity_position", .entityTeleport),
  ("entity_head_rotation", .entityHeadRotation),
  ("entity_metadata", .entityMetadata),
  ("attach_entity", .attachEntity),
  ("set_passengers", .setPassengers),
  ("block_change", .blockChange),
  ("multi_block_change", .multiBlockChange),
  ("map_chunk", .mapChunk),
  ("unload_chunk", .unloadChunk),
  ("set_slot", .setSlot),
  ("window_items", .windowItems),
  ("close_window", .closeWindow),
  ("held_item_slot", .heldItemSlot),
  ("respawn", .respawn),
  ("game_state_change", .gameStateChange),
  ("update_time", .updateTime)]

/-- `packet_family_from_table`. -/
def fromTable (table : List (String × McPacketFamily)) (name : String) : McPacketFamily :=
  (table.lookup name).getD .unknown

end McPacketFamily

/-- `mc_packet_family` of a packet with that name. -/
def mcPacketFamily (state : McState) (direction : McPacketDirection) (name : String) :
    McPacketFamily :=
  if state ≠ .play then .unknown
  else
    match direction with
    | .serverbound => .fromTable McPacketFamily.serverbound name
    | .clientbound => .fromTable McPacketFamily.clientbound name

/-- `McTypedPacketStorage`, with the member that holds the packet. -/
inductive McTypedPacket where
  | movement (value : McPlayerMovementPacket)
  | input (value : McPlayerInputPacket)
  | action (value : McEntityAction)
  | abilities (value : McPlayerAbilities)
  | vehicle (value : McVehicleMovePacket)
  | useEntity (value : McUseEntityPacket)
  | arm (value : McArmAnimationPacket)
  | dig (value : McBlockDig)
  | place (value : McBlockPlace)
  | useItem (value : McUseItem)
  | held (value : McHeldItemSlotPacket)
  | teleportConfirm (value : McTeleportConfirmPacket)
  | command (value : McClientCommandPacket)
  | closeWindow (value : McCloseWindowPacket)
  | serverPosition (value : McClientboundPlayerPosition)
  | velocity (value : McEntityVelocityPacket)
  | entityMove (value : McEntityMovePacket)
  | entityTeleport (value : McEntityTeleportPacket)
  | headRotation (value : McEntityHeadRotationPacket)
  | blockChange (value : McBlockChangePacket)
  | windowClick (value : McWindowClickPacket)
  | creativeSlot (value : McSetCreativeSlotPacket)
  | setSlot (value : McSetSlotPacket)
  | windowItems (value : McWindowItemsPacket)
  | multiBlockChange (value : McMultiBlockChangePacket)
  | explosion (value : McExplosionPacket)
  | entityEffect (value : McEntityEffectPacket)
  | removeEntityEffect (value : McRemoveEntityEffectPacket)
  | attributes (value : McUpdateAttributesPacket)
  | metadata (value : McEntityMetadataPacket)
  | attachEntity (value : McAttachEntityPacket)
  | passengers (value : McPassengersPacket)
  | unloadChunk (value : McUnloadChunkPacket)
  | respawn (value : McRespawnPacket)
  | gameState (value : McGameStateChangePacket)
  | joinGame (value : McJoinGamePacket)
  | timeUpdate (value : McTimeUpdatePacket)
  | chunk (value : McChunkEnvelope)
  deriving Repr, DecidableEq

def typedDecodeDispatch (validators : Validators) (protocol : Int)
    (direction : McPacketDirection) (name : String) :
    McPacketFamily → DecodeM protocol McTypedPacket
  | .playerMovement => .movement <$> typedDecodeMovement protocol name
  | .playerInput => .input <$> typedDecodePlayerInput protocol true
  | .steerVehicle => .input <$> typedDecodePlayerInput protocol false
  | .entityAction => .action <$> typedDecodeEntityAction protocol
  | .abilities => .abilities <$> typedDecodeAbilities protocol direction
  | .vehicleMove => .vehicle <$> typedDecodeVehicleMove protocol
  | .useEntity => .useEntity <$> typedDecodeUseEntity protocol false
  | .attack => .useEntity <$> typedDecodeUseEntity protocol true
  | .armAnimation => .arm <$> typedDecodeArmAnimation protocol
  | .blockDig => .dig <$> typedDecodeBlockDig protocol
  | .blockPlace => .place <$> typedDecodeBlockPlace protocol
  | .useItem => .useItem <$> typedDecodeUseItem protocol
  | .heldItemSlot => .held <$> typedDecodeHeldItemSlot direction protocol
  | .teleportConfirm => .teleportConfirm <$> typedDecodeTeleportConfirm protocol
  | .clientCommand => .command <$> typedDecodeClientCommand protocol
  | .closeWindow => .closeWindow <$> typedDecodeCloseWindow protocol
  | .serverPosition => .serverPosition <$> mcReaderClientboundPlayerPosition protocol
  | .entityVelocity => .velocity <$> typedDecodeEntityVelocity protocol
  | .relativeEntityMove => .entityMove <$> typedDecodeEntityMove protocol false
  | .entityMoveLook => .entityMove <$> typedDecodeEntityMove protocol true
  | .entityTeleport => .entityTeleport <$> typedDecodeEntityTeleport protocol name
  | .entityHeadRotation => .headRotation <$> typedDecodeEntityHeadRotation protocol
  | .blockChange => .blockChange <$> typedDecodeBlockChange protocol
  | .windowClick => .windowClick <$> validators.typedDecodeWindowClick protocol
  | .setCreativeSlot => .creativeSlot <$> validators.typedDecodeSetCreativeSlot protocol
  | .setSlot => .setSlot <$> validators.typedDecodeSetSlot protocol
  | .windowItems => .windowItems <$> validators.typedDecodeWindowItems protocol
  | .multiBlockChange => .multiBlockChange <$> typedDecodeMultiBlockChange protocol
  | .explosion => .explosion <$> typedDecodeExplosion validators protocol
  | .entityEffect => .entityEffect <$> typedDecodeEntityEffect protocol
  | .removeEntityEffect => .removeEntityEffect <$> typedDecodeRemoveEntityEffect protocol
  | .updateAttributes => .attributes <$> typedDecodeAttributes protocol
  | .entityMetadata => .metadata <$> typedDecodeMetadata validators protocol
  | .attachEntity => .attachEntity <$> typedDecodeAttachEntity protocol
  | .setPassengers => .passengers <$> typedDecodePassengers
  | .unloadChunk => .unloadChunk <$> typedDecodeUnloadChunk protocol
  | .respawn => .respawn <$> typedDecodeRespawn protocol
  | .gameStateChange => .gameState <$> typedDecodeGameState
  | .joinGame => .joinGame <$> mcReaderClientboundJoinGame protocol
  | .updateTime => .timeUpdate <$> mcReaderClientboundTimeUpdate protocol
  | .mapChunk => .chunk <$> typedDecodeChunk validators protocol
  | .unknown => reject .invalidPacketBody 0

/-- How the compiler lays the packets out: the sizes of the structures, and the bytes of
the union that holds a decoded packet. -/
structure PacketLayout where
  sizeOf : McPacketFamily → Nat
  image : McTypedPacket → List UInt8
  sizeOf_pos : ∀ family, 0 < sizeOf family
  sizeOf_le : ∀ family packet, sizeOf family ≤ (image packet).length

def mcPacketDecodedSize (layout : PacketLayout) : McPacketFamily → Nat
  | .unknown => 0
  | family => layout.sizeOf family

/-- What decoding is given besides its arguments: the generated catalog, other code, and
the layout of the structures. -/
structure PacketLibrary where
  catalog : McPacketCatalog
  validators : Validators
  layout : PacketLayout

/-- The arguments of `mc_decode_packet`, the enumerations as the integers they are. -/
structure McDecodeArguments where
  protocol : Int
  state : Int
  direction : Int
  packetId : Int
  payload : Buffer
  mode : Int
  /-- The memory the packet goes to, unless the pointer is null. -/
  output : Option (List UInt8)
  /-- Where the family goes, unless the pointer is null. -/
  family : Option McPacketFamily

/-- What a call leaves behind. The packet is there when `0` is returned. -/
structure McDecodeOutcome where
  packet : Option McTypedPacket
  output : Option (List UInt8)
  family : Option McPacketFamily
  error : Option McError

/-- A packet whose body can be decoded. -/
structure SelectedPacket where
  direction : McPacketDirection
  name : String
  family : McPacketFamily

namespace McDecodeArguments

/-- The enumerators from `MC_STATE_LOGIN` to `MC_STATE_STATUS`. -/
def connectionState (arguments : McDecodeArguments) : Option McState :=
  if arguments.state = 1 then some .login
  else if arguments.state = 2 then some .configuration
  else if arguments.state = 3 then some .play
  else if arguments.state = 4 then some .status
  else none

def packetDirection (arguments : McDecodeArguments) : Option McPacketDirection :=
  if arguments.direction = 0 then some .serverbound
  else if arguments.direction = 1 then some .clientbound
  else none

def decodeMode (arguments : McDecodeArguments) : Option McDecodeMode :=
  if arguments.mode = 0 then some .vanillaCompat
  else if arguments.mode = 1 then some .strict
  else none

/-- `typed_error_init`. -/
def errorInit (arguments : McDecodeArguments) (error : Option McError) : Option McError :=
  error.map fun _ => { mcErrorClear with
    protocol := arguments.protocol
    state := arguments.state
    direction := arguments.direction
    packetId := arguments.packetId }

/-- The checks in front of the body. The family is written as soon as the packet is known. -/
def select (library : PacketLibrary) (arguments : McDecodeArguments) :
    Option McPacketFamily × Except (McErrorCode × Nat) SelectedPacket :=
  let refuse code := (arguments.family, Except.error (code, mcErrorOffsetUnknown))
  if arguments.payload.Missing ∨ arguments.output = none ∨ arguments.family = none
      ∨ arguments.decodeMode = none then refuse .invalidArgument
  else if mcProtocolSupported arguments.protocol = false then refuse .unsupportedProtocol
  else
    match arguments.connectionState, arguments.packetDirection with
    | none, _ => refuse .invalidState
    | some _, none => refuse .invalidDirection
    | some state, some direction =>
        match library.catalog.mcPacketName arguments.protocol state direction
            arguments.packetId with
        | none => refuse .unknownPacket
        | some name =>
            let family := mcPacketFamily state direction name
            let required := mcPacketDecodedSize library.layout family
            if required = 0 then (some family, .error (.unknownPacket, 0))
            else if (arguments.output.getD []).length < required then
              (some family, .error (.invalidArgument, mcErrorOffsetUnknown))
            else (some family, .ok ⟨direction, name, family⟩)

/-- The body is reached. -/
def PassesChecks (arguments : McDecodeArguments) (library : PacketLibrary) : Prop :=
  ∃ selected, (arguments.select library).2 = .ok selected

end McDecodeArguments

/-- The body of a selected packet. -/
def SelectedPacket.decode (selected : SelectedPacket) (validators : Validators) (protocol : Int) :
    DecodeM protocol McTypedPacket :=
  typedDecodeDispatch validators protocol selected.direction selected.name selected.family

/-- The body, and nothing behind it. -/
def SelectedPacket.decodeWhole (selected : SelectedPacket) (validators : Validators) (protocol : Int) :
    Prog McReader McTypedPacket := do
  let packet ← (selected.decode validators protocol).run
  mcReaderFinish
  pure packet

def mcDecodePacket (library : PacketLibrary) (arguments : McDecodeArguments)
    (error : Option McError) : McDecodeOutcome :=
  let error := arguments.errorInit error
  match arguments.select library with
  | (family, .error (code, offset)) =>
      ⟨none, arguments.output, family, error.map (recordError · code offset)⟩
  | (family, .ok selected) =>
      let mode := arguments.decodeMode.getD .vanillaCompat
      -- `mc_reader_init_mode` clears the error, which is then stamped again
      let reader := { mcReaderInitMode arguments.payload.content mode error with error := error }
      match selected.decodeWhole library.validators arguments.protocol reader with
      | (none, reader) =>
          ⟨none, arguments.output, family,
            reader.error.map (recordError · .invalidPacketBody reader.offset)⟩
      | (some packet, reader) =>
          let required := mcPacketDecodedSize library.layout selected.family
          ⟨some packet, arguments.output.map fun output =>
              (library.layout.image packet).take required ++ output.drop required,
            family, reader.error⟩

variable {library : PacketLibrary} {arguments : McDecodeArguments} {error : Option McError}
variable {packet : McTypedPacket}

/-- The reader a body is decoded with. -/
def McDecodeArguments.bodyReader (arguments : McDecodeArguments) (error : Option McError) :
    McReader :=
  { mcReaderInitMode arguments.payload.content (arguments.decodeMode.getD .vanillaCompat)
      (arguments.errorInit error) with
    error := arguments.errorInit error }

theorem bodyReader_before :
    (arguments.bodyReader error).Before arguments.payload.content where
  clean := rfl
  inside := Nat.zero_le _
  drop_eq := rfl

theorem bodyReader_sound : (arguments.bodyReader error).Sound := by
  refine ⟨Nat.zero_le _, fun _ found mem => ?_, fun found mem recorded => ?_⟩
  · obtain ⟨_, _, rfl⟩ := Option.mem_map.mp mem
    rfl
  · obtain ⟨_, _, rfl⟩ := Option.mem_map.mp mem
    exact absurd rfl recorded

/-- A whole body was decoded exactly when the family accepted, and read all of it. -/
theorem decodeWhole_eq_some {selected : SelectedPacket} {validators : Validators} {protocol : Int}
    {reader after : McReader} :
    selected.decodeWhole validators protocol reader = (some packet, after) ↔
      (selected.decode validators protocol).run reader = (some packet, after) ∧
        after.failed = false ∧ after.offset = after.size :=
  then_finish_eq_some

/-- What a call does once a packet is selected. -/
theorem mcDecodePacket_selected {family : Option McPacketFamily} {selected : SelectedPacket}
    (chosen : arguments.select library = (family, .ok selected)) :
    mcDecodePacket library arguments error =
      match selected.decodeWhole library.validators arguments.protocol
          (arguments.bodyReader error) with
      | (none, reader) =>
          ⟨none, arguments.output, family,
            reader.error.map (recordError · .invalidPacketBody reader.offset)⟩
      | (some packet, reader) =>
          let required := mcPacketDecodedSize library.layout selected.family
          ⟨some packet, arguments.output.map fun output =>
              (library.layout.image packet).take required ++ output.drop required,
            family, reader.error⟩ := by
  rw [mcDecodePacket, chosen]
  rfl

/-- What it takes for a call to return a packet. -/
theorem mcDecodePacket_packet_iff :
    (mcDecodePacket library arguments error).packet = some packet ↔
      ∃ selected after, (arguments.select library).2 = .ok selected ∧
        (selected.decode library.validators arguments.protocol).run
            (arguments.bodyReader error) = (some packet, after) ∧
          after.failed = false ∧ after.offset = after.size := by
  rcases checked : arguments.select library with ⟨family, ⟨code, offset⟩ | selected⟩
  · rw [mcDecodePacket, checked]
    simp
  · rw [mcDecodePacket_selected checked]
    rcases run : selected.decodeWhole library.validators arguments.protocol
      (arguments.bodyReader error) with ⟨_ | decoded, after⟩
    · constructor
      · intro returned
        cases returned
      · rintro ⟨_, after', same, accepted⟩
        cases same
        rw [decodeWhole_eq_some.mpr accepted] at run
        cases run
    · constructor
      · intro returned
        cases returned
        exact ⟨selected, after, rfl, decodeWhole_eq_some.mp run⟩
      · rintro ⟨_, after', same, accepted⟩
        cases same
        rw [decodeWhole_eq_some.mpr accepted] at run
        cases run
        rfl

theorem mcDecodePacket_family :
    (mcDecodePacket library arguments error).family = (arguments.select library).1 := by
  rw [mcDecodePacket]
  rcases checked : arguments.select library with ⟨family, ⟨code, offset⟩ | selected⟩
  · rfl
  · simp only
    split <;> rfl

/-- What a body accepts it accepts again with more behind it and in compat mode, and it
stops at the same place. -/
theorem decode_replay {selected : SelectedPacket} {validators : Validators} {protocol : Int}
    {reader other after : McReader} (sound : reader.Sound) (soundOther : other.Sound)
    (permits : McReader.Permits reader other)
    (run : (selected.decode validators protocol).run reader = (some packet, after)) :
    ∃ after', (selected.decode validators protocol).run other = (some packet, after') ∧
      McReader.Permits after after' := by
  have lawful := (selected.decode validators protocol).lawful
  obtain ⟨value, below⟩ := lawful.replay reader other packet sound soundOther permits (by rw [run])
  rw [run] at below
  exact ⟨_, Prod.ext value rfl, below⟩

theorem decode_size {selected : SelectedPacket} {validators : Validators} {protocol : Int}
    {reader after : McReader} {outcome : Option McTypedPacket} (sound : reader.Sound)
    (run : (selected.decode validators protocol).run reader = (outcome, after)) :
    after.size = reader.size := by
  have kept := ((selected.decode validators protocol).lawful.steps reader sound).data_eq
  rw [run] at kept
  rw [McReader.size, McReader.size, kept]

/-- The payload decides nothing in front of the body. -/
theorem select_payload (payload other : List UInt8) :
    ({ arguments with payload := .bytes payload } : McDecodeArguments).select library =
      ({ arguments with payload := .bytes other } : McDecodeArguments).select library := rfl

/-- What is accepted is rejected with anything behind it. -/
theorem mcDecodePacket_append {payload tail : List UInt8} (proper : tail ≠ [])
    (accepted : (mcDecodePacket library { arguments with payload := .bytes payload } error).packet
      = some packet) :
    (mcDecodePacket library { arguments with payload := .bytes (payload ++ tail) } error).packet
      = none := by
  obtain ⟨selected, after, chosen, run, clean, whole⟩ := mcDecodePacket_packet_iff.mp accepted
  rw [Option.eq_none_iff_forall_not_mem]
  intro packet' accepted'
  obtain ⟨selected', last, chosen', run', _, whole'⟩ := mcDecodePacket_packet_iff.mp accepted'
  rw [select_payload (payload ++ tail) payload, chosen] at chosen'
  cases chosen'
  have permits : McReader.Permits
      (McDecodeArguments.bodyReader { arguments with payload := .bytes payload } error)
      (McDecodeArguments.bodyReader { arguments with payload := .bytes (payload ++ tail) } error) :=
    ⟨rfl, rfl, rfl, List.prefix_append payload tail, .inl rfl⟩
  obtain ⟨again, ran, below⟩ :=
    decode_replay bodyReader_sound bodyReader_sound permits run
  have stops : after.size = payload.length := decode_size bodyReader_sound run
  have stops' : last.size = (payload ++ tail).length := decode_size bodyReader_sound run'
  rw [ran] at run'
  cases run'
  have length : 0 < tail.length := List.length_pos_of_ne_nil proper
  have same := below.offset_eq
  rw [List.length_append] at stops'
  omega

/-- No two accepted payloads of one packet are a payload and its proper extension. -/
theorem mcDecodePacket_prefix_free (library : PacketLibrary) (arguments : McDecodeArguments)
    (error : Option McError) (payload : List UInt8)
    (accepted : (mcDecodePacket library { arguments with payload := .bytes payload } error).packet
      ≠ none) :
    (∀ front, front <+: payload → front ≠ payload →
      (mcDecodePacket library { arguments with payload := .bytes front } error).packet = none) ∧
    (∀ tail, tail ≠ [] →
      (mcDecodePacket library { arguments with payload := .bytes (payload ++ tail) } error).packet
        = none) := by
  obtain ⟨packet, accepted⟩ := Option.ne_none_iff_exists'.mp accepted
  constructor
  · rintro front ⟨tail, rfl⟩ proper
    rw [Option.eq_none_iff_forall_not_mem]
    intro packet' accepted'
    have short : (mcDecodePacket library { arguments with payload := .bytes (front ++ tail) }
        error).packet = none := mcDecodePacket_append (by simpa using proper) accepted'
    rw [short] at accepted
    cases accepted
  · intro tail proper
    exact mcDecodePacket_append proper accepted

/-- A library for packets of one size, which no validator and no compressed data occur in. -/
def plainLibrary (names : List String) (size : Nat) (positive : 0 < size) : PacketLibrary where
  catalog := ⟨fun _ _ _ => names⟩
  validators :=
    { zlib := .knowing [] []
      skipSlotComponent := fun _ _ => .refuse
      skipSlotComponentType := fun _ _ => .refuse
      resolvableProfile := fun _ _ => .refuse }
  layout :=
    { sizeOf := fun _ => size
      image := fun _ => List.replicate size 0
      sizeOf_pos := fun _ => positive
      sizeOf_le := fun _ _ => (List.length_replicate ..).ge }

/-- The call that decodes a packet of the play state. -/
def playArguments (protocol direction packetId mode : Int) (payload : List UInt8) (size : Nat) :
    McDecodeArguments where
  protocol := protocol
  state := 3
  direction := direction
  packetId := packetId
  payload := .bytes payload
  mode := mode
  output := some (List.replicate size 0)
  family := some .unknown

theorem mcDecodePacket_prefix_free_slot :
    (mcDecodePacket (plainLibrary ["held_item_slot"] 4 (by decide))
      { playArguments 47 0 0 1 [] 4 with payload := .bytes ([0, 3] ++ [0]) } none).packet = none :=
  (mcDecodePacket_prefix_free (plainLibrary ["held_item_slot"] 4 (by decide))
    (playArguments 47 0 0 1 [] 4) none [0, 3] (by decide +kernel)).2 [0] (by decide)

/-- Both modes select the same packet. -/
theorem select_mode : ({ arguments with mode := 0 } : McDecodeArguments).select library =
    ({ arguments with mode := 1 } : McDecodeArguments).select library := by
  unfold McDecodeArguments.select
  have strict : ({ arguments with mode := 1 } : McDecodeArguments).decodeMode = some .strict := rfl
  have compat : ({ arguments with mode := 0 } : McDecodeArguments).decodeMode =
      some .vanillaCompat := rfl
  simp only [strict, compat, reduceCtorEq]
  rfl

/-- What strict mode accepts compat mode accepts too, as the same packet of the same
family. -/
theorem mcDecodePacket_strict_refines (library : PacketLibrary) (arguments : McDecodeArguments)
    (error : Option McError) (packet : McTypedPacket)
    (accepted : (mcDecodePacket library { arguments with mode := 1 } error).packet = some packet) :
    (mcDecodePacket library { arguments with mode := 0 } error).packet = some packet ∧
      (mcDecodePacket library { arguments with mode := 0 } error).family =
        (mcDecodePacket library { arguments with mode := 1 } error).family := by
  obtain ⟨selected, after, chosen, run, clean, whole⟩ := mcDecodePacket_packet_iff.mp accepted
  have permits : McReader.Permits
      (McDecodeArguments.bodyReader { arguments with mode := 1 } error)
      (McDecodeArguments.bodyReader { arguments with mode := 0 } error) :=
    ⟨rfl, rfl, rfl, List.prefix_rfl, .inr rfl⟩
  obtain ⟨last, ran, below⟩ := decode_replay bodyReader_sound bodyReader_sound permits run
  have stops := decode_size bodyReader_sound run
  have stops' := decode_size bodyReader_sound ran
  constructor
  · refine mcDecodePacket_packet_iff.mpr ⟨selected, last, ?_, ran, below.right_clean, ?_⟩
    · rw [select_mode]
      exact chosen
    · rw [below.offset_eq, whole, stops, stops']
      rfl
  · rw [mcDecodePacket_family, mcDecodePacket_family, select_mode]

theorem mcDecodePacket_strict_refines_slot :
    (mcDecodePacket (plainLibrary ["held_item_slot"] 4 (by decide))
      { playArguments 47 0 0 1 [0, 3] 4 with mode := 0 } none).packet = some (.held ⟨3⟩) :=
  (mcDecodePacket_strict_refines (plainLibrary ["held_item_slot"] 4 (by decide))
    (playArguments 47 0 0 1 [0, 3] 4) none (.held ⟨3⟩) (by decide +kernel)).1

/-- The error names the packet it is about. -/
structure McError.Names (error : McError) (arguments : McDecodeArguments) : Prop where
  protocol : error.protocol = arguments.protocol
  state : error.state = arguments.state
  direction : error.direction = arguments.direction
  packetId : error.packetId = arguments.packetId

theorem McError.Names.record {found : McError} (names : found.Names arguments)
    (code : McErrorCode) (offset : Nat) : (recordError found code offset).Names arguments := by
  unfold recordError
  split_ifs
  · exact names
  · exact ⟨names.protocol, names.state, names.direction, names.packetId⟩

theorem recordError_code {found : McError} {code : McErrorCode} {offset : Nat}
    (coded : code ≠ .none) : (recordError found code offset).code ≠ .none := by
  unfold recordError
  split_ifs with recorded
  · exact recorded
  · exact coded

/-- The checks refuse with a code of their own, or select a packet that fits the output. -/
theorem select_cases (library : PacketLibrary) (arguments : McDecodeArguments) :
    (∃ family code offset, arguments.select library = (family, .error (code, offset)) ∧
      code ≠ .none) ∨
    ∃ selected output, arguments.select library = (some selected.family, .ok selected) ∧
      arguments.output = some output ∧
      mcPacketDecodedSize library.layout selected.family ≤ output.length := by
  unfold McDecodeArguments.select
  split_ifs with present supported
  · exact .inl ⟨_, _, _, rfl, nofun⟩
  · exact .inl ⟨_, _, _, rfl, nofun⟩
  · rcases arguments.connectionState with _ | state
    · exact .inl ⟨_, _, _, rfl, nofun⟩
    · rcases arguments.packetDirection with _ | direction
      · exact .inl ⟨_, _, _, rfl, nofun⟩
      · simp only
        rcases library.catalog.mcPacketName arguments.protocol state direction
          arguments.packetId with _ | name
        · exact .inl ⟨_, _, _, rfl, nofun⟩
        · simp only
          split_ifs with undecoded short
          · exact .inl ⟨_, _, _, rfl, nofun⟩
          · exact .inl ⟨_, _, _, rfl, nofun⟩
          · push Not at present
            obtain ⟨output, there⟩ := Option.ne_none_iff_exists'.mp present.2.1
            rw [there] at short
            exact .inr ⟨⟨direction, name, _⟩, output, rfl, there, not_lt.mp short⟩

theorem decodedSize_le (layout : PacketLayout) (family : McPacketFamily) :
    mcPacketDecodedSize layout family ≤ (layout.image packet).length := by
  cases family with
  | unknown => exact Nat.zero_le _
  | _ => exact layout.sizeOf_le _ packet

/-- What decoding a body leaves of the error it was given. -/
theorem decodeWhole_error {selected : SelectedPacket} {validators : Validators}
    {before : McError} {outcome : Option McTypedPacket} {after : McReader}
    (run : selected.decodeWhole validators arguments.protocol
      (arguments.bodyReader (some before)) = (outcome, after)) :
    after.Sound ∧ after.size = arguments.payload.content.length ∧
      ∃ found, after.error = some found ∧ found.Names arguments := by
  have sound : (arguments.bodyReader (some before)).Sound := bodyReader_sound
  have body := (selected.decode validators arguments.protocol).lawful
  have kept := body.keeps _ sound
  have moved := body.steps _ sound
  rcases ran : (selected.decode validators arguments.protocol).run
    (arguments.bodyReader (some before)) with ⟨decoded, middle⟩
  rw [ran] at kept moved
  have size : middle.size = arguments.payload.content.length := decode_size sound ran
  obtain ⟨found, error, names⟩ : ∃ found, middle.error = some found ∧ found.Names arguments := by
    rcases error : middle.error with _ | found
    · have stamped := moved.stamped
      rw [error] at stamped
      cases stamped
    · have stamped := moved.stamped
      rw [error] at stamped
      cases stamped with
      | some stamped =>
          exact ⟨found, rfl, stamped.protocol.elim id id, stamped.state, stamped.direction,
            stamped.packetId⟩
  -- the end of the payload is looked for with the reader the body left
  obtain kept' | finished : after = middle ∨ after = middle.fail .trailingBytes middle.offset := by
    cases decoded with
    | none => exact .inl (congrArg Prod.snd ((Prog.bind_none ran).symm.trans run)).symm
    | some packet =>
        have last := (Prog.bind_some ran).symm.trans run
        by_cases failed : middle.failed = true
        · have finish : mcReaderFinish middle = (none, middle) := if_pos failed
          exact .inl (congrArg Prod.snd ((Prog.bind_none finish).symm.trans last)).symm
        · by_cases whole : middle.offset = middle.size
          · have finish : mcReaderFinish middle = (some (), middle) := by
              rw [mcReaderFinish, if_neg failed, if_neg (not_not.mpr whole)]
            exact .inl (congrArg Prod.snd ((Prog.bind_some finish).symm.trans last)).symm
          · have finish : mcReaderFinish middle =
                (none, middle.fail .trailingBytes middle.offset) := by
              rw [mcReaderFinish, if_neg failed, if_pos whole]
            exact .inr (congrArg Prod.snd ((Prog.bind_none finish).symm.trans last)).symm
  · subst kept'
    exact ⟨kept, size, found, error, names⟩
  · subst finished
    refine ⟨kept.fail kept.offset_le, by rw [McReader.fail_size, size], ?_⟩
    unfold McReader.fail
    split_ifs
    · exact ⟨found, error, names⟩
    · exact ⟨_, by rw [error]; rfl, names.record _ _⟩

/-- What a refused call leaves: its output, and an error that says why, about which packet
and, once the body was reached, where in it. -/
structure McDecodeOutcome.Refused (outcome : McDecodeOutcome) (library : PacketLibrary)
    (arguments : McDecodeArguments) : Prop where
  output_eq : outcome.output = arguments.output
  explained : ∃ error, outcome.error = some error ∧ error.code ≠ .none ∧ error.Names arguments ∧
    (arguments.PassesChecks library → error.offset ≤ arguments.payload.size)

/-- What a call that decoded `packet` leaves: no error, and the packet in the first bytes of
its output. -/
structure McDecodeOutcome.Returned (outcome : McDecodeOutcome) (library : PacketLibrary)
    (arguments : McDecodeArguments) (packet : McTypedPacket) : Prop where
  silent : ∃ error, outcome.error = some error ∧ error.code = .none
  written : ∃ family output, outcome.family = some family ∧ arguments.output = some output ∧
    mcPacketDecodedSize library.layout family ≤ output.length ∧
    outcome.output = some ((library.layout.image packet).take
        (mcPacketDecodedSize library.layout family) ++
      output.drop (mcPacketDecodedSize library.layout family))

theorem content_length_le (buffer : Buffer) : buffer.content.length ≤ buffer.size := by
  cases buffer with
  | null size => exact Nat.zero_le _
  | bytes content => exact Nat.le_refl _

theorem names_errorInit (before : McError) :
    ∃ error, arguments.errorInit (some before) = some error ∧ error.code = .none ∧
      error.Names arguments :=
  ⟨_, rfl, rfl, rfl, rfl, rfl, rfl⟩

/-- Every call that is given an error either refuses or returns a packet, and leaves what it
owes then. -/
theorem mcDecodePacket_error_discipline (library : PacketLibrary) (arguments : McDecodeArguments)
    (before : McError) :
    let outcome := mcDecodePacket library arguments (some before)
    (outcome.packet = none ∧ outcome.Refused library arguments) ∨
      ∃ packet, outcome.packet = some packet ∧ outcome.Returned library arguments packet := by
  intro outcome
  obtain ⟨family, code, offset, refused, coded⟩ | ⟨selected, output, chosen, there, fits⟩ :=
    select_cases library arguments
  · have result : outcome = ⟨none, arguments.output, family,
        (arguments.errorInit (some before)).map (recordError · code offset)⟩ := by
      simp only [outcome, mcDecodePacket, refused]
    obtain ⟨error, stamped, _, names⟩ : ∃ error, arguments.errorInit (some before) = some error ∧
        error.code = .none ∧ error.Names arguments := names_errorInit before
    rw [result, stamped]
    refine .inl ⟨rfl, rfl, _, rfl, recordError_code coded, names.record _ _, ?_⟩
    rintro ⟨selected, passed⟩
    rw [refused] at passed
    cases passed
  · rcases run : selected.decodeWhole library.validators arguments.protocol
      (arguments.bodyReader (some before)) with ⟨_ | packet, after⟩
    · have coded : McErrorCode.invalidPacketBody ≠ .none := by decide
      have result : outcome = ⟨none, arguments.output, some selected.family,
          after.error.map (recordError · .invalidPacketBody after.offset)⟩ := by
        rw [show outcome = _ from mcDecodePacket_selected chosen, run]
      obtain ⟨sound, size, found, error, names⟩ := decodeWhole_error run
      have inside : (recordError found .invalidPacketBody after.offset).offset ≤ after.size := by
        by_cases recorded : found.code = .none
        · rw [recordError, if_neg (not_not.mpr recorded)]
          exact sound.offset_le
        · rw [recordError, if_pos recorded]
          exact sound.bounded found error recorded
      rw [result, error]
      exact .inl ⟨rfl, rfl, _, rfl, recordError_code coded, names.record _ _, fun _ =>
        inside.trans (size ▸ content_length_le arguments.payload)⟩
    · have result : outcome = ⟨some packet, arguments.output.map fun output =>
            (library.layout.image packet).take (mcPacketDecodedSize library.layout selected.family)
              ++ output.drop (mcPacketDecodedSize library.layout selected.family),
          some selected.family, after.error⟩ := by
        rw [show outcome = _ from mcDecodePacket_selected chosen, run]
      obtain ⟨sound, _, found, error, _⟩ := decodeWhole_error run
      have clean : after.failed = false := (decodeWhole_eq_some.mp run).2.1
      rw [result]
      exact .inr ⟨packet, rfl, ⟨found, error, sound.clean clean found error⟩,
        selected.family, output, rfl, there, fits, by rw [there]; rfl⟩

end McProtocol
