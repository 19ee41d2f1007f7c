import McProtocol.Catalog
import McProtocol.RoundTrip
import McProtocol.Typed.Decode

/-! # Canonical packets

A canonical packet is a typed packet without its release: the packets that move something,
and those of an action of the player, each as one structure. What a player does is seen the
same way in it whichever release it was encoded for.
-/

namespace McProtocol

structure McCanonicalHeader where
  protocol : Int
  state : Int
  direction : Int
  packetId : Int
  family : McPacketFamily
  rawPayload : Buffer
  deriving Repr, DecidableEq

/-- What a call leaves: what it returned, what its output pointer points to, unless that is
null, and the error. -/
structure CanonicalCall (α : Type) where
  returned : Bool
  output : Option α
  error : Option McError

/-- `sizeof(McTypedPacketStorage)`: the union is of one size, whichever packet it holds. -/
def PacketLayout.storageSize (layout : PacketLayout) : Nat :=
  (layout.image (.command ⟨0⟩)).length

/-- The call that decodes the payload of a header into zeroed storage. -/
def McCanonicalHeader.arguments (header : McCanonicalHeader) (layout : PacketLayout) (mode : Int) :
    McDecodeArguments where
  protocol := header.protocol
  state := header.state
  direction := header.direction
  packetId := header.packetId
  payload := header.rawPayload
  mode := mode
  output := some (List.replicate layout.storageSize 0)
  family := some .unknown

/-- The family of a packet, or what is wrong with its names. -/
def McDecodeArguments.packetFamily (arguments : McDecodeArguments) (catalog : McPacketCatalog) :
    Except McErrorCode McPacketFamily :=
  if mcProtocolSupported arguments.protocol = false then .error .unsupportedProtocol
  else
    match arguments.connectionState, arguments.packetDirection with
    | none, _ => .error .invalidState
    | some _, none => .error .invalidDirection
    | some state, some direction =>
        match catalog.mcPacketName arguments.protocol state direction arguments.packetId with
        | none => .error .unknownPacket
        | some name => .ok (mcPacketFamily state direction name)

def mcCanonicalHeaderInit (library : PacketLibrary) (header : Option McCanonicalHeader)
    (protocol state direction packetId : Int) (payload : Buffer) (error : Option McError) :
    CanonicalCall McCanonicalHeader :=
  let wrapped : McCanonicalHeader := ⟨protocol, state, direction, packetId, .unknown, payload⟩
  let arguments := wrapped.arguments library.layout 0
  let error := arguments.errorInit error
  let refuse code := CanonicalCall.mk false header
    (error.map (recordError · code mcErrorOffsetUnknown))
  if header = none ∨ payload.Missing then refuse .invalidArgument
  else
    match arguments.packetFamily library.catalog with
    | .error code => refuse code
    | .ok family => ⟨true, some { wrapped with family := family }, error⟩

/-- `canonical_header_valid` of a header that is there. -/
def McCanonicalHeader.Valid (header : McCanonicalHeader) (library : PacketLibrary) : Prop :=
  ¬ header.rawPayload.Missing ∧
    (header.arguments library.layout 0).packetFamily library.catalog = .ok header.family

instance (header : McCanonicalHeader) (library : PacketLibrary) :
    Decidable (header.Valid library) :=
  match family : (header.arguments library.layout 0).packetFamily library.catalog with
  | .error _ => isFalse fun valid => by rw [McCanonicalHeader.Valid, family] at valid; cases valid.2
  | .ok found => decidable_of_iff (¬ header.rawPayload.Missing ∧ found = header.family) <| by
      rw [McCanonicalHeader.Valid, family, Except.ok.injEq]

def canonicalDecodeTyped (library : PacketLibrary) (header : Option McCanonicalHeader) (mode : Int)
    (error : Option McError) : Option McTypedPacket × Option McError :=
  match header with
  | none => (none, error.map fun _ => recordError mcErrorClear .invalidArgument mcErrorOffsetUnknown)
  | some header =>
      let arguments := header.arguments library.layout mode
      let error := arguments.errorInit error
      if header.Valid library then
        let outcome := mcDecodePacket library arguments error
        (if outcome.family = some header.family then outcome.packet else none, outcome.error)
      else (none, error.map (recordError · .invalidArgument mcErrorOffsetUnknown))

def mcMoveHasTeleportId : Nat := 1 <<< 3

structure McCanonicalMovement where
  protocol : Int
  packetId : Int
  direction : Int
  family : McPacketFamily
  entityId : Int
  x : McDouble
  y : McDouble
  z : McDouble
  wireY : McDouble
  yaw : McFloat
  pitch : McFloat
  deltaX : McDouble
  deltaY : McDouble
  deltaZ : McDouble
  teleportId : Int
  relativeFlags : Nat
  presence : Nat
  rawFlags : Nat
  onGround : Bool
  horizontalCollision : Bool
  wireYIsStance : Bool
  deriving Repr, DecidableEq

/-- A movement of which only the header is known. -/
def McCanonicalHeader.movement (header : McCanonicalHeader) : McCanonicalMovement where
  protocol := header.protocol
  packetId := header.packetId
  direction := header.direction
  family := header.family
  entityId := 0
  x := 0
  y := 0
  z := 0
  wireY := 0
  yaw := 0
  pitch := 0
  deltaX := 0
  deltaY := 0
  deltaZ := 0
  teleportId := 0
  relativeFlags := 0
  presence := 0
  rawFlags := 0
  onGround := false
  horizontalCollision := false
  wireYIsStance := false

/-- The switch of `mc_decode_canonical_movement`: the family of the header says which member
of the union was decoded. -/
def McCanonicalHeader.normalizeMovement (header : McCanonicalHeader) :
    McTypedPacket → Option McCanonicalMovement
  | .movement decoded => some
      { header.movement with
        x := decoded.x
        y := decoded.y
        z := decoded.z
        wireY := decoded.wireY
        yaw := decoded.yaw
        pitch := decoded.pitch
        onGround := decoded.onGround
        horizontalCollision := decoded.horizontalCollision
        wireYIsStance := decoded.wireYIsStance
        presence := decoded.presence
        rawFlags := decoded.rawFlags }
  | .vehicle decoded => some
      { header.movement with
        x := decoded.x
        y := decoded.y
        z := decoded.z
        wireY := decoded.y
        yaw := decoded.yaw
        pitch := decoded.pitch
        onGround := decoded.onGround
        presence := decoded.presence
        rawFlags := if decoded.onGround then 1 else 0 }
  | .serverPosition decoded =>
      let stance := decide (header.protocol ≤ 5)
      some
      { header.movement with
        x := decoded.position.x
        y := decoded.position.y
        z := decoded.position.z
        wireY := if stance then decoded.position.y + legacyEyeHeight else decoded.position.y
        wireYIsStance := stance
        yaw := decoded.position.yaw
        pitch := decoded.position.pitch
        onGround := decoded.position.onGround
        deltaX := decoded.deltaX
        deltaY := decoded.deltaY
        deltaZ := decoded.deltaZ
        teleportId := decoded.teleportId
        relativeFlags := decoded.relativeFlags
        rawFlags := decoded.relativeFlags
        presence := mcMoveHasPosition ||| mcMoveHasRotation
          ||| flagWhen mcMoveHasDelta (decoded.hasVelocityDelta = true)
          ||| flagWhen mcMoveHasTeleportId (decoded.hasTeleportId = true)
          ||| flagWhen mcMoveHasStanceY (stance = true) }
  | .entityMove decoded => some
      { header.movement with
        entityId := decoded.entityId
        deltaX := decoded.deltaX
        deltaY := decoded.deltaY
        deltaZ := decoded.deltaZ
        yaw := decoded.yaw
        pitch := decoded.pitch
        onGround := decoded.onGround
        presence := decoded.presence
        rawFlags := if decoded.onGround then 1 else 0 }
  | .entityTeleport decoded => some
      { header.movement with
        entityId := decoded.entityId
        x := decoded.x
        y := decoded.y
        z := decoded.z
        wireY := decoded.y
        deltaX := decoded.deltaX
        deltaY := decoded.deltaY
        deltaZ := decoded.deltaZ
        yaw := decoded.yaw
        pitch := decoded.pitch
        onGround := decoded.onGround
        presence := decoded.presence
        rawFlags := if decoded.onGround then 1 else 0 }
  | .headRotation decoded => some
      { header.movement with
        entityId := decoded.entityId
        yaw := decoded.yaw
        presence := mcMoveHasRotation }
  | .velocity decoded => some
      { header.movement with
        entityId := decoded.entityId
        deltaX := decoded.velocityX
        deltaY := decoded.velocityY
        deltaZ := decoded.velocityZ
        presence := mcMoveHasDelta }
  | _ => none

/-- A decoded payload, normalized into the output. -/
def canonicalOutput {α : Type} (library : PacketLibrary) (header : Option McCanonicalHeader)
    (value : α) (mode : Int) (error : Option McError)
    (normalize : McCanonicalHeader → McTypedPacket → Option α) : CanonicalCall α :=
  match canonicalDecodeTyped library header mode error, header with
  | (some decoded, error), some header =>
      match normalize header decoded with
      | some normalized => ⟨true, some normalized, error⟩
      | none => ⟨false, some value, error.map (recordError · .invalidPacketBody 0)⟩
  | (_, error), _ => ⟨false, some value, error⟩

def mcDecodeCanonicalMovement (library : PacketLibrary) (header : Option McCanonicalHeader)
    (value : Option McCanonicalMovement) (mode : Int) (error : Option McError) :
    CanonicalCall McCanonicalMovement :=
  match value with
  | none =>
      let cleared := match header with
        | some header => (header.arguments library.layout mode).errorInit error
        | none => error.map fun _ => mcErrorClear
      ⟨false, none, cleared.map (recordError · .invalidArgument mcErrorOffsetUnknown)⟩
  | some value =>
      canonicalOutput library header value mode error McCanonicalHeader.normalizeMovement

def mcActionHasEntity : Nat := 1 <<< 0
def mcActionHasAction : Nat := 1 <<< 1
def mcActionHasHand : Nat := 1 <<< 2
def mcActionHasPosition : Nat := 1 <<< 3
def mcActionHasTarget : Nat := 1 <<< 4
def mcActionHasSequence : Nat := 1 <<< 5
def mcActionHasSlot : Nat := 1 <<< 6
def mcActionHasFlags : Nat := 1 <<< 7
def mcActionHasSpeeds : Nat := 1 <<< 8
def mcActionHasBoolean : Nat := 1 <<< 9

structure McCanonicalAction where
  protocol : Int
  packetId : Int
  direction : Int
  family : McPacketFamily
  entityId : Int
  action : Int
  hand : Int
  sequence : Int
  slot : Int
  position : McPosition
  targetX : McFloat
  targetY : McFloat
  targetZ : McFloat
  sideways : McFloat
  forward : McFloat
  flyingSpeed : McFloat
  walkingSpeed : McFloat
  presence : Nat
  rawFlags : Nat
  booleanValue : Bool
  deriving Repr, DecidableEq

/-- An action of which only the header is known. -/
def McCanonicalHeader.action (header : McCanonicalHeader) : McCanonicalAction where
  protocol := header.protocol
  packetId := header.packetId
  direction := header.direction
  family := header.family
  entityId := 0
  action := 0
  hand := 0
  sequence := 0
  slot := 0
  position := ⟨0, 0, 0⟩
  targetX := 0
  targetY := 0
  targetZ := 0
  sideways := 0
  forward := 0
  flyingSpeed := 0
  walkingSpeed := 0
  presence := 0
  rawFlags := 0
  booleanValue := false

/-- The value of an enumerator. -/
def McEntityActionKind.code : McEntityActionKind → Int
  | startSneaking => 0
  | stopSneaking => 1
  | leaveBed => 2
  | startSprinting => 3
  | stopSprinting => 4
  | startHorseJump => 5
  | stopHorseJump => 6
  | openVehicleInventory => 7
  | startElytraFlying => 8
  | unknown code => code

/-- The switch of `mc_decode_canonical_action`. -/
def McCanonicalHeader.normalizeAction (header : McCanonicalHeader) :
    McTypedPacket → Option McCanonicalAction
  | .input decoded => some
      { header.action with
        sideways := decoded.sideways
        forward := decoded.forward
        rawFlags := decoded.flags.toNat
        presence := mcActionHasFlags }
  | .action decoded => some
      { header.action with
        entityId := decoded.entityId
        action := decoded.action.code
        rawFlags := toUnsigned 32 decoded.jumpBoost
        presence := mcActionHasEntity ||| mcActionHasAction }
  | .abilities decoded => some
      { header.action with
        rawFlags := decoded.flags.toNat
        flyingSpeed := decoded.flyingSpeed
        walkingSpeed := decoded.walkingSpeed
        presence := mcActionHasFlags
          ||| flagWhen mcActionHasSpeeds (header.direction = 1 ∨ header.protocol < 735) }
  | .useEntity decoded => some
      { header.action with
        entityId := decoded.entityId
        action := decoded.action
        hand := decoded.hand
        targetX := decoded.targetX
        targetY := decoded.targetY
        targetZ := decoded.targetZ
        booleanValue := decoded.sneaking
        presence := mcActionHasEntity ||| mcActionHasAction
          ||| flagWhen mcActionHasHand (decoded.presence &&& mcUseEntityHasHand ≠ 0)
          ||| flagWhen mcActionHasTarget (decoded.presence &&& mcUseEntityHasTarget ≠ 0)
          ||| flagWhen mcActionHasBoolean (decoded.presence &&& mcUseEntityHasSneaking ≠ 0) }
  | .arm decoded => some
      { header.action with
        entityId := decoded.entityId
        hand := decoded.hand
        presence := mcActionHasHand ||| flagWhen mcActionHasEntity (header.protocol ≤ 5) }
  | .dig decoded => some
      { header.action with
        action := decoded.status
        position := decoded.location
        sequence := decoded.sequence
        rawFlags := toUnsigned 8 decoded.face
        presence := mcActionHasAction ||| mcActionHasPosition ||| mcActionHasFlags
          ||| flagWhen mcActionHasSequence (759 ≤ header.protocol) }
  | .place decoded => some
      { header.action with
        action := decoded.direction
        hand := decoded.hand
        position := decoded.location
        sequence := decoded.sequence
        booleanValue := decoded.insideBlock
        presence := mcActionHasAction ||| mcActionHasPosition
          ||| flagWhen mcActionHasHand (107 ≤ header.protocol)
          ||| flagWhen mcActionHasSequence (759 ≤ header.protocol)
          ||| flagWhen mcActionHasBoolean (477 ≤ header.protocol) }
  | .useItem decoded => some
      { header.action with
        hand := decoded.hand
        sequence := decoded.sequence
        presence := mcActionHasHand ||| flagWhen mcActionHasSequence (759 ≤ header.protocol) }
  | .held decoded => some
      { header.action with
        slot := decoded.slot
        presence := mcActionHasSlot }
  | .teleportConfirm decoded => some
      { header.action with
        sequence := decoded.teleportId
        presence := mcActionHasSequence }
  | .command decoded => some
      { header.action with
        action := decoded.action
        presence := mcActionHasAction }
  | _ => none

def mcDecodeCanonicalAction (library : PacketLibrary) (header : Option McCanonicalHeader)
    (value : Option McCanonicalAction) (mode : Int) (error : Option McError) :
    CanonicalCall McCanonicalAction :=
  match value with
  | none =>
      ⟨false, none,
        error.map fun _ => recordError mcErrorClear .invalidArgument mcErrorOffsetUnknown⟩
  | some value =>
      canonicalOutput library header value mode error McCanonicalHeader.normalizeAction

section views

variable {library : PacketLibrary} {validators : Validators} {layout : PacketLayout}
  {others : McPacketCatalog} {protocol : Int} {name : String} {α : Type}

/-- The decoder, given the header that wraps the payload of a packet a player sends, returns
the view in compat mode. -/
def Views (decode : PacketLibrary → Option McCanonicalHeader → Option α → Int → Option McError →
    CanonicalCall α) (library : PacketLibrary) (protocol : Int) (name : String)
    (payload : List UInt8) (view : α) : Prop :=
  ∀ (memory : McCanonicalHeader) (storage : α) (error error' : Option McError), ∃ header,
    (mcCanonicalHeaderInit library (some memory) protocol 3 0
        (library.catalog.mcPacketId protocol .play .serverbound name) payload error).returned
          = true ∧
      (mcCanonicalHeaderInit library (some memory) protocol 3 0
        (library.catalog.mcPacketId protocol .play .serverbound name) payload error).output
          = some header ∧
      (decode library (some header) (some storage) 0 error').returned = true ∧
      (decode library (some header) (some storage) 0 error').output = some view

/-- The header that wraps a payload. -/
def playHeader (library : PacketLibrary) (protocol : Int) (name : String)
    (payload : List UInt8) : McCanonicalHeader where
  protocol := protocol
  state := 3
  direction := 0
  packetId := library.catalog.mcPacketId protocol .play .serverbound name
  family := mcPacketFamily .play .serverbound name
  rawPayload := payload

/-- The packet is listed, and its family is a typed one. -/
structure Typed (library : PacketLibrary) (protocol : Int) (name : String) : Prop where
  supported : mcProtocolSupported protocol = true
  listed : name ∈ library.catalog.names protocol .play .serverbound
  decoded : mcPacketFamily .play .serverbound name ≠ .unknown

theorem Typed.packetName (typed : Typed library protocol name) :
    library.catalog.mcPacketName protocol .play .serverbound
      (library.catalog.mcPacketId protocol .play .serverbound name) = some name :=
  McPacketCatalog.mcPacketName_mcPacketId typed.supported nofun typed.listed

theorem Typed.packetFamily (typed : Typed library protocol name) (payload : List UInt8)
    (family : McPacketFamily) (mode : Int) :
    ((McCanonicalHeader.mk protocol 3 0
        (library.catalog.mcPacketId protocol .play .serverbound name) family payload).arguments
      library.layout mode).packetFamily library.catalog =
        .ok (mcPacketFamily .play .serverbound name) := by
  have named := typed.packetName
  have state : ((McCanonicalHeader.mk protocol 3 0
      (library.catalog.mcPacketId protocol .play .serverbound name) family payload).arguments
      library.layout mode).connectionState = some .play := rfl
  have direction : ((McCanonicalHeader.mk protocol 3 0
      (library.catalog.mcPacketId protocol .play .serverbound name) family payload).arguments
      library.layout mode).packetDirection = some .serverbound := rfl
  simp only [McDecodeArguments.packetFamily, state, direction]
  simp only [McCanonicalHeader.arguments, named]
  rw [if_neg (by simp [typed.supported])]

theorem Typed.header (typed : Typed library protocol name) (payload : List UInt8)
    (memory : McCanonicalHeader) (error : Option McError) :
    ∃ error', mcCanonicalHeaderInit library (some memory) protocol 3 0
      (library.catalog.mcPacketId protocol .play .serverbound name) payload error =
        ⟨true, some (playHeader library protocol name payload), error'⟩ := by
  have family := typed.packetFamily payload .unknown 0
  have there : ¬ (some memory = none ∨ (Buffer.bytes payload).Missing) := by simp [Buffer.Missing]
  simp only [mcCanonicalHeaderInit, if_neg there, family]
  exact ⟨_, rfl⟩

theorem Typed.valid (typed : Typed library protocol name) (payload : List UInt8) :
    (playHeader library protocol name payload).Valid library :=
  ⟨not_false, typed.packetFamily payload _ 0⟩

/-- The storage takes every packet. -/
theorem decodedSize_le_storage (layout : PacketLayout) (family : McPacketFamily) :
    mcPacketDecodedSize layout family ≤ layout.storageSize :=
  decodedSize_le layout family

theorem decodedSize_ne_zero (layout : PacketLayout) {family : McPacketFamily}
    (decoded : family ≠ .unknown) :
    mcPacketDecodedSize layout family ≠ 0 := by
  cases family with
  | unknown => exact absurd rfl decoded
  | _ => exact (layout.sizeOf_pos _).ne'

theorem Typed.select (typed : Typed library protocol name) (payload : List UInt8) :
    ((playHeader library protocol name payload).arguments library.layout 0).select library =
      (some (mcPacketFamily .play .serverbound name),
        .ok ⟨.serverbound, name, mcPacketFamily .play .serverbound name⟩) := by
  have named := typed.packetName
  have fits := decodedSize_le_storage library.layout (mcPacketFamily .play .serverbound name)
  have sized := decodedSize_ne_zero library.layout typed.decoded
  let arguments := (playHeader library protocol name payload).arguments library.layout 0
  have state : arguments.connectionState = some .play := rfl
  have direction : arguments.packetDirection = some .serverbound := rfl
  have present : ¬ (arguments.payload.Missing ∨ arguments.output = none ∨ arguments.family = none
      ∨ arguments.decodeMode = none) := by
    rintro (missing | null | null | unknown)
    · exact missing
    · cases null
    · cases null
    · cases unknown
  have supported : ¬ mcProtocolSupported arguments.protocol = false := by
    rw [Bool.not_eq_false]
    exact typed.supported
  have room : ¬ (arguments.output.getD []).length <
      mcPacketDecodedSize library.layout (mcPacketFamily .play .serverbound name) := by
    change ¬ (List.replicate library.layout.storageSize (0 : UInt8)).length < _
    rw [List.length_replicate]
    exact not_lt.mpr fits
  change arguments.select library = _
  unfold McDecodeArguments.select
  rw [if_neg present, if_neg supported, state, direction]
  change (match library.catalog.mcPacketName protocol .play .serverbound
      (library.catalog.mcPacketId protocol .play .serverbound name) with
    | none => _
    | some name => _) = _
  rw [named]
  exact (if_neg sized).trans (if_neg room)

/-- A payload that its family reads as a packet, in compat mode and to its end, is decoded to
that packet. -/
theorem Typed.decode (typed : Typed library protocol name) {payload : List UInt8}
    {packet : McTypedPacket}
    (reads : Reads .vanillaCompat (typedDecodeDispatch library.validators protocol .serverbound name
      (mcPacketFamily .play .serverbound name)).run packet payload) (error : Option McError) :
    ∃ error', canonicalDecodeTyped library (some (playHeader library protocol name payload)) 0 error
      = (some packet, error') := by
  let arguments := (playHeader library protocol name payload).arguments library.layout 0
  have selected := typed.select payload
  have before : (arguments.bodyReader (arguments.errorInit error)).Before (payload ++ []) := by
    rw [List.append_nil]
    exact bodyReader_before
  have ran := reads _ [] rfl before
  have decoded : (mcDecodePacket library arguments (arguments.errorInit error)).packet =
      some packet := by
    refine mcDecodePacket_packet_iff.mpr ⟨_, _, congrArg Prod.snd selected, ran, rfl, ?_⟩
    have whole := before.size_eq
    rw [List.append_nil] at whole
    exact whole.symm
  have family : (mcDecodePacket library arguments (arguments.errorInit error)).family =
      some (mcPacketFamily .play .serverbound name) := by
    rw [mcDecodePacket_family]
    exact congrArg Prod.fst selected
  refine ⟨(mcDecodePacket library arguments (arguments.errorInit error)).error, ?_⟩
  rw [canonicalDecodeTyped]
  simp only [if_pos (typed.valid payload)]
  change (if (mcDecodePacket library arguments (arguments.errorInit error)).family =
    some (mcPacketFamily .play .serverbound name) then
      (mcDecodePacket library arguments (arguments.errorInit error)).packet else none, _) = _
  rw [if_pos family, decoded]

/-- The decoded packet, normalized, is the view. -/
theorem Typed.views (typed : Typed library protocol name) {payload : List UInt8}
    {packet : McTypedPacket} {view : α}
    {decode : PacketLibrary → Option McCanonicalHeader → Option α → Int → Option McError →
      CanonicalCall α}
    {normalize : McCanonicalHeader → McTypedPacket → Option α}
    (normalizes : ∀ header storage error, decode library (some header) (some storage) 0 error =
      canonicalOutput library (some header) storage 0 error normalize)
    (reads : Reads .vanillaCompat (typedDecodeDispatch library.validators protocol .serverbound name
      (mcPacketFamily .play .serverbound name)).run packet payload)
    (normalized : normalize (playHeader library protocol name payload) packet = some view) :
    Views decode library protocol name payload view := by
  intro memory storage error error'
  obtain ⟨left, wrapped⟩ := typed.header payload memory error
  obtain ⟨found, decoded⟩ := typed.decode reads error'
  have outcome : decode library (some (playHeader library protocol name payload)) (some storage) 0
      error' = ⟨true, some view, found⟩ := by
    rw [normalizes]
    simp only [canonicalOutput, decoded, normalized]
  exact ⟨_, congrArg CanonicalCall.returned wrapped, congrArg CanonicalCall.output wrapped,
    congrArg CanonicalCall.returned outcome, congrArg CanonicalCall.output outcome⟩

end views

section bodies

variable {protocol : Int}

theorem emits_playerPosition (value : McPlayerPosition) :
    Emits (mcPacketPlayerPosition protocol value) fun bytes =>
      mcProtocolSupported protocol = true ∧ value.IsFinite ∧ bytes = positionBytes protocol value := by
  refine (Emits.checked (Emits.bind (.double _) (Emits.bind (.double _)
    (Emits.bind (.when (.double _)) (Emits.bind (.double _) (Emits.bind (.float _)
      (Emits.bind (.float _) (.bool _)))))))).congr fun bytes => ⟨?_, ?_⟩
  · rintro ⟨accepted, _, _, rfl, rfl, _, _, rfl, rfl, eyes, _, rfl, ate, _, _, rfl, rfl, _, _, rfl,
      rfl, _, _, rfl, rfl, rfl⟩
    simp only [not_or, Bool.not_eq_false] at accepted
    obtain ⟨supported, x, y, z, yaw, pitch, _⟩ := accepted
    refine ⟨supported, ⟨x, y, z, yaw, pitch⟩, ?_⟩
    have same : eyes = if protocol ≤ 5 then
        BigEndian.bytes 8 (value.y + eyeHeight).bits.toNat else [] := by
      split_ifs at ate ⊢ <;> exact ate
    rw [same, positionBytes]
  · rintro ⟨supported, finite, rfl⟩
    obtain ⟨x, y, z, yaw, pitch⟩ := finite
    refine ⟨?_, _, _, rfl, rfl, _, _, rfl, rfl, _, _, rfl, ?_, _, _, rfl, rfl, _, _, rfl, rfl, _, _,
      rfl, rfl, rfl⟩
    · simp [supported, x, y, z, yaw, pitch, isFinite_eyes y]
    · split_ifs <;> rfl

/-- The flags of a movement that only says whether the player stands. -/
theorem reads_movementFlags (protocol : Int) (onGround : Bool) :
    Reads .vanillaCompat (readMovementFlags protocol).run (if onGround then 1 else 0)
      [if onGround then 1 else 0] := by
  unfold readMovementFlags
  by_cases bitset : 768 ≤ protocol
  · rw [if_pos bitset]
    refine .rescue ((Reads.u8 _).thenPure (.after (.require ?_) (.pure _)))
    cases onGround <;> decide
  · rw [if_neg bitset]
    exact (Reads.bool onGround).thenPure (.pure _)

/-- How a decoder sees a position. -/
def McPlayerPosition.movement (value : McPlayerPosition) (protocol : Int) :
    McPlayerMovementPacket where
  x := value.x
  y := value.y
  z := value.z
  wireY := if protocol ≤ 5 then value.y + eyeHeight else value.y
  yaw := value.yaw
  pitch := value.pitch
  onGround := value.onGround
  horizontalCollision := false
  wireYIsStance := decide (protocol ≤ 5)
  presence := mcMoveHasPosition ||| flagWhen mcMoveHasStanceY (protocol ≤ 5)
    ||| mcMoveHasRotation ||| mcMoveHasOnGround
    ||| flagWhen mcMoveHasHorizontalCollision (768 ≤ protocol)
  rawFlags := if value.onGround then 1 else 0

theorem reads_movementPosition {value : McPlayerPosition} (finite : value.IsFinite) :
    Reads .vanillaCompat (readMovementPosition protocol).run
      ⟨value.x, value.y, value.z, if protocol ≤ 5 then value.y + eyeHeight else value.y⟩
      (BigEndian.bytes 8 value.x.bits.toNat ++ (BigEndian.bytes 8 value.y.bits.toNat ++
        ((if protocol ≤ 5 then BigEndian.bytes 8 (value.y + eyeHeight).bits.toNat else []) ++
          BigEndian.bytes 8 value.z.bits.toNat))) := by
  obtain ⟨x, y, z, -, -⟩ := finite
  refine .bind (.double _) (.bind (.double _) (.bind ?_ (.rescue
    (.thenPure (.double _) (.after (.require ⟨x, y, z⟩) (.pure _))))))
  by_cases legacy : protocol ≤ 5
  · simp only [if_pos legacy]
    exact .thenPure (.double _) (.after (.rescue (.after (.require (isFinite_eyes y))
      .requireStrict)) (.pure _))
  · simp only [if_neg legacy]
    exact .pure _

theorem reads_movementRotation {value : McPlayerPosition} (finite : value.IsFinite) :
    Reads .vanillaCompat readMovementRotation.run (value.yaw, value.pitch)
      (BigEndian.bytes 4 value.yaw.bits.toNat ++ BigEndian.bytes 4 value.pitch.bits.toNat) := by
  obtain ⟨-, -, -, yaw, pitch⟩ := finite
  exact .bind (.float _) (.thenPure (.float _) (.after (.rescue (.after (.require ⟨yaw, pitch⟩)
    .requireStrict)) (.pure _)))

theorem reads_movement {value : McPlayerPosition} (finite : value.IsFinite) :
    Reads .vanillaCompat (typedDecodeMovement protocol "position_look").run
      (value.movement protocol) (positionBytes protocol value) := by
  have program : (typedDecodeMovement protocol "position_look").run =
      (readMovementPosition protocol).run >>= fun position => readMovementRotation.run >>=
        fun rotation => (readMovementFlags protocol).run >>= fun flags => pure
          { x := position.x
            y := position.y
            z := position.z
            wireY := position.wireY
            yaw := rotation.1
            pitch := rotation.2
            onGround := flags &&& 1 != 0
            horizontalCollision := flags &&& 2 != 0
            wireYIsStance := decide (protocol ≤ 5)
            presence := mcMoveHasPosition ||| flagWhen mcMoveHasStanceY (protocol ≤ 5)
              ||| mcMoveHasRotation ||| mcMoveHasOnGround
              ||| flagWhen mcMoveHasHorizontalCollision (768 ≤ protocol)
            rawFlags := flags.toNat } := by
    have position : ("position_look" == "position" || "position_look" == "position_look") = true :=
      by decide
    have rotation : ("position_look" == "look" || "position_look" == "position_look") = true := by
      decide
    simp only [typedDecodeMovement, position, rotation, if_true, Bool.true_and, true_and]
    rfl
  rw [program]
  have flags := reads_movementFlags protocol value.onGround
  refine .of_eq (.bind (reads_movementPosition finite) (.bind (reads_movementRotation finite)
    (.thenPure flags (.returning ?_)))) ?_
  · cases onGround : value.onGround with
    | false => simp [McPlayerPosition.movement, onGround]
    | true =>
        simp only [McPlayerPosition.movement, onGround, if_true]
        rfl
  · simp only [positionBytes, List.append_assoc]

/-- A release numbers the actions it has in the order of the enumerators. -/
theorem entityActionId_code {kind : McEntityActionKind} {wire : Int}
    (known : entityActionId protocol kind = some wire) :
    kind ∈ McEntityActionKind.candidates ∧
      wire = kind.code + if protocol ≤ 5 then 1 else if 771 ≤ protocol then -2 else 0 := by
  cases kind with
  | unknown code => simp [entityActionId] at known
  | startSneaking | stopSneaking =>
      simp only [entityActionId] at known
      split_ifs at known ⊢ <;>
        simp only [Option.some.injEq, McEntityActionKind.code] at known ⊢ <;>
        first
          | omega
          | exact ⟨by decide, by omega⟩
  | _ =>
      simp only [entityActionId] at known
      refine ⟨by decide, ?_⟩
      split_ifs at known ⊢ <;>
        simp only [Option.some.injEq, McEntityActionKind.code] at known ⊢ <;> omega

/-- The numbers of a release name its actions. -/
theorem find_entityActionId {kind : McEntityActionKind} {wire : Int}
    (known : entityActionId protocol kind = some wire) :
    McEntityActionKind.candidates.find? (entityActionId protocol · = some wire) = some kind := by
  obtain ⟨candidate, coded⟩ := entityActionId_code known
  rcases found : McEntityActionKind.candidates.find? (entityActionId protocol · = some wire)
    with _ | other
  · have none := List.find?_eq_none.mp found kind candidate
    simp [known] at none
  · have known' : entityActionId protocol other = some wire := by simpa using List.find?_some found
    obtain ⟨candidate', coded'⟩ := entityActionId_code known'
    have injective : ∀ a ∈ McEntityActionKind.candidates, ∀ b ∈ McEntityActionKind.candidates,
        a.code = b.code → a = b := by decide
    rw [injective other candidate' kind candidate (by omega)]

/-- The bytes of an action of a release that numbers it `wire`. -/
def actionBytes (protocol : Int) (value : McEntityAction) (wire : Int) : List UInt8 :=
  if protocol ≤ 5 then
    BigEndian.bytes 4 (toUnsigned 32 value.entityId) ++ ([UInt8.ofNat (toUnsigned 8 wire)] ++
      BigEndian.bytes 4 (toUnsigned 32 value.jumpBoost))
  else encodeVarint value.entityId ++ (encodeVarint wire ++ encodeVarint value.jumpBoost)

theorem emits_entityAction (value : McEntityAction) :
    Emits (mcPacketEntityAction protocol value) fun bytes =>
      mcProtocolSupported protocol = true ∧ 0 ≤ value.entityId ∧ 0 ≤ value.jumpBoost ∧
        ∃ wire, entityActionId protocol value.action = some wire ∧
          bytes = actionBytes protocol value wire := by
  refine (Emits.checked (Emits.either (.bind (.i32 _) (.bind (.i8 _) (.i32 _)))
    (.bind (.varint _) (.bind (.varint _) (.varint _))))).congr fun bytes => ?_
  simp only [not_or, Bool.not_eq_false, not_lt]
  rcases known : entityActionId protocol value.action with _ | wire
  · simp
  · by_cases legacy : protocol ≤ 5
    · simp [legacy, actionBytes, and_assoc]
    · simp [legacy, actionBytes, and_assoc]

theorem reads_entityAction {value : McEntityAction} {wire : Int} (entity : IsInt32 value.entityId)
    (jump : IsInt32 value.jumpBoost) (positive : 0 ≤ value.entityId) (boosted : 0 ≤ value.jumpBoost)
    (known : entityActionId protocol value.action = some wire) :
    Reads .vanillaCompat (typedDecodeEntityAction protocol).run value
      (actionBytes protocol value wire) := by
  have small : -2 ^ 7 ≤ wire ∧ wire < 2 ^ 7 := by
    obtain ⟨candidate, rfl⟩ := entityActionId_code known
    have codes : ∀ kind ∈ McEntityActionKind.candidates, 0 ≤ kind.code ∧ kind.code ≤ 8 := by decide
    have range := codes value.action candidate
    split_ifs <;> omega
  have last : Reads .vanillaCompat (.orInvalid do
      require (0 ≤ value.entityId ∧ 0 ≤ value.jumpBoost)
      requireStrict (value.jumpBoost ≤ 100)
      pure ⟨value.entityId, value.action, value.jumpBoost⟩ : DecodeM protocol McEntityAction).run
      value [] :=
    .rescue (.after (.require ⟨positive, boosted⟩) (.after .requireStrict (.pure _)))
  unfold typedDecodeEntityAction readEntityId actionBytes
  by_cases legacy : protocol ≤ 5
  · simp only [if_pos legacy]
    refine .bind (.i32 entity) (.bind (.i8 small.1 small.2) (.thenPure (.i32 jump) ?_))
    rw [find_entityActionId known]
    exact last
  · simp only [if_neg legacy]
    have int : IsInt32 wire := ⟨by omega, by omega⟩
    refine .bind (.varint entity) (.bind (.varint int) (.thenPure (.varint jump) ?_))
    rw [find_entityActionId known]
    exact last

/-- The bytes of an attack. -/
def attackBytes (protocol entityId : Int) : List UInt8 :=
  if 775 ≤ protocol then encodeVarint entityId
  else if protocol ≤ 5 then BigEndian.bytes 4 (toUnsigned 32 entityId) ++ [1]
  else encodeVarint entityId ++ (encodeVarint 1 ++ if 735 ≤ protocol then [0] else [])

theorem emits_attackEntity (entityId : Int) :
    Emits (mcPacketAttackEntity protocol entityId) fun bytes =>
      mcProtocolSupported protocol = true ∧ 0 < entityId ∧ bytes = attackBytes protocol entityId := by
  refine (Emits.checked (.either (.varint _) (.either (.bind (.i32 _) (.i8 _))
    (.bind (.varint _) (.bind (.varint _) (.when (.bool _))))))).congr fun bytes => ?_
  simp only [not_or, Bool.not_eq_false, not_le, and_assoc]
  refine and_congr_right fun _ => and_congr_right fun _ => ?_
  simp only [attackBytes, Bool.false_eq_true, if_false]
  split_ifs with dedicated legacy sneaking
  · rfl
  · simp [toUnsigned]
  · simp
  · simp

/-- How a decoder sees an attack. -/
def attackOf (protocol entityId : Int) : McUseEntityPacket where
  entityId := entityId
  action := 1
  targetX := 0
  targetY := 0
  targetZ := 0
  hand := 0
  sneaking := false
  presence := flagWhen mcUseEntityHasSneaking (735 ≤ protocol ∧ protocol < 775)

theorem reads_attack (protocol : Int) {entityId : Int} (entity : IsInt32 entityId)
    (positive : 0 < entityId) :
    Reads .vanillaCompat (typedDecodeUseEntity protocol (decide (775 ≤ protocol))).run
      (attackOf protocol entityId) (attackBytes protocol entityId) := by
  have valid : Reads .vanillaCompat
      (typedRequire (0 < entityId ∧ (0 : Int) ≤ 1 ∧ (1 : Int) ≤ 2)).run () [] :=
    .typedRequire ⟨positive, by decide, by decide⟩
  have noHand : Reads .vanillaCompat
      (if (!false && decide (107 ≤ protocol) && ((1 : Int) == 0 || (1 : Int) == 2)) = true
        then readHand else pure 0 : DecodeM protocol Int).run 0 [] := by
    rw [if_neg (by simp)]
    exact .pure 0
  have sneaking : Reads .vanillaCompat
      (if (!false && decide (735 ≤ protocol)) = true then mcReaderBool else pure false :
        DecodeM protocol Bool).run false (if 735 ≤ protocol then [0] else []) := by
    by_cases newer : 735 ≤ protocol
    · simp only [newer, decide_true, Bool.not_false, Bool.and_self, if_true]
      exact .bool false
    · simp only [newer, decide_false, Bool.and_false, Bool.false_eq_true, if_false]
      exact .pure false
  have one : Reads .vanillaCompat mcReaderI8.run 1 [1] := .i8 (by decide) (by decide)
  unfold typedDecodeUseEntity attackBytes
  by_cases dedicated : 775 ≤ protocol
  · simp only [dedicated, decide_true]
    refine .thenPure (.varint entity) (.after (.pure _) (.after (.pure _) (.after (.pure _)
      (.after (.pure _) (.after valid (.returning ?_))))))
    simp [attackOf, flagWhen, dedicated]
  · by_cases legacy : protocol ≤ 5
    · have older : ¬ 735 ≤ protocol := by omega
      rw [if_neg older] at sneaking
      simp only [dedicated, legacy, decide_false]
      refine .bind (.i32 entity) (.thenPure one
        (.after (.pure _) (.after noHand (.after sneaking (.after valid (.returning ?_))))))
      simp [attackOf, flagWhen, older]
    · simp only [dedicated, legacy, decide_false]
      refine .bind (.varint entity) (.bind (.varint (by decide)) (.after (.pure _)
        (.after noHand (.thenPure sneaking (.after valid (.returning ?_))))))
      simp [attackOf, flagWhen, not_le.mp dedicated]

end bodies

/-- A builder that returned left the payload in its storage. -/
def Builds (build : WriteM Unit) (payload : List UInt8) : Prop :=
  ∃ capacity packet, buildPacket capacity build = (some (), packet) ∧ packet.body = payload

theorem Emits.payload {build : WriteM Unit} {W : List UInt8 → Prop} {payload : List UInt8}
    (emits : Emits build W) (builds : Builds build payload) : W payload := by
  obtain ⟨capacity, packet, built, rfl⟩ := builds
  exact emits.body built

/-- The position a movement moves to. -/
def McCanonicalMovement.position (view : McCanonicalMovement) : McPlayerPosition :=
  ⟨view.x, view.y, view.z, view.yaw, view.pitch, view.onGround⟩

/-- What an action of the player's entity is. -/
def McCanonicalAction.entityAction (view : McCanonicalAction) : Int × Int × Int :=
  (view.entityId, view.action, view.rawFlags)

section law

variable (others : McPacketCatalog) (validators : Validators) (layout : PacketLayout)
variable {protocol : Int} {payload : List UInt8}

/-- The library with the generated catalog. -/
abbrev generatedLibrary : PacketLibrary := ⟨packetCatalog others, validators, layout⟩

theorem views_position {value : McPlayerPosition}
    (builds : Builds (mcPacketPlayerPosition protocol value) payload) :
    ∃ view, Views mcDecodeCanonicalMovement (generatedLibrary others validators layout) protocol
      "position_look" payload view ∧ view.position = value := by
  obtain ⟨supported, finite, rfl⟩ := (emits_playerPosition value).payload builds
  have typed : Typed (generatedLibrary others validators layout) protocol "position_look" :=
    ⟨supported, packetCatalog_listed supported (by simp [lastingPackets]), by decide⟩
  exact ⟨_, typed.views (fun _ _ _ => rfl) (reads_movement finite).mapDecode rfl, rfl⟩

theorem views_entityAction {value : McEntityAction} (entity : IsInt32 value.entityId)
    (jump : IsInt32 value.jumpBoost)
    (builds : Builds (mcPacketEntityAction protocol value) payload) :
    ∃ view, Views mcDecodeCanonicalAction (generatedLibrary others validators layout) protocol
      "entity_action" payload view ∧
        view.entityAction = (value.entityId, value.action.code, value.jumpBoost) := by
  obtain ⟨supported, positive, boosted, wire, known, rfl⟩ :=
    (emits_entityAction value).payload builds
  have typed : Typed (generatedLibrary others validators layout) protocol "entity_action" :=
    ⟨supported, packetCatalog_listed supported (by simp [lastingPackets]), by decide⟩
  refine ⟨_, typed.views (fun _ _ _ => rfl)
    (reads_entityAction entity jump positive boosted known).mapDecode rfl, ?_⟩
  have flags : (toUnsigned 32 value.jumpBoost : Int) = value.jumpBoost := by
    obtain ⟨_, high⟩ := jump
    simp only [toUnsigned]
    omega
  exact congrArg (fun flags => (value.entityId, value.action.code, flags)) flags

theorem views_attack {entityId : Int} (entity : IsInt32 entityId)
    (builds : Builds (mcPacketAttackEntity protocol entityId) payload) :
    ∃ view, Views mcDecodeCanonicalAction (generatedLibrary others validators layout) protocol
      (attackPacket protocol) payload view ∧ (view.entityId, view.action) = (entityId, 1) := by
  obtain ⟨supported, positive, rfl⟩ := (emits_attackEntity entityId).payload builds
  have reads := (reads_attack protocol entity positive).mapDecode (f := McTypedPacket.useEntity)
  have listed : attackPacket protocol ∈ (packetCatalog others).names protocol .play .serverbound :=
    packetCatalog_listed supported (by simp [lastingPackets])
  by_cases dedicated : 775 ≤ protocol
  · simp only [attackPacket, dedicated, decide_true, if_true] at reads listed ⊢
    exact ⟨_, Typed.views ⟨supported, listed, by decide⟩ (fun _ _ _ => rfl) reads rfl, rfl⟩
  · simp only [attackPacket, dedicated, decide_false, if_false] at reads listed ⊢
    exact ⟨_, Typed.views ⟨supported, listed, by decide⟩ (fun _ _ _ => rfl) reads rfl, rfl⟩

/-- What a player does is seen the same way for any two releases that it was encoded for: as
what was encoded. -/
theorem canonical_views_agree (first second : Int) :
    (∀ value payload payload', Builds (mcPacketPlayerPosition first value) payload →
      Builds (mcPacketPlayerPosition second value) payload' → ∃ view view',
        Views mcDecodeCanonicalMovement (generatedLibrary others validators layout) first
          "position_look" payload view ∧
        Views mcDecodeCanonicalMovement (generatedLibrary others validators layout) second
          "position_look" payload' view' ∧
        view.position = view'.position ∧ view'.position = value) ∧
    (∀ value payload payload', IsInt32 value.entityId → IsInt32 value.jumpBoost →
      Builds (mcPacketEntityAction first value) payload →
      Builds (mcPacketEntityAction second value) payload' → ∃ view view',
        Views mcDecodeCanonicalAction (generatedLibrary others validators layout) first
          "entity_action" payload view ∧
        Views mcDecodeCanonicalAction (generatedLibrary others validators layout) second
          "entity_action" payload' view' ∧
        view.entityAction = view'.entityAction ∧
        view'.entityAction = (value.entityId, value.action.code, value.jumpBoost)) ∧
    (∀ entityId payload payload', IsInt32 entityId →
      Builds (mcPacketAttackEntity first entityId) payload →
      Builds (mcPacketAttackEntity second entityId) payload' → ∃ view view',
        Views mcDecodeCanonicalAction (generatedLibrary others validators layout) first
          (attackPacket first) payload view ∧
        Views mcDecodeCanonicalAction (generatedLibrary others validators layout) second
          (attackPacket second) payload' view' ∧
        (view.entityId, view.action) = (view'.entityId, view'.action) ∧
        (view'.entityId, view'.action) = (entityId, 1)) := by
  refine ⟨?_, ?_, ?_⟩
  · intro value payload payload' builds builds'
    obtain ⟨view, shown, same⟩ := views_position others validators layout builds
    obtain ⟨view', shown', same'⟩ := views_position others validators layout builds'
    exact ⟨view, view', shown, shown', same.trans same'.symm, same'⟩
  · intro value payload payload' entity jump builds builds'
    obtain ⟨view, shown, same⟩ := views_entityAction others validators layout entity jump builds
    obtain ⟨view', shown', same'⟩ := views_entityAction others validators layout entity jump builds'
    exact ⟨view, view', shown, shown', same.trans same'.symm, same'⟩
  · intro entityId payload payload' entity builds builds'
    obtain ⟨view, shown, same⟩ := views_attack others validators layout entity builds
    obtain ⟨view', shown', same'⟩ := views_attack others validators layout entity builds'
    exact ⟨view, view', shown, shown', same.trans same'.symm, same'⟩

/-- A player attacked on 47 and on 776. -/
theorem canonical_views_agree_attacked :
    let library := generatedLibrary ⟨fun _ _ _ => []⟩ (plainLibrary [] 4 (by decide)).validators
      (plainLibrary [] 4 (by decide)).layout
    ∃ view view', Views mcDecodeCanonicalAction library 47 "use_entity" [5, 1] view ∧
      Views mcDecodeCanonicalAction library 776 "attack" [5] view' ∧
      (view.entityId, view.action) = (view'.entityId, view'.action) ∧
      (view'.entityId, view'.action) = (5, 1) :=
  (canonical_views_agree ⟨fun _ _ _ => []⟩ (plainLibrary [] 4 (by decide)).validators
    (plainLibrary [] 4 (by decide)).layout 47 776).2.2 5 [5, 1] [5] (by decide)
    ⟨2, ⟨[5, 1], 2, false⟩, by decide +kernel, rfl⟩ ⟨1, ⟨[5], 1, false⟩, by decide +kernel, rfl⟩

end law

end McProtocol
