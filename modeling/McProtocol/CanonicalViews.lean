import McProtocol.Canonical

/-! # Canonical inventories and block changes

The last two canonical structures, and how the four of them share the typed packets: what can be
decoded has one canonical view at most, which the family in its header decides.
-/

namespace McProtocol

structure McCanonicalInventory where
  protocol : Int
  packetId : Int
  direction : Int
  family : McPacketFamily
  windowId : Int
  stateId : Int
  slot : Int
  mouseButton : Int
  actionNumber : Int
  mode : Int
  itemCount : Nat
  changedSlotCount : Nat
  item : McItemStackView
  items : List UInt8
  changedSlots : List UInt8
  presence : Nat
  deriving Repr, DecidableEq

/-- An inventory of which only the header is known. -/
def McCanonicalHeader.inventory (header : McCanonicalHeader) : McCanonicalInventory where
  protocol := header.protocol
  packetId := header.packetId
  direction := header.direction
  family := header.family
  windowId := 0
  stateId := 0
  slot := 0
  mouseButton := 0
  actionNumber := 0
  mode := 0
  itemCount := 0
  changedSlotCount := 0
  item := .absent .full
  items := []
  changedSlots := []
  presence := 0

/-- The switch of `mc_decode_canonical_inventory`. -/
def McCanonicalHeader.normalizeInventory (header : McCanonicalHeader) :
    McTypedPacket → Option McCanonicalInventory
  | .windowClick decoded => some
      { header.inventory with
        windowId := decoded.windowId
        stateId := decoded.stateId
        slot := decoded.slot
        mouseButton := decoded.mouseButton
        actionNumber := decoded.actionNumber
        mode := decoded.mode
        changedSlotCount := decoded.changedSlotCount
        changedSlots := decoded.changedSlots
        item := decoded.carriedItem
        presence := flagWhen 1 (decoded.hasStateId = true)
          ||| flagWhen 2 (decoded.hasActionNumber = true)
          ||| flagWhen 4 (decoded.hashedSlots = true) }
  | .creativeSlot decoded => some
      { header.inventory with
        slot := decoded.slot
        item := decoded.item }
  | .setSlot decoded => some
      { header.inventory with
        windowId := decoded.windowId
        stateId := decoded.stateId
        slot := decoded.slot
        item := decoded.item
        presence := flagWhen 1 (decoded.hasStateId = true) }
  | .windowItems decoded => some
      { header.inventory with
        windowId := decoded.windowId
        stateId := decoded.stateId
        itemCount := decoded.itemCount
        items := decoded.items
        item := decoded.carriedItem
        presence := flagWhen 1 (decoded.hasStateId = true)
          ||| flagWhen 2 (decoded.hasCarriedItem = true) }
  | .closeWindow decoded => some
      { header.inventory with
        windowId := decoded.windowId }
  | _ => none

/-- A null output is refused before the header is looked at. -/
def canonicalOutputOrNull {α : Type} (library : PacketLibrary) (header : Option McCanonicalHeader)
    (value : Option α) (mode : Int) (error : Option McError)
    (normalize : McCanonicalHeader → McTypedPacket → Option α) : CanonicalCall α :=
  match value with
  | none =>
      ⟨false, none,
        error.map fun _ => recordError mcErrorClear .invalidArgument mcErrorOffsetUnknown⟩
  | some value => canonicalOutput library header value mode error normalize

def mcDecodeCanonicalInventory (library : PacketLibrary) (header : Option McCanonicalHeader)
    (value : Option McCanonicalInventory) (mode : Int) (error : Option McError) :
    CanonicalCall McCanonicalInventory :=
  canonicalOutputOrNull library header value mode error McCanonicalHeader.normalizeInventory

structure McCanonicalBlockChange where
  protocol : Int
  packetId : Int
  direction : Int
  family : McPacketFamily
  position : McPosition
  stateId : Int
  recordCount : Nat
  records : List UInt8
  recordFormat : McMultiBlockRecordFormat
  suppressLightUpdates : Bool
  deriving Repr, DecidableEq

/-- A block change of which only the header is known. -/
def McCanonicalHeader.blockChange (header : McCanonicalHeader) : McCanonicalBlockChange where
  protocol := header.protocol
  packetId := header.packetId
  direction := header.direction
  family := header.family
  position := ⟨0, 0, 0⟩
  stateId := 0
  recordCount := 0
  records := []
  recordFormat := .legacy17
  suppressLightUpdates := false

/-- The branches of `mc_decode_canonical_block_change`. -/
def McCanonicalHeader.normalizeBlockChange (header : McCanonicalHeader) :
    McTypedPacket → Option McCanonicalBlockChange
  | .blockChange decoded => some
      { header.blockChange with
        position := decoded.position
        stateId := decoded.stateId
        recordCount := 1 }
  | .multiBlockChange decoded => some
      { header.blockChange with
        recordCount := decoded.recordCount
        records := decoded.records
        recordFormat := decoded.format
        suppressLightUpdates := decoded.suppressLightUpdates }
  | _ => none

def mcDecodeCanonicalBlockChange (library : PacketLibrary) (header : Option McCanonicalHeader)
    (value : Option McCanonicalBlockChange) (mode : Int) (error : Option McError) :
    CanonicalCall McCanonicalBlockChange :=
  canonicalOutputOrNull library header value mode error McCanonicalHeader.normalizeBlockChange

inductive CanonicalKind where
  | movement
  | action
  | inventory
  | blockChange
  deriving Repr, DecidableEq

/-- The structure that the packets of a family are normalized to. -/
def McPacketFamily.canonicalKind : McPacketFamily → Option CanonicalKind
  | .playerMovement | .vehicleMove | .serverPosition | .relativeEntityMove | .entityMoveLook
  | .entityTeleport | .entityHeadRotation | .entityVelocity => some .movement
  | .playerInput | .steerVehicle | .entityAction | .abilities | .useEntity | .attack | .armAnimation
  | .blockDig | .blockPlace | .useItem | .heldItemSlot | .teleportConfirm | .clientCommand =>
      some .action
  | .windowClick | .setCreativeSlot | .setSlot | .windowItems | .closeWindow => some .inventory
  | .blockChange | .multiBlockChange => some .blockChange
  | _ => none

/-- The structure that a decoded packet is normalized to. -/
def McTypedPacket.canonicalKind : McTypedPacket → Option CanonicalKind
  | .movement _ | .vehicle _ | .serverPosition _ | .entityMove _ | .entityTeleport _
  | .headRotation _ | .velocity _ => some .movement
  | .input _ | .action _ | .abilities _ | .useEntity _ | .arm _ | .dig _ | .place _ | .useItem _
  | .held _ | .teleportConfirm _ | .command _ => some .action
  | .windowClick _ | .creativeSlot _ | .setSlot _ | .windowItems _ | .closeWindow _ =>
      some .inventory
  | .blockChange _ | .multiBlockChange _ => some .blockChange
  | _ => none

/-- The decoder of a family returns a packet of its kind. -/
theorem typedDecodeDispatch_kind {validators : Validators} {protocol : Int}
    {direction : McPacketDirection} {name : String} {family : McPacketFamily}
    {reader after : McReader} {packet : McTypedPacket}
    (run : (typedDecodeDispatch validators protocol direction name family).run reader =
      (some packet, after)) :
    packet.canonicalKind = family.canonicalKind := by
  cases family with
  | unknown => cases run
  | _ =>
      obtain ⟨value, rfl, -⟩ := Program.map_eq_some run
      rfl

section sorting

variable {library : PacketLibrary} {header : McCanonicalHeader} {mode : Int}
  {error : Option McError} {packet : McTypedPacket}

/-- The packet that is selected is of the family that the names give. -/
theorem select_packetFamily {arguments : McDecodeArguments} {family : McPacketFamily}
    {selected : SelectedPacket} (named : arguments.packetFamily library.catalog = .ok family)
    (chosen : (arguments.select library).2 = .ok selected) :
    (arguments.select library).1 = some family ∧ selected.family = family := by
  unfold McDecodeArguments.packetFamily at named
  unfold McDecodeArguments.select at chosen ⊢
  dsimp only at chosen ⊢
  split_ifs at named chosen ⊢
  cases state : arguments.connectionState with
  | none => simp [state] at named
  | some state' =>
      cases direction : arguments.packetDirection with
      | none => simp [state, direction] at named
      | some direction' =>
          simp only [state, direction] at named chosen ⊢
          cases name : library.catalog.mcPacketName arguments.protocol state' direction'
              arguments.packetId with
          | none => simp [name] at named
          | some name' =>
              simp only [name] at named chosen ⊢
              cases named
              split_ifs at chosen ⊢
              cases chosen
              exact ⟨rfl, rfl⟩

/-- What the canonical structures take over from the header. -/
def McCanonicalHeader.names (header : McCanonicalHeader) : Int × Int × Int × McPacketFamily :=
  (header.protocol, header.packetId, header.direction, header.family)

/-- The header is valid, and what it wraps is decoded. -/
def McCanonicalHeader.Decodes (header : McCanonicalHeader) (library : PacketLibrary) (mode : Int)
    (error : Option McError) (packet : McTypedPacket) : Prop :=
  let arguments := header.arguments library.layout mode
  header.Valid library ∧
    (mcDecodePacket library arguments (arguments.errorInit error)).packet = some packet

theorem mcDecodePacket_of_named {arguments : McDecodeArguments} {family : McPacketFamily}
    (named : arguments.packetFamily library.catalog = .ok family)
    (returned : (mcDecodePacket library arguments error).packet = some packet) :
    (mcDecodePacket library arguments error).family = some family ∧
      packet.canonicalKind = family.canonicalKind := by
  obtain ⟨selected, after, chosen, run, -⟩ := mcDecodePacket_packet_iff.mp returned
  obtain ⟨written, same⟩ := select_packetFamily named chosen
  rw [mcDecodePacket_family, ← same]
  exact ⟨same ▸ written, typedDecodeDispatch_kind run⟩

theorem canonicalDecodeTyped_iff :
    (canonicalDecodeTyped library (some header) mode error).1 = some packet ↔
      header.Decodes library mode error packet := by
  unfold canonicalDecodeTyped McCanonicalHeader.Decodes
  dsimp only
  by_cases valid : header.Valid library
  · simp only [valid, if_true, true_and]
    constructor
    · intro decoded
      split_ifs at decoded
      exact decoded
    · intro returned
      have named : (header.arguments library.layout mode).packetFamily library.catalog =
        .ok header.family := valid.2
      rw [if_pos (mcDecodePacket_of_named named returned).1]
      exact returned
  · simp [valid]

theorem McCanonicalHeader.Decodes.kind (decodes : header.Decodes library mode error packet) :
    packet.canonicalKind = header.family.canonicalKind :=
  (mcDecodePacket_of_named (show (header.arguments library.layout mode).packetFamily
    library.catalog = .ok header.family from decodes.1.2) decodes.2).2

/-- What a call that normalizes to one kind of structure does: it succeeds where the packet is of
that kind, with a structure that names the packet, and leaves its output alone where it fails. -/
structure CanonicalCall.Sorts {α : Type} (call : CanonicalCall α) (storage : α)
    (names : α → Int × Int × Int × McPacketFamily) (library : PacketLibrary)
    (header : McCanonicalHeader) (mode : Int) (error : Option McError) (kind : CanonicalKind) :
    Prop where
  returned : call.returned = true ↔
    (∃ packet, header.Decodes library mode error packet) ∧ header.family.canonicalKind = some kind
  named : call.returned = true → ∃ view, call.output = some view ∧
    names view = header.names
  kept : call.returned = false → call.output = some storage

/-- The view is there exactly for a packet of its kind, and under the names of the header. -/
def McTypedPacket.Normalizes {α : Type} (packet : McTypedPacket) (header : McCanonicalHeader)
    (names : α → Int × Int × Int × McPacketFamily) (kind : CanonicalKind) (view : Option α) : Prop :=
  (view ≠ none ↔ packet.canonicalKind = some kind) ∧
    ∀ found, view = some found → names found = header.names

theorem canonicalOutput_sorts {α : Type} {normalize : McCanonicalHeader → McTypedPacket → Option α}
    {storage : α} {names : α → Int × Int × Int × McPacketFamily} {kind : CanonicalKind}
    (sorts : ∀ packet : McTypedPacket,
      packet.Normalizes header names kind (normalize header packet)) :
    (canonicalOutput library (some header) storage mode error normalize).Sorts storage names library
      header mode error kind := by
  unfold canonicalOutput
  rcases decoded : canonicalDecodeTyped library (some header) mode error with ⟨_ | packet, after⟩
  · have never : ¬ ∃ packet, header.Decodes library mode error packet := by
      rintro ⟨packet, decodes⟩
      rw [← canonicalDecodeTyped_iff, decoded] at decodes
      cases decodes
    exact ⟨by simp [never], nofun, fun _ => rfl⟩
  · have decodes : header.Decodes library mode error packet :=
      canonicalDecodeTyped_iff.mp (by rw [decoded])
    obtain ⟨kind, wraps⟩ := sorts packet
    rw [decodes.kind] at kind
    dsimp only
    cases normalized : normalize header packet with
    | none =>
        rw [normalized] at kind
        exact ⟨by simpa using fun _ _ => kind.not.mp (by simp), nofun, fun _ => rfl⟩
    | some view =>
        rw [normalized] at kind
        exact ⟨by simpa [kind.mp (by simp)] using ⟨packet, decodes⟩,
          fun _ => ⟨view, rfl, wraps view normalized⟩, nofun⟩

/-- Each of the four takes the packets of its kind, and no others. -/
theorem McTypedPacket.normalizes (packet : McTypedPacket) (header : McCanonicalHeader) :
    packet.Normalizes header (fun view => (view.protocol, view.packetId, view.direction, view.family))
        .movement (header.normalizeMovement packet) ∧
      packet.Normalizes header
        (fun view => (view.protocol, view.packetId, view.direction, view.family))
        .action (header.normalizeAction packet) ∧
      packet.Normalizes header
        (fun view => (view.protocol, view.packetId, view.direction, view.family))
        .inventory (header.normalizeInventory packet) ∧
      packet.Normalizes header
        (fun view => (view.protocol, view.packetId, view.direction, view.family))
        .blockChange (header.normalizeBlockChange packet) := by
  unfold Normalizes McCanonicalHeader.normalizeMovement McCanonicalHeader.normalizeAction
    McCanonicalHeader.normalizeInventory McCanonicalHeader.normalizeBlockChange
  cases packet <;> simp [canonicalKind, McCanonicalHeader.names, McCanonicalHeader.movement,
    McCanonicalHeader.action, McCanonicalHeader.inventory, McCanonicalHeader.blockChange]

end sorting

/-- A packet that is decoded has one canonical structure at most: of the four decoders the one of
its kind returns it, whatever the mode, and the others refuse it and write nothing. -/
theorem canonical_decoders_apart (library : PacketLibrary) (header : McCanonicalHeader) (mode : Int)
    (error : Option McError) (movement : McCanonicalMovement) (action : McCanonicalAction)
    (inventory : McCanonicalInventory) (blockChange : McCanonicalBlockChange) :
    (mcDecodeCanonicalMovement library (some header) (some movement) mode error).Sorts movement
        (fun view => (view.protocol, view.packetId, view.direction, view.family)) library header mode
        error .movement ∧
      (mcDecodeCanonicalAction library (some header) (some action) mode error).Sorts action
        (fun view => (view.protocol, view.packetId, view.direction, view.family)) library header mode
        error .action ∧
      (mcDecodeCanonicalInventory library (some header) (some inventory) mode error).Sorts inventory
        (fun view => (view.protocol, view.packetId, view.direction, view.family)) library header mode
        error .inventory ∧
      (mcDecodeCanonicalBlockChange library (some header) (some blockChange) mode error).Sorts
        blockChange (fun view => (view.protocol, view.packetId, view.direction, view.family)) library
        header mode error .blockChange := by
  refine ⟨?_, ?_, ?_, ?_⟩
  · exact canonicalOutput_sorts fun packet => (packet.normalizes header).1
  · exact canonicalOutput_sorts fun packet => (packet.normalizes header).2.1
  · exact canonicalOutput_sorts fun packet => (packet.normalizes header).2.2.1
  · exact canonicalOutput_sorts fun packet => (packet.normalizes header).2.2.2

end McProtocol
