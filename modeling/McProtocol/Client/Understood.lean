import McProtocol.Client.Actions
import McProtocol.Typed.PlayerActions
import McProtocol.Typed.SlotItems

/-! # What is understood of an action

The helpers of a client and the decoder of typed packets are two halves of one library. What a
helper sends is decoded to what its caller said, in every release, unless it is one of the few
things that a builder takes and a decoder does not.
-/

namespace McProtocol

namespace ClientAction

section Meaning

variable (protocol : Int)

/-- The values of the C structures. -/
def Representable : ClientAction → Prop
  | .entityAction action => ∀ value ∈ action, IsInt32 value.entityId ∧ IsInt32 value.jumpBoost
  | .swingArm entityId _ => IsInt32 entityId
  | .digBlock dig => ∀ value ∈ dig, value.Representable
  | .placeBlock place => place.Representable
  | .useItem use => IsInt32 use.sequence
  | .closeWindow windowId => IsInt32 windowId
  | .setCreativeSlot slot itemId _ => (-2 ^ 15 ≤ slot ∧ slot < 2 ^ 15) ∧ IsInt32 itemId
  | .setCreativeSlotDamage slot itemId _ _ => (-2 ^ 15 ≤ slot ∧ slot < 2 ^ 15) ∧ IsInt32 itemId
  | .clickWindow click => ∀ value ∈ click, value.empty.Representable ∧ IsInt32 value.clickedItemId
  | .attackEntity entityId => IsInt32 entityId
  | _ => True

/-- What the decoder insists on, of what a builder has accepted. Three packets have no decoder. -/
def Decodable : ClientAction → Prop
  | .command .. | .clientInformation _ | .clickContainerButton .. => False
  | .playerAbilities abilities => ∀ value ∈ abilities, value.Decodable protocol
  | .setCreativeSlot slot itemId count =>
      ShortId protocol itemId count ∧ -1 ≤ slot ∧ slot ≤ 53
  | .setCreativeSlotDamage slot itemId count _ =>
      ShortId protocol itemId count ∧ -1 ≤ slot ∧ slot ≤ 53
  | .clickWindow click =>
      ∀ value ∈ click, ShortId protocol value.clickedItemId value.clickedItemCount
  | _ => True

/-- The packet says what the action said, as far as the release has it. -/
def Shows : ClientAction → McTypedPacket → Prop
  | .entityAction action, packet => ∃ value ∈ action, packet = .action value
  | .playerInput flags, packet => packet = .input ⟨0, 0, flags, true⟩
  | .swingArm entityId hand, packet => packet = .arm (armOf protocol entityId hand)
  | .playerPosition position, packet => packet = .movement (position.movement protocol)
  | .playerAbilities abilities, packet =>
      ∃ value ∈ abilities, packet = .abilities (abilitiesOf protocol value)
  | .digBlock dig, packet => ∃ value ∈ dig, packet = .dig (digOf protocol value)
  | .placeBlock place, packet => ∃ seen, packet = .place seen ∧
      { place with location := decodedLocation protocol place.location }.ReadsBack seen protocol
  | .useItem use, packet =>
      if protocol ≤ 47 then ∃ seen, packet = .place seen ∧ use.ReadsBack seen
      else packet = .useItem (useOf protocol use)
  | .closeWindow windowId, packet => packet = .closeWindow ⟨windowId⟩
  | .setCreativeSlot slot itemId count, packet =>
      ∃ item, packet = .creativeSlot ⟨slot, item⟩ ∧ item.Carries itemId count 0
  | .setCreativeSlotDamage slot itemId count damage, packet =>
      ∃ item, packet = .creativeSlot ⟨slot, item⟩ ∧ item.Carries itemId count damage
  | .selectHotbarSlot slot, packet => packet = .held ⟨slot⟩
  | .clickWindow click, packet => ∃ value ∈ click, ∃ item,
      packet = .windowClick { emptyClick protocol value.empty with carriedItem := item } ∧
        item.Carries value.clickedItemId value.clickedItemCount 0
  | .attackEntity entityId, packet => packet = .useEntity (attackOf protocol entityId)
  | .requestRespawn, packet => packet = .command ⟨0⟩
  | _, _ => False

end Meaning

section Reading

variable {compressor : Compressor} {protocol : Int} {bytes : List UInt8} {validators : Validators}

/-- The decoder that the name of the packet selects. -/
def decoder (validators : Validators) (protocol : Int) (action : ClientAction) :
    DecodeM protocol McTypedPacket :=
  typedDecodeDispatch validators protocol .serverbound (action.packetName protocol)
    (mcPacketFamily .play .serverbound (action.packetName protocol))

theorem builds_some {α : Type} {write : α → WriteM Unit} {value : Option α}
    (builds : Builds (given write value) bytes) : ∃ there, value = some there ∧
      Builds (write there) bytes := by
  cases value with
  | none =>
      obtain ⟨there, -⟩ := builds_given builds
      obtain ⟨capacity, packet, built, -⟩ := builds
      exact absurd trivial (refuseWhen_eq_some built).1
  | some there => exact ⟨there, rfl, builds⟩

/-- A placement is read back, but for the greatest height of 1.7. -/
theorem Says.reads_place {place : McBlockPlace}
    (body : (ClientAction.placeBlock place).Says compressor protocol bytes)
    (standard : compressor.Standard) (representable : place.Representable) :
    ∃ seen, Reads .vanillaCompat (typedDecodeBlockPlace protocol).run seen bytes ∧
      { place with location := decodedLocation protocol place.location }.ReadsBack seen protocol := by
  obtain ⟨-, accepted, item, sent, rfl⟩ := emits_blockPlace.payload body
  exact reads_blockPlace standard representable accepted sent

/-- With a damage and without one the same bytes are sent. -/
theorem creativeSlot_reads {slot itemId count damage : Int}
    (builds : Builds (mcPacketSetCreativeSlotDamage protocol slot itemId count damage) bytes)
    (int : IsInt32 itemId) (decodable : ShortId protocol itemId count ∧ -1 ≤ slot ∧ slot ≤ 53) :
    ∃ item, Reads .vanillaCompat (validators.typedDecodeSetCreativeSlot protocol).run ⟨slot, item⟩
        bytes ∧ item.Carries itemId count damage := by
  obtain ⟨written, rfl⟩ := (emits_setCreativeSlotDamage slot).payload builds
  exact reads_setCreativeSlot written int decodable.1 decodable.2

theorem creativeSlot_decodable {slot itemId count damage : Int} {reader after : McReader}
    {packet : McTypedPacket}
    (builds : Builds (mcPacketSetCreativeSlotDamage protocol slot itemId count damage) bytes)
    (word : -2 ^ 15 ≤ slot ∧ slot < 2 ^ 15) (before : reader.Before bytes)
    (run : (McTypedPacket.creativeSlot <$> validators.typedDecodeSetCreativeSlot protocol).run reader =
      (some packet, after)) (whole : after.offset = after.size) :
    ShortId protocol itemId count ∧ -1 ≤ slot ∧ slot ≤ 53 := by
  obtain ⟨written, rfl⟩ := (emits_setCreativeSlotDamage slot).payload builds
  obtain ⟨seen, rfl, ran⟩ := Program.map_eq_some run
  exact setCreativeSlot_decodable written word before ran whole

theorem Says.reads {action : ClientAction} (body : action.Says compressor protocol bytes)
    (standard : compressor.Standard) (representable : action.Representable)
    (decodable : action.Decodable protocol) :
    ∃ packet, Reads .vanillaCompat (action.decoder validators protocol).run packet bytes ∧
      action.Shows protocol packet := by
  cases action with
  | command text clock => exact decodable.elim
  | clientInformation information => exact decodable.elim
  | clickContainerButton windowId buttonId => exact decodable.elim
  | entityAction action =>
      obtain ⟨value, rfl, builds⟩ := builds_some body
      obtain ⟨entity, jump⟩ := representable value rfl
      obtain ⟨-, positive, boosted, wire, known, rfl⟩ := (emits_entityAction value).payload builds
      exact ⟨_, (reads_entityAction entity jump positive boosted known).mapDecode, value, rfl, rfl⟩
  | playerInput flags =>
      obtain ⟨-, -, known, rfl⟩ := (emits_playerInput flags).payload body
      exact ⟨_, (reads_playerInput known).mapDecode, rfl⟩
  | swingArm entityId hand =>
      obtain ⟨swing, rfl⟩ := (emits_armAnimation entityId hand).payload body
      have reads : Reads .vanillaCompat (typedDecodeArmAnimation protocol).run _ _ :=
        reads_armAnimation swing representable
      unfold decoder packetName
      by_cases late : 777 ≤ protocol
      · simp only [if_pos late]
        exact ⟨_, reads.mapDecode, rfl⟩
      · simp only [if_neg late]
        exact ⟨_, reads.mapDecode, rfl⟩
  | playerPosition position =>
      obtain ⟨-, finite, rfl⟩ := (emits_playerPosition position).payload body
      exact ⟨_, (reads_movement finite).mapDecode, rfl⟩
  | playerAbilities abilities =>
      obtain ⟨value, rfl, builds⟩ := builds_some body
      obtain ⟨-, rfl⟩ := (emits_playerAbilities value).payload builds
      exact ⟨_, (reads_abilities (decodable value rfl)).mapDecode, value, rfl, rfl⟩
  | digBlock dig =>
      obtain ⟨value, rfl, builds⟩ := builds_some body
      have fields := representable value rfl
      obtain ⟨supported, valid, inside, rfl⟩ := (emits_blockDig protocol value).payload builds
      have location : value.location.Reachable protocol := by
        unfold McPosition.Reachable
        split_ifs at inside ⊢
        · exact ⟨fields.x, inside, fields.z⟩
        · exact inside
      exact ⟨_, (reads_blockDig supported valid location fields.sequence).mapDecode, value, rfl, rfl⟩
  | placeBlock place =>
      obtain ⟨seen, reads, back⟩ := body.reads_place standard representable
      exact ⟨_, reads.mapDecode, seen, rfl, back⟩
  | useItem use =>
      obtain ⟨accepted, wrote⟩ := emits_useItem.payload body
      unfold decoder packetName Shows
      by_cases old : protocol ≤ 47
      · rw [if_pos old] at wrote
        obtain ⟨item, sent, rfl⟩ := wrote
        obtain ⟨seen, reads, back⟩ :=
          (reads_airPlace old standard accepted.supported sent :
            ∃ seen, Reads .vanillaCompat (typedDecodeBlockPlace protocol).run seen _ ∧ _)
        simp only [if_pos old]
        exact ⟨_, reads.mapDecode, seen, rfl, back⟩
      · rw [if_neg old] at wrote
        subst wrote
        simp only [if_neg old]
        exact ⟨_, (reads_useItem old accepted representable).mapDecode, rfl⟩
  | closeWindow windowId =>
      obtain ⟨-, natural, small, rfl⟩ := (emits_closeWindow windowId).payload body
      exact ⟨_, (reads_closeWindow representable natural small).mapDecode, rfl⟩
  | setCreativeSlot slot itemId count =>
      obtain ⟨item, reads, carries⟩ := creativeSlot_reads body representable.2 decodable
      exact ⟨_, reads.mapDecode, item, rfl, carries⟩
  | setCreativeSlotDamage slot itemId count damage =>
      obtain ⟨item, reads, carries⟩ := creativeSlot_reads body representable.2 decodable
      exact ⟨_, reads.mapDecode, item, rfl, carries⟩
  | selectHotbarSlot slot =>
      obtain ⟨-, inside, rfl⟩ := (emits_heldItemSlot slot).payload body
      exact ⟨_, (reads_heldItemSlot inside).mapDecode, rfl⟩
  | clickWindow click =>
      obtain ⟨value, rfl, builds⟩ := builds_some body
      obtain ⟨empty, int⟩ := representable value rfl
      obtain ⟨accepted, rfl⟩ := emits_windowClick.payload builds
      obtain ⟨item, reads, carries⟩ :=
        (reads_windowClick_carrying accepted empty int (decodable value rfl) :
          ∃ item, Reads .vanillaCompat (validators.typedDecodeWindowClick protocol).run _ _ ∧ _)
      exact ⟨_, reads.mapDecode, value, rfl, item, rfl, carries⟩
  | attackEntity entityId =>
      obtain ⟨-, positive, rfl⟩ := (emits_attackEntity entityId).payload body
      have reads := (reads_attack protocol representable positive).mapDecode
        (f := McTypedPacket.useEntity)
      unfold decoder packetName
      by_cases dedicated : 775 ≤ protocol
      · simp only [dedicated, decide_true, if_true] at reads ⊢
        exact ⟨_, reads, rfl⟩
      · simp only [dedicated, decide_false, if_false] at reads ⊢
        exact ⟨_, reads, rfl⟩
  | requestRespawn =>
      obtain ⟨-, rfl⟩ := emits_respawnRequest.payload body
      exact ⟨_, reads_respawnRequest.mapDecode, rfl⟩

/-- What is decoded to the end of the payload is decodable. -/
theorem Says.decodable {action : ClientAction} (body : action.Says compressor protocol bytes)
    (representable : action.Representable) {reader after : McReader} {packet : McTypedPacket}
    (before : reader.Before bytes)
    (run : (action.decoder validators protocol).run reader = (some packet, after))
    (whole : after.offset = after.size) : action.Decodable protocol := by
  rw [← List.append_nil bytes] at before
  cases action with
  | command text clock =>
      unfold decoder packetName at run
      by_cases old : protocol ≤ 758
      · simp only [if_pos old] at run
        cases run
      · simp only [if_neg old] at run
        cases run
  | clientInformation information => cases run
  | clickContainerButton windowId buttonId => cases run
  | playerAbilities abilities =>
      obtain ⟨value, rfl, builds⟩ := builds_some body
      obtain ⟨-, rfl⟩ := (emits_playerAbilities value).payload builds
      obtain ⟨seen, rfl, ran⟩ := Program.map_eq_some run
      rintro _ ⟨⟩
      rw [List.append_nil] at before
      exact abilities_decodable before ran
  | setCreativeSlot slot itemId count =>
      rw [List.append_nil] at before
      exact creativeSlot_decodable body representable.1 before run whole
  | setCreativeSlotDamage slot itemId count damage =>
      rw [List.append_nil] at before
      exact creativeSlot_decodable body representable.1 before run whole
  | clickWindow click =>
      obtain ⟨value, rfl, builds⟩ := builds_some body
      obtain ⟨accepted, rfl⟩ := emits_windowClick.payload builds
      obtain ⟨seen, rfl, ran⟩ := Program.map_eq_some run
      rintro _ ⟨⟩
      rw [List.append_nil] at before
      exact windowClick_decodable accepted (representable value rfl).1 before ran whole
  | _ => trivial

end Reading

section Receiving

variable {library : PacketLibrary} {protocol : Int} {name : String} {payload : List UInt8}
  {error : Option McError} {packet : McTypedPacket}

/-- What the other side decodes of a packet that came in, in compat mode. -/
def received (library : PacketLibrary) (protocol packetId : Int) (payload : List UInt8)
    (error : Option McError) : Option McTypedPacket :=
  (mcDecodePacket library
    (playArguments protocol 0 packetId 0 payload library.layout.storageSize) error).packet

/-- The name of a packet selects its decoder, and no other. -/
theorem select_named {arguments : McDecodeArguments} {selected : SelectedPacket}
    (play : arguments.connectionState = some .play)
    (serverbound : arguments.packetDirection = some .serverbound)
    (named : library.catalog.mcPacketName arguments.protocol .play .serverbound arguments.packetId =
      some name)
    (chosen : (arguments.select library).2 = .ok selected) :
    selected = ⟨.serverbound, name, mcPacketFamily .play .serverbound name⟩ := by
  unfold McDecodeArguments.select at chosen
  rw [play, serverbound] at chosen
  simp only [named] at chosen
  split_ifs at chosen
  cases chosen
  rfl

theorem received_eq_some (named : library.catalog.mcPacketName protocol .play .serverbound
      (library.catalog.mcPacketId protocol .play .serverbound name) = some name)
    (returned : received library protocol
      (library.catalog.mcPacketId protocol .play .serverbound name) payload error = some packet) :
    ∃ reader after, reader.Before payload ∧
      (typedDecodeDispatch library.validators protocol .serverbound name
        (mcPacketFamily .play .serverbound name)).run reader = (some packet, after) ∧
      after.offset = after.size := by
  obtain ⟨selected, after, chosen, run, -, whole⟩ := mcDecodePacket_packet_iff.mp returned
  have same := select_named rfl rfl named chosen
  subst same
  exact ⟨_, after, bodyReader_before, run, whole⟩

theorem received_reads (typed : Typed library protocol name)
    (reads : Reads .vanillaCompat (typedDecodeDispatch library.validators protocol .serverbound name
      (mcPacketFamily .play .serverbound name)).run packet payload) :
    received library protocol (library.catalog.mcPacketId protocol .play .serverbound name) payload
      error = some packet := by
  let arguments := (playHeader library protocol name payload).arguments library.layout 0
  have before : (arguments.bodyReader error).Before (payload ++ []) := by
    rw [List.append_nil]
    exact bodyReader_before
  have size := before.size_eq
  rw [List.append_nil] at size
  have chosen := congrArg Prod.snd (typed.select payload)
  exact mcDecodePacket_packet_iff.mpr ⟨_, _, chosen, reads _ [] rfl before, rfl, size.symm⟩

end Receiving

/-- A packet with a decoder has a family. -/
theorem Decodable.family {action : ClientAction} {protocol : Int}
    (decodable : action.Decodable protocol) :
    mcPacketFamily .play .serverbound (action.packetName protocol) ≠ .unknown := by
  cases action with
  | command text clock => exact decodable.elim
  | clientInformation information => exact decodable.elim
  | clickContainerButton windowId buttonId => exact decodable.elim
  | swingArm _ _ | useItem _ | attackEntity _ =>
      unfold packetName
      dsimp only
      split_ifs <;> decide
  | _ =>
      unfold packetName
      dsimp only
      decide

theorem Says.received_iff {others : McPacketCatalog} {validators : Validators}
    {layout : PacketLayout} {compressor : Compressor} {action : ClientAction} {protocol : Int}
    {bytes : List UInt8} {error : Option McError} (body : action.Says compressor protocol bytes)
    (standard : compressor.Standard) (representable : action.Representable) :
    let library := generatedLibrary others validators layout
    let seen := received library protocol
      (library.catalog.mcPacketId protocol .play .serverbound (action.packetName protocol)) bytes error
    (∀ packet, seen = some packet → action.Shows protocol packet) ∧
      (seen = none ↔ ¬ action.Decodable protocol) := by
  intro library seen
  have decodes (decodable : action.Decodable protocol) :
      ∃ packet, seen = some packet ∧ action.Shows protocol packet := by
    obtain ⟨packet, reads, shown⟩ := body.reads standard representable decodable
    have typed : Typed library protocol (action.packetName protocol) :=
      ⟨body.supported, actionNames_listed body.supported body.named, decodable.family⟩
    exact ⟨packet, received_reads typed reads, shown⟩
  have decodable {packet : McTypedPacket} (returned : seen = some packet) :
      action.Decodable protocol := by
    obtain ⟨reader, after, before, run, whole⟩ := received_eq_some body.mcPacketName returned
    exact body.decodable representable before run whole
  constructor
  · intro packet returned
    obtain ⟨other, again, shown⟩ := decodes (decodable returned)
    rw [returned] at again
    cases again
    exact shown
  · constructor
    · intro none able
      obtain ⟨packet, returned, -⟩ := decodes able
      rw [none] at returned
      cases returned
    · intro unable
      apply Option.eq_none_iff_forall_ne_some.mpr
      intro packet returned
      exact unable (decodable returned)

end ClientAction

open ClientAction in
/-- What a player does through a helper, the other side decodes from the frame: to a packet that
says what was done, unless it is one of the packets or of the values that have no decoder. -/
theorem client_actions_understood (others : McPacketCatalog) (validators : Validators)
    (layout : PacketLayout) (host : Host) (generated : host.catalog = packetCatalog others)
    (compressor : Compressor) (obeys : compressor.Obeys) (standard : compressor.Standard)
    (action : ClientAction) (representable : action.Representable) (world : World)
    (playing : world.client.state = .play) (side : world.client.serverSide = false)
    (performed : (action.perform host compressor world).1 = some ()) (error : Option McError) :
    let library := generatedLibrary others validators layout
    let protocol := world.client.profile.protocol
    ∃ frame, (action.perform host compressor world).2.frames = world.frames ++ [frame] ∧
      (∀ packet, received library protocol frame.packetId frame.payload error = some packet →
        action.Shows protocol packet) ∧
      (received library protocol frame.packetId frame.payload error = none ↔
        ¬ action.Decodable protocol) := by
  intro library protocol
  obtain ⟨bytes, body, -, frames⟩ := perform_frames obeys performed
  refine ⟨_, frames, ?_⟩
  have named : world.client.idOf host (action.packetName protocol) =
      library.catalog.mcPacketId protocol .play .serverbound (action.packetName protocol) := by
    rw [McClient.idOf, playing, side, generated]
    rfl
  dsimp only
  rw [named]
  exact body.received_iff standard representable

/-- On 47 an item with an id of 16 bits is sent, and not understood. -/
theorem client_actions_understood_wide :
    let host := { Host.ample (.knowing [] []) with catalog := packetCatalog ⟨fun _ _ _ => []⟩ }
    let client := (mcClientCreate 47 true true).toOption.get (by decide)
    let world := World.around { client with socketFd := 3, state := .play }
    let library := generatedLibrary ⟨fun _ _ _ => []⟩ (plainLibrary [] 4 (by decide)).validators
      (plainLibrary [] 4 (by decide)).layout
    let compressor : Compressor := ⟨fun size => size, fun _ => true, fun _ _ => none⟩
    let action : ClientAction := .setCreativeSlot 36 40000 1
    ∃ frame, (action.perform host compressor world).2.frames = [frame] ∧
      ClientAction.received library 47 frame.packetId frame.payload none = none := by
  intro host client world library compressor action
  obtain ⟨frame, frames, -, refused⟩ := client_actions_understood ⟨fun _ _ _ => []⟩
    (plainLibrary [] 4 (by decide)).validators (plainLibrary [] 4 (by decide)).layout host rfl
    compressor (fun _ _ _ found => by cases found) (fun _ _ _ found => by cases found) action
    ⟨⟨by decide, by decide⟩, by decide, by decide⟩ world rfl rfl (by decide +kernel) none
  refine ⟨frame, frames, refused.mpr ?_⟩
  rintro ⟨short, -⟩
  exact absurd (short (by decide) (by decide)) (by decide)

end McProtocol
