import McProtocol.Canonical
import McProtocol.Typed.Bodies

/-! # Decoding what a player sends

A packet of a player is built by one function and decoded by another. The call that decodes it
finds the decoder of its family, so that what is returned is what the grammar of that decoder says
of the payload.
-/

namespace McProtocol

/-- The call decodes, in strict mode and into memory that is large enough, the payload of a packet
that a player sends. -/
structure McDecodeArguments.Receives (arguments : McDecodeArguments) (library : PacketLibrary)
    (name : String) (payload : List UInt8) : Prop where
  state : arguments.state = 3
  direction : arguments.direction = 0
  packetId : arguments.packetId =
    library.catalog.mcPacketId arguments.protocol .play .serverbound name
  payload_eq : arguments.payload = .bytes payload
  mode : arguments.mode = 1
  family : arguments.family ≠ none
  room : ∃ output, arguments.output = some output ∧
    mcPacketDecodedSize library.layout (mcPacketFamily .play .serverbound name) ≤ output.length

namespace McDecodeArguments.Receives

variable {arguments : McDecodeArguments} {library : PacketLibrary} {name : String}
variable {payload : List UInt8} {error : Option McError} {packet : McTypedPacket}

theorem decodeMode (receives : arguments.Receives library name payload) :
    arguments.decodeMode = some .strict := by
  rw [McDecodeArguments.decodeMode, receives.mode]
  rfl

theorem strict (receives : arguments.Receives library name payload) :
    (arguments.bodyReader error).mode = .strict := by
  change arguments.decodeMode.getD .vanillaCompat = .strict
  rw [receives.decodeMode]
  rfl

theorem select (receives : arguments.Receives library name payload)
    (typed : Typed library arguments.protocol name) :
    (arguments.select library).2 =
      .ok ⟨.serverbound, name, mcPacketFamily .play .serverbound name⟩ := by
  obtain ⟨output, there, fits⟩ := receives.room
  have named := typed.packetName
  rw [← receives.packetId] at named
  have state : arguments.connectionState = some .play := by
    rw [connectionState, receives.state]
    rfl
  have direction : arguments.packetDirection = some .serverbound := by
    rw [packetDirection, receives.direction]
    rfl
  have present : ¬ (arguments.payload.Missing ∨ arguments.output = none ∨ arguments.family = none
      ∨ arguments.decodeMode = none) := by
    rw [receives.payload_eq, there, receives.decodeMode]
    simp [Buffer.Missing, receives.family]
  have supported : ¬ mcProtocolSupported arguments.protocol = false := by
    rw [Bool.not_eq_false]
    exact typed.supported
  have room : ¬ (arguments.output.getD []).length <
      mcPacketDecodedSize library.layout (mcPacketFamily .play .serverbound name) := by
    rw [there]
    exact not_lt.mpr fits
  unfold McDecodeArguments.select
  rw [if_neg present, if_neg supported, state, direction]
  simp only [named]
  rw [if_neg (decodedSize_ne_zero library.layout typed.decoded), if_neg room]

/-- A payload that the decoder of the family reads as a packet. -/
theorem packet_eq_some (receives : arguments.Receives library name payload)
    (typed : Typed library arguments.protocol name)
    (reads : Reads .strict (typedDecodeDispatch library.validators arguments.protocol
      .serverbound name (mcPacketFamily .play .serverbound name)).run packet payload) :
    (mcDecodePacket library arguments error).packet = some packet := by
  have content : arguments.payload.content = payload := by
    rw [receives.payload_eq]
    rfl
  have before : (arguments.bodyReader error).Before (payload ++ []) := by
    rw [List.append_nil, ← content]
    exact bodyReader_before
  have ran := reads _ [] receives.strict before
  have size := before.size_eq
  rw [List.append_nil] at size
  exact mcDecodePacket_packet_iff.mpr ⟨_, _, receives.select typed, ran, rfl, size.symm⟩

/-- What the call returns is what the decoder of the family reads the whole payload as. -/
theorem packet_iff (receives : arguments.Receives library name payload)
    (typed : Typed library arguments.protocol name) {G : McTypedPacket → List UInt8 → Prop}
    (accepts : Accepts .strict (typedDecodeDispatch library.validators arguments.protocol
      .serverbound name (mcPacketFamily .play .serverbound name)).run G) :
    (mcDecodePacket library arguments error).packet = some packet ↔ G packet payload := by
  constructor
  · intro returned
    obtain ⟨selected, after, chosen, run, -, whole⟩ := mcDecodePacket_packet_iff.mp returned
    rw [receives.select typed] at chosen
    cases chosen
    have derived := accepts.payload receives.strict run whole
    rwa [receives.payload_eq] at derived
  · exact fun derived => receives.packet_eq_some typed (accepts.complete derived)

end McDecodeArguments.Receives

/-- The packet of a name, decoded into memory that holds it. -/
theorem playArguments_receives (library : PacketLibrary) (protocol : Int) (name : String)
    (payload : List UInt8) {size : Nat}
    (room : mcPacketDecodedSize library.layout (mcPacketFamily .play .serverbound name) ≤ size) :
    (playArguments protocol 0 (library.catalog.mcPacketId protocol .play .serverbound name) 1 payload
      size).Receives library name payload :=
  ⟨rfl, rfl, rfl, rfl, rfl, nofun, _, rfl, by rwa [List.length_replicate]⟩

/-- What a builder can write it writes, given the room. -/
theorem Emits.builds {build : WriteM Unit} {W : List UInt8 → Prop} {payload : List UInt8}
    (emits : Emits build W) (derived : W payload) : Builds build payload := by
  obtain ⟨packet, built, -, body⟩ := (emits.complete derived).build (Nat.le_refl payload.length)
  exact ⟨payload.length, packet, built, body⟩

end McProtocol
