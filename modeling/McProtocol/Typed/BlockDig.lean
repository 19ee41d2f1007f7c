import McProtocol.Typed.Position
import McProtocol.Typed.SentPackets

/-! # Digging

A dig is built and decoded in three layouts. The statuses of 777 have a gap behind the first, which
the builder steps over and the decoder refuses.
-/

namespace McProtocol

/-- The values of the C structure. -/
structure McBlockDig.Representable (value : McBlockDig) : Prop where
  status : IsInt32 value.status
  x : IsInt32 value.location.x
  y : IsInt32 value.location.y
  z : IsInt32 value.location.z
  face : -2 ^ 7 ≤ value.face ∧ value.face < 2 ^ 7
  sequence : IsInt32 value.sequence

/-- What both the builder and the decoder insist on. -/
structure McBlockDig.Valid (value : McBlockDig) : Prop where
  status : 0 ≤ value.status ∧ value.status ≤ 6
  face : 0 ≤ value.face ∧ value.face ≤ 5
  sequence : 0 ≤ value.sequence

/-- Where a block of a release can be. -/
def McPosition.Reachable (protocol : Int) (value : McPosition) : Prop :=
  if protocol ≤ 5 then IsInt32 value.x ∧ (0 ≤ value.y ∧ value.y ≤ 255) ∧ IsInt32 value.z
  else value.InRange

/-- A status on the wire. -/
def wireStatus (protocol status : Int) : Int :=
  if 777 ≤ protocol ∧ 0 < status then status + 1 else status

/-- The bytes of a dig whose status is given as it is on the wire. -/
def digBytes (protocol status : Int) (value : McBlockDig) : List UInt8 :=
  if protocol ≤ 5 then
    [toByte status] ++ (int32Bytes value.location.x ++ ([toByte value.location.y] ++
      (int32Bytes value.location.z ++ [toByte value.face])))
  else
    encodeVarint status ++ (BigEndian.bytes 8 (value.location.packed protocol) ++
      ([toByte value.face] ++ if 759 ≤ protocol then encodeVarint value.sequence else []))

theorem emits_blockDig (protocol : Int) (value : McBlockDig) :
    Emits (mcPacketBlockDig protocol value) fun bytes =>
      mcProtocolSupported protocol = true ∧ value.Valid ∧
        (if protocol ≤ 5 then 0 ≤ value.location.y ∧ value.location.y ≤ 255
          else value.location.InRange) ∧
        bytes = digBytes protocol (wireStatus protocol value.status) value := by
  refine (Emits.checked (.either (.checked (.bind (.i8 _) (.bind (.i32 _) (.bind (.u8 _)
    (.bind (.i32 _) (.i8 _)))))) (.bind (.varint _) (.bind (emits_position _ _) (.bind (.i8 _)
      (.when (.varint _))))))).congr fun bytes => ?_
  simp only [not_or, Bool.not_eq_false, not_lt]
  by_cases legacy : protocol ≤ 5
  · have older : ¬ (777 ≤ protocol ∧ 0 < value.status) := by omega
    simp only [if_pos legacy, digBytes, wireStatus, if_neg older]
    constructor
    · rintro ⟨⟨supported, low, high, least, greatest, natural⟩, inside, _, _, rfl, rfl, _, _, rfl,
        rfl, _, _, rfl, rfl, _, _, rfl, rfl, rfl⟩
      exact ⟨supported, ⟨⟨low, high⟩, ⟨least, greatest⟩, natural⟩, inside, rfl⟩
    · rintro ⟨supported, ⟨⟨low, high⟩, ⟨least, greatest⟩, natural⟩, inside, rfl⟩
      exact ⟨⟨supported, low, high, least, greatest, natural⟩, inside, _, _, rfl, rfl, _, _, rfl,
        rfl, _, _, rfl, rfl, _, _, rfl, rfl, rfl⟩
  · simp only [if_neg legacy, digBytes, wireStatus]
    constructor
    · rintro ⟨⟨supported, low, high, least, greatest, natural⟩, _, _, rfl, rfl, _, _, rfl,
        ⟨-, inside, rfl⟩, _, tail, rfl, rfl, last⟩
      refine ⟨supported, ⟨⟨low, high⟩, ⟨least, greatest⟩, natural⟩, inside, ?_⟩
      split_ifs at last ⊢ <;> rw [last] <;> rfl
    · rintro ⟨supported, ⟨⟨low, high⟩, ⟨least, greatest⟩, natural⟩, inside, rfl⟩
      refine ⟨⟨supported, low, high, least, greatest, natural⟩, _, _, rfl, rfl, _, _, rfl,
        ⟨supported, inside, rfl⟩, _, _, rfl, rfl, ?_⟩
      split_ifs <;> rfl

/-- A body, with the status as it is on the wire. -/
structure IsDigBody (protocol : Int) (wire : McBlockDig) (bytes : List UInt8) : Prop where
  status : if protocol ≤ 5 then -2 ^ 7 ≤ wire.status ∧ wire.status < 2 ^ 7 else IsInt32 wire.status
  location : wire.location.Reachable protocol
  face : -2 ^ 7 ≤ wire.face ∧ wire.face < 2 ^ 7
  sequence : if 759 ≤ protocol then IsInt32 wire.sequence else wire.sequence = 0
  bytes_eq : bytes = digBytes protocol wire.status wire

theorem accepts_readBlockDig {protocol : Int} (supported : mcProtocolSupported protocol = true) :
    Accepts .strict (readBlockDig protocol).run (IsDigBody protocol) := by
  unfold readBlockDig
  by_cases legacy : protocol ≤ 5
  · have older : ¬ 759 ≤ protocol := by omega
    rw [if_pos legacy]
    refine Accepts.congr (accepts_i8.bind fun status => accepts_i32.bind fun x => accepts_u8.bind
      fun y => accepts_i32.bind fun z => accepts_i8.bind fun face =>
        .pure (⟨status, ⟨x, y.toNat, z⟩, face, 0⟩ : McBlockDig)) fun wire bytes => ⟨?_, ?_⟩
    · rintro ⟨status, _, _, rfl, ⟨small, rfl⟩, x, _, _, rfl, ⟨intX, rfl⟩, y, _, _, rfl, rfl, z, _, _,
        rfl, ⟨intZ, rfl⟩, face, _, _, rfl, ⟨flat, rfl⟩, rfl, rfl⟩
      have byte : 0 ≤ (y.toNat : Int) ∧ (y.toNat : Int) ≤ 255 := by
        have small := y.toNat_lt
        omega
      constructor
      · rw [if_pos legacy]
        exact small
      · rw [McPosition.Reachable, if_pos legacy]
        exact ⟨intX, byte, intZ⟩
      · exact flat
      · rw [if_neg older]
      · simp only [digBytes, if_pos legacy, toByte_toNat, List.append_nil]
        rfl
    · rintro ⟨status, location, face, sequence, rfl⟩
      rw [if_pos legacy] at status
      rw [McPosition.Reachable, if_pos legacy] at location
      rw [if_neg older] at sequence
      obtain ⟨intX, ⟨low, high⟩, intZ⟩ := location
      rcases wire with ⟨state, ⟨x, y, z⟩, side, number⟩
      simp only [digBytes, if_pos legacy] at *
      refine ⟨state, _, _, rfl, ⟨status, rfl⟩, x, _, _, rfl, ⟨intX, rfl⟩, toByte y, _, _, rfl, rfl, z,
        _, _, rfl, ⟨intZ, rfl⟩, side, _, [], (List.append_nil _).symm, ⟨face, rfl⟩, ?_, rfl⟩
      rw [toNat_toByte low (by omega), sequence]
  · rw [if_neg legacy]
    refine Accepts.congr (accepts_varint.bind fun status => (accepts_position .strict protocol).bind
      fun location => accepts_i8.bind fun face => .bind (.either accepts_varint (.pure 0))
        fun sequence => .pure (⟨status, location, face, sequence⟩ : McBlockDig))
          fun wire bytes => ⟨?_, ?_⟩
    · rintro ⟨status, _, _, rfl, isStatus, location, _, _, rfl, ⟨-, inside, rfl⟩, face, _, _, rfl,
        ⟨flat, rfl⟩, sequence, tail, _, rfl, isTail, rfl, rfl⟩
      obtain ⟨int, rfl⟩ := isVarint_strict.mp isStatus
      constructor
      · rwa [if_neg legacy]
      · rw [McPosition.Reachable, if_neg legacy]
        exact inside
      · exact flat
      · split_ifs at isTail ⊢
        · exact isTail.int32
        · exact isTail.1
      · simp only [digBytes, if_neg legacy]
        split_ifs at isTail ⊢
        · rw [isTail.strict, List.append_nil]
          rfl
        · rw [isTail.2]
          rfl
    · rintro ⟨status, location, face, sequence, rfl⟩
      rw [if_neg legacy] at status
      rw [McPosition.Reachable, if_neg legacy] at location
      simp only [digBytes, if_neg legacy]
      refine ⟨wire.status, _, _, rfl, isVarint_encode status, wire.location, _, _, rfl,
        ⟨supported, location, rfl⟩, wire.face, _, _, rfl, ⟨face, rfl⟩, wire.sequence, _, [],
        (List.append_nil _).symm, ?_, rfl, rfl⟩
      split_ifs at sequence ⊢
      · exact isVarint_encode sequence
      · exact ⟨sequence, rfl⟩

/-- The statuses of the wire that have a meaning, and which. -/
theorem wireStatus_iff {protocol wire status : Int} (low : 0 ≤ status) :
    (¬ (777 ≤ protocol ∧ (wire = 1 ∨ 7 < wire)) ∧
        (if 777 ≤ protocol ∧ 1 < wire then wire - 1 else wire) = status) ↔
      wire = wireStatus protocol status ∧ (777 ≤ protocol → status ≤ 6) := by
  unfold wireStatus
  split_ifs <;> omega

/-- A payload of a dig. -/
structure IsDig (protocol : Int) (value : McBlockDig) (bytes : List UInt8) : Prop where
  valid : value.Valid
  location : value.location.Reachable protocol
  sequence : if 759 ≤ protocol then IsInt32 value.sequence else value.sequence = 0
  bytes_eq : bytes = digBytes protocol (wireStatus protocol value.status) value

theorem accepts_blockDig {protocol : Int} (supported : mcProtocolSupported protocol = true) :
    Accepts .strict (typedDecodeBlockDig protocol).run (IsDig protocol) := by
  have last (wire : McBlockDig) (status : Int) : Accepts .strict (do
        typedRequire (0 ≤ status ∧ status ≤ 6 ∧ 0 ≤ wire.face ∧ wire.face ≤ 5 ∧ 0 ≤ wire.sequence)
        pure { wire with status := status } : DecodeM protocol McBlockDig).run fun value bytes =>
      (0 ≤ status ∧ status ≤ 6 ∧ 0 ≤ wire.face ∧ wire.face ≤ 5 ∧ 0 ≤ wire.sequence) ∧
        value = { wire with status := status } ∧ bytes = [] :=
    .guarded accepts_typedRequire (.pure _)
  refine ((accepts_readBlockDig supported).bind fun wire => .guarded accepts_typedRequire
    (last wire _)).congr fun value bytes => ⟨?_, ?_⟩
  · rintro ⟨wire, _, _, rfl, body, known, ⟨low, high, least, greatest, natural⟩, rfl, rfl⟩
    obtain ⟨same, -⟩ := (wireStatus_iff low).mp ⟨known, rfl⟩
    refine ⟨⟨⟨low, high⟩, ⟨least, greatest⟩, natural⟩, body.location, body.sequence, ?_⟩
    rw [List.append_nil, ← same]
    exact body.bytes_eq
  · rintro ⟨⟨⟨low, high⟩, ⟨least, greatest⟩, natural⟩, location, sequence, rfl⟩
    obtain ⟨known, back⟩ := (wireStatus_iff low).mpr
      ⟨(rfl : wireStatus protocol value.status = _), fun _ => high⟩
    have status : 0 ≤ wireStatus protocol value.status ∧ wireStatus protocol value.status ≤ 7 := by
      unfold wireStatus
      split_ifs <;> omega
    have byte : -2 ^ 7 ≤ wireStatus protocol value.status ∧
        wireStatus protocol value.status < 2 ^ 7 := by omega
    have int : IsInt32 (wireStatus protocol value.status) := ⟨by omega, by omega⟩
    have face : -2 ^ 7 ≤ value.face ∧ value.face < 2 ^ 7 := by omega
    refine ⟨{ value with status := wireStatus protocol value.status }, _, [],
      (List.append_nil _).symm, ⟨?_, location, face, sequence, rfl⟩, known, ?_, ?_, rfl⟩
    · split_ifs
      · exact byte
      · exact int
    · rw [back]
      exact ⟨low, high, least, greatest, natural⟩
    · rw [back]

section roundTrip

variable (others : McPacketCatalog) (validators : Validators) (layout : PacketLayout)

/-- What the builder wrote decodes to the dig it was given, without the sequence that releases
before 759 do not have, and whatever decodes to a dig is what the builder writes of it. -/
theorem blockDig_roundTrip (arguments : McDecodeArguments) (payload : List UInt8)
    (error : Option McError)
    (receives : arguments.Receives (generatedLibrary others validators layout) "block_dig" payload) :
    (∀ value : McBlockDig, value.Representable →
      Builds (mcPacketBlockDig arguments.protocol value) payload →
      (mcDecodePacket (generatedLibrary others validators layout) arguments error).packet =
        some (.dig { value with
          sequence := if 759 ≤ arguments.protocol then value.sequence else 0 })) ∧
    ∀ packet,
      (mcDecodePacket (generatedLibrary others validators layout) arguments error).packet =
          some packet →
        ∃ value, packet = .dig value ∧
          Builds (mcPacketBlockDig arguments.protocol value) payload := by
  constructor
  · intro value representable builds
    obtain ⟨supported, valid, inside, rfl⟩ := (emits_blockDig _ value).payload builds
    have typed : Typed (generatedLibrary others validators layout) arguments.protocol "block_dig" :=
      ⟨supported, packetCatalog_listed supported (by simp [lastingPackets]), by decide⟩
    have location : value.location.Reachable arguments.protocol := by
      unfold McPosition.Reachable
      split_ifs at inside ⊢
      · exact ⟨representable.x, inside, representable.z⟩
      · exact inside
    refine receives.packet_eq_some typed (Reads.mapDecode ((accepts_blockDig supported).complete
      ⟨⟨valid.status, valid.face, ?_⟩, location, ?_, ?_⟩))
    · dsimp only
      split_ifs
      · exact valid.sequence
      · exact Int.le_refl 0
    · dsimp only
      split_ifs
      · exact representable.sequence
      · rfl
    · unfold digBytes
      split_ifs <;> rfl
  · intro packet returned
    obtain ⟨_, _, chosen, _⟩ := mcDecodePacket_packet_iff.mp returned
    have supported := select_supported chosen
    have typed : Typed (generatedLibrary others validators layout) arguments.protocol "block_dig" :=
      ⟨supported, packetCatalog_listed supported (by simp [lastingPackets]), by decide⟩
    obtain ⟨value, rfl, dig⟩ :=
      (receives.packet_iff typed ((accepts_blockDig supported).map McTypedPacket.dig)).mp returned
    refine ⟨value, rfl, (emits_blockDig _ value).builds ⟨supported, dig.valid, ?_, dig.bytes_eq⟩⟩
    have location := dig.location
    unfold McPosition.Reachable at location
    split_ifs at location ⊢
    · exact location.2.1
    · exact location

/-- Digging at a block on 47. -/
theorem blockDig_roundTrip_started :
    let library := generatedLibrary ⟨fun _ _ _ => []⟩ (plainLibrary [] 4 (by decide)).validators
      (plainLibrary [] 4 (by decide)).layout
    (mcDecodePacket library (playArguments 47 0
      (library.catalog.mcPacketId 47 .play .serverbound "block_dig") 1
        [0, 0, 0, 0, 64, 8, 0, 0, 3, 1] 4) none).packet = some (.dig ⟨0, ⟨1, 2, 3⟩, 1, 0⟩) :=
  (blockDig_roundTrip ⟨fun _ _ _ => []⟩ (plainLibrary [] 4 (by decide)).validators
    (plainLibrary [] 4 (by decide)).layout _ _ none
    (playArguments_receives _ 47 "block_dig" [0, 0, 0, 0, 64, 8, 0, 0, 3, 1]
      (show 4 ≤ 4 from Nat.le_refl 4))).1 ⟨0, ⟨1, 2, 3⟩, 1, 0⟩
    ⟨by decide, by decide, by decide, by decide, by decide, by decide⟩
    ⟨10, ⟨[0, 0, 0, 0, 64, 8, 0, 0, 3, 1], 10, false⟩, by decide +kernel, rfl⟩

end roundTrip

end McProtocol
