import McProtocol.Writing

/-! # Player positions

The position a player moves to, as the client sends it and as the server sets it. A
server position may be relative on each of its axes.
-/

namespace McProtocol

structure McPlayerPosition where
  x : McDouble
  y : McDouble
  z : McDouble
  yaw : McFloat
  pitch : McFloat
  onGround : Bool
  deriving Repr, DecidableEq

/-- `value->y + 1.62` puts the eyes above the feet. -/
def eyeHeight : McDouble := ⟨0x3ff9eb851eb851ec⟩

def mcPacketPlayerPosition (protocol : Int) (value : McPlayerPosition) : WriteM Unit := do
  refuseWhen (mcProtocolSupported protocol = false
    ∨ value.x.isFinite = false ∨ value.y.isFinite = false
    ∨ value.z.isFinite = false ∨ value.yaw.isFinite = false
    ∨ value.pitch.isFinite = false
    ∨ protocol ≤ 5 ∧ (value.y + eyeHeight).isFinite = false)
  mcPacketDouble value.x
  mcPacketDouble value.y
  .when (protocol ≤ 5) (mcPacketDouble (value.y + eyeHeight))
  mcPacketDouble value.z
  mcPacketFloat value.yaw
  mcPacketFloat value.pitch
  mcPacketBool value.onGround

def McPlayerPosition.IsFinite (value : McPlayerPosition) : Prop :=
  value.x.isFinite = true ∧ value.y.isFinite = true ∧ value.z.isFinite = true
    ∧ value.yaw.isFinite = true ∧ value.pitch.isFinite = true

instance : DecidablePred McPlayerPosition.IsFinite := fun _ => inferInstanceAs (Decidable (_ ∧ _))

/-- The bytes of a position. -/
def positionBytes (protocol : Int) (value : McPlayerPosition) : List UInt8 :=
  BigEndian.bytes 8 value.x.bits.toNat ++ (BigEndian.bytes 8 value.y.bits.toNat ++
    ((if protocol ≤ 5 then BigEndian.bytes 8 (value.y + eyeHeight).bits.toNat else []) ++
      (BigEndian.bytes 8 value.z.bits.toNat ++ (BigEndian.bytes 4 value.yaw.bits.toNat ++
        (BigEndian.bytes 4 value.pitch.bits.toNat ++ [if value.onGround then 1 else 0])))))

/-- The eyes of a finite position are at a finite height. -/
theorem isFinite_eyes {y : McDouble} (finite : y.isFinite = true) :
    (y + eyeHeight).isFinite = true :=
  Ieee.Binary.isFinite_add (by decide) finite (by decide) (by decide +kernel)

theorem writes_playerPosition {protocol : Int} {value : McPlayerPosition}
    (supported : mcProtocolSupported protocol = true) (finite : value.IsFinite) :
    Writes (mcPacketPlayerPosition protocol value) (positionBytes protocol value) := by
  have accepted : ¬ (mcProtocolSupported protocol = false
      ∨ value.x.isFinite = false ∨ value.y.isFinite = false
      ∨ value.z.isFinite = false ∨ value.yaw.isFinite = false
      ∨ value.pitch.isFinite = false
      ∨ protocol ≤ 5 ∧ (value.y + eyeHeight).isFinite = false) := by
    obtain ⟨x, y, z, yaw, pitch⟩ := finite
    simp [supported, x, y, z, yaw, pitch, isFinite_eyes y]
  refine .of_eq (.bind (.refuseWhen accepted) (.bind (.double _) (.bind (.double _)
    (.bind (.whenever (.double _)) (.bind (.double _) (.bind (.float _)
      (.bind (.float _) (.bool _)))))))) ?_
  rw [List.nil_append]
  rfl

theorem positionBytes_length_le (protocol : Int) (value : McPlayerPosition) :
    (positionBytes protocol value).length ≤ 41 := by
  have eyes : (if protocol ≤ 5 then BigEndian.bytes 8 (value.y + eyeHeight).bits.toNat
      else []).length ≤ 8 := by
    split_ifs
    · rw [BigEndian.length_bytes]
    · exact Nat.zero_le _
  simp only [positionBytes, List.length_append, BigEndian.length_bytes, List.length_singleton]
  omega

structure McClientboundPlayerPosition where
  position : McPlayerPosition
  deltaX : McDouble
  deltaY : McDouble
  deltaZ : McDouble
  relativeFlags : Nat
  teleportId : Int
  hasVelocityDelta : Bool
  hasTeleportId : Bool
  dismountVehicle : Bool
  deriving Repr, DecidableEq

/-- The layout with a velocity delta. -/
def readDeltaPosition (protocol : Int) : DecodeM protocol McClientboundPlayerPosition :=
  .orFailProtocol .invalidPacketBody do
    let teleportId ← mcReaderVarint
    let x ← mcReaderDouble
    let y ← mcReaderDouble
    let z ← mcReaderDouble
    let deltaX ← mcReaderDouble
    let deltaY ← mcReaderDouble
    let deltaZ ← mcReaderDouble
    let yaw ← mcReaderFloat
    let pitch ← mcReaderFloat
    let flags ← mcReaderI32
    require (0 ≤ flags ∧ flags ≤ 0x1ff)
    pure
      { position := ⟨x, y, z, yaw, pitch, false⟩
        deltaX := deltaX
        deltaY := deltaY
        deltaZ := deltaZ
        relativeFlags := flags.toNat
        teleportId := teleportId
        hasVelocityDelta := true
        hasTeleportId := true
        dismountVehicle := false }

/-- `1.6200000047683716`, which 1.7 puts between feet and eyes. -/
def legacyEyeHeight : McDouble := ⟨0x3ff9eb8520000000⟩

/-- The layout of the releases before the delta. -/
def readLegacyPosition (protocol : Int) : DecodeM protocol McClientboundPlayerPosition := do
  let (position, legacyFlags) ← .orFailProtocol .invalidPacketBody do
    let x ← mcReaderDouble
    let y ← mcReaderDouble
    let z ← mcReaderDouble
    let yaw ← mcReaderFloat
    let pitch ← mcReaderFloat
    let legacyFlags ← mcReaderU8
    require (legacyFlags &&& 0xe0 = 0)
    pure ((⟨x, y, z, yaw, pitch, false⟩ : McPlayerPosition), legacyFlags)
  let feet := if protocol ≤ 5 then position.y - legacyEyeHeight else position.y
  let teleportId ← .orFailProtocol .invalidPacketBody do
    if 107 ≤ protocol then mcReaderVarint else pure 0
  let dismount ← .orFailProtocol .invalidBoolean do
    let dismount ← (if 755 ≤ protocol ∧ protocol ≤ 762 then mcReaderU8 else pure 0)
    require (dismount ≤ 1)
    pure dismount
  pure
    { position := { position with y := feet }
      deltaX := 0
      deltaY := 0
      deltaZ := 0
      relativeFlags := legacyFlags.toNat
      teleportId := teleportId
      hasVelocityDelta := false
      hasTeleportId := decide (107 ≤ protocol)
      dismountVehicle := dismount != 0 }

def McClientboundPlayerPosition.IsFinite (decoded : McClientboundPlayerPosition) : Prop :=
  decoded.position.x.isFinite = true ∧ decoded.position.y.isFinite = true
    ∧ decoded.position.z.isFinite = true ∧ decoded.position.yaw.isFinite = true
    ∧ decoded.position.pitch.isFinite = true ∧ decoded.deltaX.isFinite = true
    ∧ decoded.deltaY.isFinite = true ∧ decoded.deltaZ.isFinite = true

instance : DecidablePred McClientboundPlayerPosition.IsFinite :=
  fun _ => inferInstanceAs (Decidable (_ ∧ _))

def mcReaderClientboundPlayerPosition (protocol : Int) :
    DecodeM protocol McClientboundPlayerPosition := do
  refuseFailed
  if mcProtocolSupported protocol = false then readerFailProtocol .unsupportedProtocol protocol
  else
    let decoded ← (if .positionDelta ∈ mcProtocolFeatures protocol then readDeltaPosition protocol
      else readLegacyPosition protocol)
    if decoded.IsFinite then pure decoded
    else readerFailProtocol .invalidPacketBody protocol

end McProtocol
