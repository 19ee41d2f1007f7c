import Mathlib.Tactic

/-! # Limits, errors and protocol profiles

The constants of `api.h`, the structured error that every decoder fills, and the
profile table that says which releases are supported. Enumerations that a caller
passes as plain C integers (state, direction, packet id) stay integers in
`McError`: an error echoes its arguments, valid or not.
-/

namespace McProtocol

/-- `SIZE_MAX` of an LP64 target. -/
def sizeMax : Nat := 2 ^ 64 - 1

/-- `PTRDIFF_MAX`: no allocation is larger. -/
def ptrdiffMax : Nat := 2 ^ 63 - 1

def uintMax : Nat := 2 ^ 32 - 1

def int32Max : Nat := 2 ^ 31 - 1

def mcErrorOffsetUnknown : Nat := sizeMax

def mcMaxPacket : Nat := 16 * 1024 * 1024
def mcLoginPackets : Nat := 16
def mcConfigPackets : Nat := 256
def mcDefaultMaxStringBytes : Nat := 1024 * 1024
def mcDefaultMaxFrameSize : Nat := 16 * 1024 * 1024
def mcDefaultMaxDecompressedSize : Nat := 16 * 1024 * 1024
def mcDefaultMaxStreamBufferedSize : Nat := 64 * 1024 * 1024
def mcDefaultMaxStreamOutputSize : Nat := 32 * 1024 * 1024
def mcMaxPacketArrayCount : Nat := 1024 * 1024
def mcMaxNbtDepth : Nat := 64
def mcMaxNbtCollectionCount : Nat := 1024 * 1024
def mcMaxItemComponentCount : Nat := 256
def mcMaxContainerSlots : Nat := 4096
def mcMaxEntityMetadataEntries : Nat := 256
def mcMaxAttributeCount : Nat := 1024
def mcMaxAttributeModifierCount : Nat := 1024
def mcMaxClockUpdateCount : Nat := 1024
def mcMaxChunkSections : Nat := 1024
def mcMaxChunkBlockEntities : Nat := 65536
def mcMaxChunkLightArrays : Nat := 1024

/-- The two's complement reading of a `w`-bit word. -/
def toSigned (w n : Nat) : Int :=
  if n < 2 ^ (w - 1) then n else (n : Int) - 2 ^ w

/-- The `w`-bit word of an integer: the conversion to an unsigned type. -/
def toUnsigned (w : Nat) (i : Int) : Nat := (i % 2 ^ w).toNat

/-- The values of `int32_t`. -/
def IsInt32 (i : Int) : Prop := -2 ^ 31 ≤ i ∧ i < 2 ^ 31

instance : DecidablePred IsInt32 := fun _ => inferInstanceAs (Decidable (_ ∧ _))

/-- The values of `int64_t`. -/
def IsInt64 (i : Int) : Prop := -2 ^ 63 ≤ i ∧ i < 2 ^ 63

theorem toUnsigned_lt (w : Nat) (i : Int) : toUnsigned w i < 2 ^ w := by
  have positive : (0 : Int) < 2 ^ w := by positivity
  have below := Int.emod_lt_of_pos i positive
  have above := Int.emod_nonneg i positive.ne'
  have cast : ((2 ^ w : Nat) : Int) = 2 ^ w := by push_cast; rfl
  simp only [toUnsigned]
  omega

theorem two_pow_pred {w : Nat} (positive : 0 < w) : (2 : Int) ^ w = 2 * 2 ^ (w - 1) := by
  obtain ⟨v, rfl⟩ := Nat.exists_eq_add_one.mpr positive
  rw [Nat.add_sub_cancel, pow_succ']

/-- Reading a word back as a signed value undoes the conversion. -/
theorem toSigned_toUnsigned {w : Nat} {i : Int} (positive : 0 < w) (low : -2 ^ (w - 1) ≤ i)
    (high : i < 2 ^ (w - 1)) : toSigned w (toUnsigned w i) = i := by
  have double := two_pow_pred positive
  have unit : (0 : Int) < 2 ^ (w - 1) := by positivity
  have cast : ((2 ^ (w - 1) : Nat) : Int) = 2 ^ (w - 1) := by push_cast; rfl
  have word : (toUnsigned w i : Int) = i % 2 ^ w :=
    Int.toNat_of_nonneg (Int.emod_nonneg i (by positivity))
  simp only [toSigned]
  rcases lt_or_ge i 0 with negative | natural
  · have wrapped : i % 2 ^ w = i + 2 ^ w := by
      rw [← Int.add_emod_right, Int.emod_eq_of_lt (by omega) (by omega)]
    rw [if_neg (by omega)]
    omega
  · have same : i % 2 ^ w = i := Int.emod_eq_of_lt natural (by omega)
    rw [if_pos (by omega)]
    omega

theorem toUnsigned_toSigned {w n : Nat} (h : n < 2 ^ w) : toUnsigned w (toSigned w n) = n := by
  have cast : ((2 ^ w : Nat) : Int) = 2 ^ w := by push_cast; rfl
  have same : (n : Int) % 2 ^ w = n := Int.emod_eq_of_lt (by omega) (by omega)
  simp only [toSigned, toUnsigned]
  split_ifs
  · rw [same, Int.toNat_natCast]
  · rw [Int.sub_emod_right, same, Int.toNat_natCast]

theorem toSigned_bounds {w n : Nat} (positive : 0 < w) (h : n < 2 ^ w) :
    -2 ^ (w - 1) ≤ toSigned w n ∧ toSigned w n < 2 ^ (w - 1) := by
  have double := two_pow_pred positive
  have whole : ((2 ^ w : Nat) : Int) = 2 ^ w := by push_cast; rfl
  have half : ((2 ^ (w - 1) : Nat) : Int) = 2 ^ (w - 1) := by push_cast; rfl
  simp only [toSigned]
  split_ifs <;> omega

theorem toSigned_toUnsigned_32 {i : Int} (h : IsInt32 i) : toSigned 32 (toUnsigned 32 i) = i :=
  toSigned_toUnsigned (by norm_num) h.1 h.2

theorem toSigned_toUnsigned_64 {i : Int} (h : IsInt64 i) : toSigned 64 (toUnsigned 64 i) = i :=
  toSigned_toUnsigned (by norm_num) h.1 h.2

theorem toUnsigned_toSigned_32 {n : Nat} (h : n < 2 ^ 32) : toUnsigned 32 (toSigned 32 n) = n :=
  toUnsigned_toSigned h

theorem toUnsigned_toSigned_64 {n : Nat} (h : n < 2 ^ 64) : toUnsigned 64 (toSigned 64 n) = n :=
  toUnsigned_toSigned h

theorem isInt32_toSigned {n : Nat} (h : n < 2 ^ 32) : IsInt32 (toSigned 32 n) :=
  toSigned_bounds (by norm_num) h

theorem isInt64_toSigned {n : Nat} (h : n < 2 ^ 64) : IsInt64 (toSigned 64 n) :=
  toSigned_bounds (by norm_num) h

inductive McErrorCode where
  | none
  | invalidArgument
  | unsupportedProtocol
  | invalidState
  | invalidDirection
  | unknownPacket
  | partialInput
  | varintOverflow
  | varintNonCanonical
  | frameTooLarge
  | bufferLimit
  | decompressedTooLarge
  | compressionHeader
  | compressionThreshold
  | zlib
  | trailingBytes
  | invalidBoolean
  | stringTooLarge
  | nbtDepth
  | nbtLength
  | invalidLength
  | integerOverflow
  | invalidPacketBody
  | outOfMemory
  | io
  | timeout
  | internal
  deriving Repr, DecidableEq

structure McError where
  code : McErrorCode
  offset : Nat
  protocol : Int
  state : Int
  direction : Int
  packetId : Int
  deriving Repr, DecidableEq

/-- `mc_error_clear`. -/
def mcErrorClear : McError where
  code := .none
  offset := mcErrorOffsetUnknown
  protocol := -1
  state := -1
  direction := -1
  packetId := -1

/-- The first error wins. -/
def recordError (error : McError) (code : McErrorCode) (offset : Nat) : McError :=
  if error.code ≠ .none then error else { error with code := code, offset := offset }

inductive McDecodeMode where
  | vanillaCompat
  | strict
  deriving Repr, DecidableEq

inductive McProtocolFeature where
  | compression
  | loginKey
  | optionalUuid
  | requiredUuid
  | configuration
  | positionDelta
  | keepAliveI64
  | chatLastSeen
  | chatAcknowledged
  deriving Repr, DecidableEq

structure McProfile where
  protocol : Int
  joinGame : Int
  keepAlive : Int
  playerPosition : Int
  teleportConfirm : Int
  keepAliveResponse : Int
  flags : List McProtocolFeature
  deriving Repr, DecidableEq

def profiles : List McProfile := [
  ⟨4, 1, 0, 8, -1, 0, []⟩,
  ⟨5, 1, 0, 8, -1, 0, []⟩,
  ⟨47, 1, 0, 8, -1, 0, [.compression]⟩,
  ⟨107, 35, 31, 46, 0, 11, [.compression]⟩,
  ⟨108, 35, 31, 46, 0, 11, [.compression]⟩,
  ⟨109, 35, 31, 46, 0, 11, [.compression]⟩,
  ⟨110, 35, 31, 46, 0, 11, [.compression]⟩,
  ⟨210, 35, 31, 46, 0, 11, [.compression]⟩,
  ⟨315, 35, 31, 46, 0, 11, [.compression]⟩,
  ⟨316, 35, 31, 46, 0, 11, [.compression]⟩,
  ⟨335, 35, 31, 46, 0, 12, [.compression]⟩,
  ⟨338, 35, 31, 47, 0, 11, [.compression]⟩,
  ⟨340, 35, 31, 47, 0, 11, [.compression, .keepAliveI64]⟩,
  ⟨393, 37, 33, 50, 0, 14, [.compression, .keepAliveI64]⟩,
  ⟨401, 37, 33, 50, 0, 14, [.compression, .keepAliveI64]⟩,
  ⟨404, 37, 33, 50, 0, 14, [.compression, .keepAliveI64]⟩,
  ⟨477, 37, 32, 53, 0, 15, [.compression, .keepAliveI64]⟩,
  ⟨480, 37, 32, 53, 0, 15, [.compression, .keepAliveI64]⟩,
  ⟨485, 37, 32, 53, 0, 15, [.compression, .keepAliveI64]⟩,
  ⟨490, 37, 32, 53, 0, 15, [.compression, .keepAliveI64]⟩,
  ⟨498, 37, 32, 53, 0, 15, [.compression, .keepAliveI64]⟩,
  ⟨573, 38, 33, 54, 0, 15, [.compression, .keepAliveI64]⟩,
  ⟨575, 38, 33, 54, 0, 15, [.compression, .keepAliveI64]⟩,
  ⟨578, 38, 33, 54, 0, 15, [.compression, .keepAliveI64]⟩,
  ⟨735, 37, 32, 53, 0, 16, [.compression, .keepAliveI64]⟩,
  ⟨736, 37, 32, 53, 0, 16, [.compression, .keepAliveI64]⟩,
  ⟨751, 36, 31, 52, 0, 16, [.compression, .keepAliveI64]⟩,
  ⟨753, 36, 31, 52, 0, 16, [.compression, .keepAliveI64]⟩,
  ⟨754, 36, 31, 52, 0, 16, [.compression, .keepAliveI64]⟩,
  ⟨755, 38, 33, 56, 0, 15, [.compression, .keepAliveI64]⟩,
  ⟨756, 38, 33, 56, 0, 15, [.compression, .keepAliveI64]⟩,
  ⟨757, 38, 33, 56, 0, 15, [.compression, .keepAliveI64]⟩,
  ⟨758, 38, 33, 56, 0, 15, [.compression, .keepAliveI64]⟩,
  ⟨759, 35, 30, 54, 0, 17, [.compression, .keepAliveI64, .loginKey]⟩,
  ⟨760, 37, 32, 57, 0, 18, [.compression, .keepAliveI64, .loginKey, .optionalUuid, .chatLastSeen]⟩,
  ⟨761, 36, 31, 56, 0, 17, [.compression, .keepAliveI64, .optionalUuid, .chatAcknowledged]⟩,
  ⟨762, 40, 35, 60, 0, 18, [.compression, .keepAliveI64, .optionalUuid, .chatAcknowledged]⟩,
  ⟨763, 40, 35, 60, 0, 18, [.compression, .keepAliveI64, .optionalUuid, .chatAcknowledged]⟩,
  ⟨764, 41, 36, 62, 0, 20, [.compression, .keepAliveI64, .requiredUuid, .configuration, .chatAcknowledged]⟩,
  ⟨765, 41, 36, 62, 0, 21, [.compression, .keepAliveI64, .requiredUuid, .configuration, .chatAcknowledged]⟩,
  ⟨766, 43, 38, 64, 0, 24, [.compression, .keepAliveI64, .requiredUuid, .configuration]⟩,
  ⟨767, 43, 38, 64, 0, 24, [.compression, .keepAliveI64, .requiredUuid, .configuration]⟩,
  ⟨768, 44, 39, 66, 0, 26, [.compression, .keepAliveI64, .requiredUuid, .configuration, .positionDelta]⟩,
  ⟨769, 44, 39, 66, 0, 26, [.compression, .keepAliveI64, .requiredUuid, .configuration, .positionDelta]⟩,
  ⟨770, 43, 38, 65, 0, 26, [.compression, .keepAliveI64, .requiredUuid, .configuration, .positionDelta]⟩,
  ⟨771, 43, 38, 65, 0, 27, [.compression, .keepAliveI64, .requiredUuid, .configuration, .positionDelta]⟩,
  ⟨772, 43, 38, 65, 0, 27, [.compression, .keepAliveI64, .requiredUuid, .configuration, .positionDelta]⟩,
  ⟨773, 48, 43, 70, 0, 27, [.compression, .keepAliveI64, .requiredUuid, .configuration, .positionDelta]⟩,
  ⟨774, 48, 43, 70, 0, 27, [.compression, .keepAliveI64, .requiredUuid, .configuration, .positionDelta]⟩,
  ⟨775, 49, 44, 72, 0, 28, [.compression, .keepAliveI64, .requiredUuid, .configuration, .positionDelta]⟩,
  ⟨776, 49, 44, 72, 0, 28, [.compression, .keepAliveI64, .requiredUuid, .configuration, .positionDelta]⟩,
  ⟨777, 50, 45, 73, 0, 28, [.compression, .keepAliveI64, .requiredUuid, .configuration, .positionDelta]⟩]

def findProfile (protocol : Int) : Option McProfile :=
  profiles.find? (·.protocol = protocol)

def mcProtocolSupported (protocol : Int) : Bool := (findProfile protocol).isSome

/-- `mc_protocol_features`, as the set of features whose bit is set. -/
def mcProtocolFeatures (protocol : Int) : List McProtocolFeature :=
  match findProfile protocol with
  | some profile => profile.flags
  | none => []

theorem findProfile_protocol {protocol : Int} {profile : McProfile}
    (h : findProfile protocol = some profile) : profile.protocol = protocol := by
  simpa using List.find?_some h

/-- What holds of every profile holds of a supported protocol. -/
theorem of_supported {P : Int → Prop} {protocol : Int} (all : ∀ profile ∈ profiles, P profile.protocol)
    (supported : mcProtocolSupported protocol = true) : P protocol := by
  obtain ⟨profile, found⟩ := Option.isSome_iff_exists.mp supported
  exact findProfile_protocol found ▸ all profile (List.mem_of_find?_eq_some found)

theorem mcProtocolSupported_int32 {protocol : Int} (supported : mcProtocolSupported protocol = true) :
    IsInt32 protocol :=
  of_supported (by decide) supported

end McProtocol
