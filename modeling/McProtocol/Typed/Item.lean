import McProtocol.Builders
import McProtocol.Zlib

/-! # Item stacks

An item stack is read in one of three wire forms, each of them in the layouts of the
releases. What a component holds is left to the generated validators, and the NBT that
1.7 compresses to zlib.
-/

namespace McProtocol

/-- The value of a field of `bits` bits. -/
def positionSigned (value bits : Nat) : Int :=
  if value &&& 1 <<< (bits - 1) ≠ 0 then (value : Int) - 2 ^ bits else value

def mcReaderPosition (protocol : Int) : DecodeM protocol McPosition := do
  refuseFailed
  if mcProtocolSupported protocol = false then readerFailProtocol .unsupportedProtocol protocol
  else
    let packed ← mcReaderU64
    let x := positionSigned (packed >>> 38 &&& 0x3ffffff) 26
    if 477 ≤ protocol then
      pure ⟨x, positionSigned (packed &&& 0xfff) 12, positionSigned (packed >>> 12 &&& 0x3ffffff) 26⟩
    else
      pure ⟨x, positionSigned (packed >>> 26 &&& 0xfff) 12, positionSigned (packed &&& 0x3ffffff) 26⟩

def mcReaderUuid : ReadM McUuid := do
  refuseFailed
  let bytes ← mcReaderBytes 16
  if size : bytes.length = 16 then pure ⟨bytes, size⟩ else .refuse

/-- A text of at most `maxSize` bytes, and at least one. -/
def readNonempty (maxSize : Nat) : ReadM (List UInt8) := do
  let text ← mcReaderStringBounded maxSize
  require (text ≠ [])
  pure text

/-- A count between 0 and `maximum`. -/
def typedCount (value : Int) (maximum : Nat) : ReadM Unit :=
  rejectWhen (value < 0 ∨ (maximum : Int) < value) .invalidLength 0

theorem Reads.typedCount {mode : McDecodeMode} {value : Int} {maximum : Nat} (natural : 0 ≤ value)
    (few : value ≤ maximum) : Reads mode (McProtocol.typedCount value maximum).run () [] :=
  (accepts_rejectWhen 0).complete ⟨by omega, rfl⟩

/-- `return typed_invalid(reader)` unless the condition holds. -/
def typedRequire (condition : Prop) [Decidable condition] : ReadM Unit :=
  rejectWhen (¬ condition) .invalidPacketBody 0

theorem typedRequire_eq_some {condition : Prop} {_ : Decidable condition}
    {reader after : McReader} {u : Unit} (passed : (typedRequire condition).run reader = (some u, after)) : condition :=
  not_not.mp (rejectWhen_eq_some passed)

theorem accepts_typedRequire {mode : McDecodeMode} {condition : Prop} [Decidable condition] :
    Accepts mode (typedRequire condition).run fun _ bytes => condition ∧ bytes = [] :=
  (accepts_rejectWhen 0).congr fun _ _ => by rw [not_not]

theorem Reads.typedRequire {mode : McDecodeMode} {condition : Prop} [Decidable condition]
    (holds : condition) : Reads mode (McProtocol.typedRequire condition).run () [] :=
  accepts_typedRequire.complete ⟨holds, rfl⟩

/-- An entity id, which 1.7 does not compress. -/
def readEntityId (protocol : Int) : ReadM Int :=
  if protocol ≤ 5 then mcReaderI32 else mcReaderVarint

/-- Inflate in steps of 4096 bytes until the stream ends, and say how much came out.
The first byte of the output must be `root`, if there is one. Each step makes
progress, so the fuel, which the loop of the source has not, does not run out. -/
def inflateSteps (zlib : Zlib) (root : Option UInt8) (tooLarge : McErrorCode) (maximum : Nat) :
    Nat → zlib.State → List UInt8 → Nat → Except McErrorCode Nat
  | 0, _, _, _ => .error .zlib
  | fuel + 1, state, input, produced =>
      let step := zlib.inflate state input 4096 .noFlush
      let chunk := step.output.length
      -- nothing has come out before exactly while `first` is set
      if produced = 0 ∧ chunk ≠ 0 ∧ ¬ root.all (step.output.head? == some ·) then
        .error .invalidPacketBody
      else if maximum - produced < chunk then .error tooLarge
      else
        match step.status with
        | .streamEnd => if step.rest = [] then .ok (produced + chunk) else .error .zlib
        | .error => .error .zlib
        | .ok =>
            if chunk ≠ 4096 ∧ step.rest = [] then .error .zlib
            else inflateSteps zlib root tooLarge maximum fuel step.state step.rest (produced + chunk)

/-- `inflateInit2`, the steps, and the verdict. -/
def inflateWhole (zlib : Zlib) (windowBits : Nat) (root : Option UInt8) (tooLarge : McErrorCode)
    (maximum : Nat) (compressed : List UInt8) : Except McErrorCode Nat :=
  match zlib.inflateInit2 windowBits with
  | none => .error .zlib
  | some state =>
      inflateSteps zlib root tooLarge maximum (maximum + compressed.length + 1) state compressed 0

/-- Fail with the code of a verdict. -/
def orVerdict {α : Type} : Except McErrorCode α → ReadM α
  | .ok value => pure value
  | .error code => reject code 0

def typedValidateGzipNbt (zlib : Zlib) (compressed : List UInt8) : ReadM Unit := do
  typedRequire (10 ≤ compressed.length ∧ compressed.length ≤ uintMax
    ∧ [0x1f, 0x8b, 8] <+: compressed)
  let produced ← orVerdict (inflateWhole zlib (Zlib.maxWbits + 16)
    (some McNbtType.compound.toByte) .nbtLength mcDefaultMaxStringBytes compressed)
  rejectWhen (produced = 0) .zlib 0

def typedValidateZlibBlob (zlib : Zlib) (compressed : List UInt8) (maximumOutput : Nat) :
    ReadM Unit := do
  typedRequire (compressed ≠ [] ∧ compressed.length ≤ uintMax)
  let _ ← orVerdict (inflateWhole zlib Zlib.maxWbits none .decompressedTooLarge maximumOutput
    compressed)

inductive McItemWireKind where
  | full
  | untrusted
  | hashed
  deriving Repr, DecidableEq

structure McItemStackView where
  present : Bool
  nbtCompressed : Bool
  componentValuesLengthPrefixed : Bool
  wireKind : McItemWireKind
  itemId : Int
  count : Int
  damage : Int
  addedComponentCount : Nat
  removedComponentCount : Nat
  nbt : List UInt8
  components : List UInt8
  encoded : List UInt8
  deriving Repr, DecidableEq

/-- No item. -/
def McItemStackView.absent (wireKind : McItemWireKind) : McItemStackView where
  present := false
  nbtCompressed := false
  componentValuesLengthPrefixed := false
  wireKind := wireKind
  itemId := 0
  count := 0
  damage := 0
  addedComponentCount := 0
  removedComponentCount := 0
  nbt := []
  components := []
  encoded := []

/-- The layout with a presence flag, from 402 to 765. -/
def readFlaggedItem (protocol : Int) (wireKind : McItemWireKind) : DecodeM protocol McItemStackView := do
  let present ← mcReaderBool
  if present = false then pure (.absent wireKind)
  else
    let (itemId, count, nbt) ← .orInvalid do
      let itemId ← mcReaderVarint
      let count ← mcReaderU8
      require (0 < itemId ∧ count ≠ 0 ∧ count ≤ 127)
      let nbt ← mcReaderNbt (decide (protocol < 764))
      pure (itemId, count, nbt)
    pure { McItemStackView.absent wireKind with
      present := true
      itemId := itemId
      count := count.toNat
      nbt := nbt }

/-- What decoding leaves to other code: zlib, and the generated validators of slot
components, of their types and of profiles, which are told how deep they are nested. -/
structure Validators where
  zlib : Zlib
  skipSlotComponent : (protocol : Int) → Nat → DecodeM protocol Unit
  skipSlotComponentType : (protocol : Int) → Nat → DecodeM protocol Unit
  resolvableProfile : (protocol : Int) → Nat → DecodeM protocol Unit

namespace Validators

variable (validators : Validators) (protocol : Int)

def typedReadComponentType : DecodeM protocol Unit := validators.skipSlotComponentType protocol 0

/-- The types that are removed. -/
def readRemoved (removed : Int) : DecodeM protocol Unit :=
  .orInvalid (.iterate (fun _ => validators.typedReadComponentType protocol) removed.toNat ())

/-- An item whose component values are hashes. -/
def readHashedItem : DecodeM protocol McItemStackView := do
  let present ← mcReaderBool
  if present = false then pure (.absent .hashed)
  else
    let (itemId, count, added) ← .orInvalid do
      let itemId ← mcReaderVarint
      let count ← mcReaderVarint
      let added ← mcReaderVarint
      require (0 < itemId ∧ 0 < count ∧ count ≤ 127)
      typedCount added mcMaxItemComponentCount
      pure (itemId, count, added)
    let componentStart ← mcReaderOffset
    .orInvalid (.iterate (fun _ => do
      validators.typedReadComponentType protocol
      let _ ← mcReaderI32) added.toNat ())
    let removed ← .orInvalid do
      let removed ← mcReaderVarint
      typedCount removed mcMaxItemComponentCount
      require (added + removed ≤ mcMaxItemComponentCount)
      pure removed
    validators.readRemoved protocol removed
    let components ← readSince componentStart
    pure { McItemStackView.absent .hashed with
      present := true
      itemId := itemId
      count := count
      addedComponentCount := added.toNat
      removedComponentCount := removed.toNat
      components := components }

/-- The NBT behind a 1.7 item: nothing, or a gzip member. -/
def readGzipNbt : DecodeM protocol (Option (List UInt8)) := do
  let compressedSize ← mcReaderI16
  typedRequire (-1 ≤ compressedSize ∧ compressedSize ≠ 0)
  if 0 < compressedSize then
    let nbt ← mcReaderBytes compressedSize.toNat
    typedValidateGzipNbt validators.zlib nbt
    pure (some nbt)
  else pure none

/-- The layout up to 401: a 16-bit id, all ones for no item. -/
def readShortItem (wireKind : McItemWireKind) : DecodeM protocol McItemStackView := do
  let wireId ← mcReaderU16
  if wireId = uint16Max then pure (.absent wireKind)
  else
    let (count, damage) ← .orInvalid do
      require (wireId ≠ 0 ∧ wireId ≤ int16Max)
      let count ← mcReaderU8
      require (count ≠ 0 ∧ count ≤ 127)
      let damage ← (if protocol ≤ 340 then mcReaderU16 else pure 0)
      pure (count, damage)
    let nbt ← (if protocol ≤ 5 then validators.readGzipNbt protocol else do
      let nbt ← mcReaderNbt true
      pure (some nbt))
    pure { McItemStackView.absent wireKind with
      present := true
      nbtCompressed := decide (protocol ≤ 5) && nbt.isSome
      itemId := wireId
      count := count.toNat
      damage := damage
      nbt := nbt.getD [] }

/-- The components that are added: an untrusted value is skipped by its length. -/
def readAdded (wireKind : McItemWireKind) (added : Int) : DecodeM protocol Unit :=
  if wireKind = .untrusted then
    .orInvalid (.iterate (fun _ => do
      validators.typedReadComponentType protocol
      let _ ← mcReaderBufferVarint) added.toNat ())
  else .iterate (fun _ => validators.skipSlotComponent protocol 0) added.toNat ()

/-- The layout with components, from 766 on. -/
def readComponentItem (wireKind : McItemWireKind) : DecodeM protocol McItemStackView := do
  let count ← (if wireKind = .full ∧ protocol = 766 then mcReaderI8 else mcReaderVarint)
  typedRequire (0 ≤ count ∧ count ≤ 127)
  if count = 0 then pure (.absent wireKind)
  else
    let (itemId, added, removed) ← .orInvalid do
      let itemId ← mcReaderVarint
      let added ← mcReaderVarint
      let removed ← mcReaderVarint
      require (0 < itemId)
      typedCount added mcMaxItemComponentCount
      typedCount removed mcMaxItemComponentCount
      require (added + removed ≤ mcMaxItemComponentCount)
      pure (itemId, added, removed)
    let componentStart ← mcReaderOffset
    validators.readAdded protocol wireKind added
    validators.readRemoved protocol removed
    let components ← readSince componentStart
    pure { McItemStackView.absent wireKind with
      present := true
      componentValuesLengthPrefixed := decide (wireKind = .untrusted)
      itemId := itemId
      count := count
      addedComponentCount := added.toNat
      removedComponentCount := removed.toNat
      components := components }

def mcReaderItemStack (wireKind : McItemWireKind) : DecodeM protocol McItemStackView := do
  refuseFailed
  if mcProtocolSupported protocol = false then readerFailProtocol .unsupportedProtocol protocol
  else
    let start ← mcReaderOffset
    let decoded ← (if wireKind = .hashed then validators.readHashedItem protocol
      else if protocol ≤ 401 then validators.readShortItem protocol wireKind
      else if protocol < 766 then readFlaggedItem protocol wireKind
      else validators.readComponentItem protocol wireKind)
    let encoded ← readSince start
    pure { decoded with encoded := encoded }

end Validators

end McProtocol
