import McProtocol.Direct.CountedLists
import McProtocol.Typed.ItemGrammar

/-! # Player info

One message in three layouts: up to 5 one entry with a name, up to 760 one action and the players it
is for, from 761 on a mask of the fields that every entry has.
-/

namespace McProtocol

def mcPlayerInfoAddPlayer : Nat := 1 <<< 0

def mcPlayerInfoInitializeChat : Nat := 1 <<< 1

def mcPlayerInfoUpdateGameMode : Nat := 1 <<< 2

def mcPlayerInfoUpdateListed : Nat := 1 <<< 3

def mcPlayerInfoUpdateLatency : Nat := 1 <<< 4

def mcPlayerInfoUpdateDisplayName : Nat := 1 <<< 5

def mcPlayerInfoUpdateListOrder : Nat := 1 <<< 6

def mcPlayerInfoUpdateHat : Nat := 1 <<< 7

def mcPlayerInfoRemovePlayer : Nat := 1 <<< 8

/-- `(fields & field) != 0`. -/
def HasField (fields field : Nat) : Prop := fields &&& field ≠ 0

instance (fields field : Nat) : Decidable (HasField fields field) :=
  inferInstanceAs (Decidable (_ ≠ _))

def playerInfoFieldsFromAction (action : Int) : Option Nat :=
  match action with
  | 0 => some (mcPlayerInfoAddPlayer ||| mcPlayerInfoUpdateGameMode ||| mcPlayerInfoUpdateLatency
      ||| mcPlayerInfoUpdateDisplayName)
  | 1 => some mcPlayerInfoUpdateGameMode
  | 2 => some mcPlayerInfoUpdateLatency
  | 3 => some mcPlayerInfoUpdateDisplayName
  | 4 => some mcPlayerInfoRemovePlayer
  | _ => none

/-- The upper bits of the mask moved when the hat came between. -/
def playerInfoFieldsFromMask (protocol : Int) (mask : UInt8) : Option Nat :=
  let allowed : UInt8 := if protocol ≤ 767 then 0x3f else if protocol = 768 then 0x7f else 0xff
  if mask &&& ~~~ allowed ≠ 0 then none
  else
    let decoded := (mask &&& 0x3f).toNat
    if protocol = 768 then
      some (if mask &&& 0x40 ≠ 0 then decoded ||| mcPlayerInfoUpdateListOrder else decoded)
    else if 769 ≤ protocol then
      let decoded := if mask &&& 0x40 ≠ 0 then decoded ||| mcPlayerInfoUpdateHat else decoded
      some (if mask &&& 0x80 ≠ 0 then decoded ||| mcPlayerInfoUpdateListOrder else decoded)
    else some decoded

structure McPlayerInfoEntry where
  profileId : McUuid
  playerName : List UInt8
  properties : List UInt8
  chatSession : List UInt8
  displayName : List UInt8
  fields : Nat
  propertyCount : Nat
  gameMode : Int
  latency : Int
  listOrder : Int
  listed : Bool
  showHat : Bool
  hasProfileId : Bool
  hasPlayerName : Bool
  hasChatSession : Bool
  hasDisplayName : Bool
  displayNameIsNbt : Bool
  deriving Repr, DecidableEq

/-- An entry before anything of it is read. -/
def McPlayerInfoEntry.initial (fields : Nat) : McPlayerInfoEntry where
  profileId := .zero
  playerName := []
  properties := []
  chatSession := []
  displayName := []
  fields := fields
  propertyCount := 0
  gameMode := -1
  latency := -1
  listOrder := -1
  listed := false
  showHat := false
  hasProfileId := false
  hasPlayerName := false
  hasChatSession := false
  hasDisplayName := false
  displayNameIsNbt := false

def mcMaxProfilePropertyCount : Nat := 1024

/-- A property of a profile, which may be signed. -/
def skipProfileProperty : ReadM Unit := orReject .invalidPacketBody 0 do
  let _ ← readNonempty 32767
  let _ ← mcReaderStringBounded 32767
  let hasSignature ← mcReaderBool
  .when (hasSignature = true) (do
    let _ ← readNonempty 32767)

/-- The count of the properties, and their bytes. -/
def readerPlayerInfoProperties : ReadM (Nat × List UInt8) := do
  let count ← orReject .invalidPacketBody 0 do
    let count ← mcReaderVarint
    require (0 ≤ count ∧ count ≤ mcMaxProfilePropertyCount)
    pure count.toNat
  let start ← mcReaderOffset
  .iterate (fun _ => skipProfileProperty) count ()
  let properties ← readSince start
  pure (count, properties)

/-- A name to display: a string up to 764, NBT behind. -/
def readerPlayerInfoOptionalDisplay (protocol : Int) : ReadM (Bool × List UInt8) := do
  let present ← mcReaderBool
  if present = true then do
    let displayName ← (if protocol ≤ 764 then mcReaderStringBounded 32767 else mcReaderNbt false)
    pure (true, displayName)
  else pure (false, [])

def readerPlayerInfoPublicKey (hasSessionId : Bool) : ReadM (Bool × List UInt8) := do
  let present ← mcReaderBool
  if present = true then do
    let start ← mcReaderOffset
    orReject .invalidPacketBody 0 do
      .when (hasSessionId = true) (do
        let _ ← mcReaderUuid)
      let _ ← mcReaderI64
      let key ← mcReaderBufferVarint
      let signature ← mcReaderBufferVarint
      require (key ≠ [] ∧ signature ≠ [])
    let encoded ← readSince start
    pure (true, encoded)
  else pure (false, [])

/-- A VarInt that is checked. -/
def readVarintIn (condition : Int → Prop) [DecidablePred condition] : ReadM Int :=
  orReject .invalidPacketBody 0 do
    let value ← mcReaderVarint
    require (condition value)
    pure value

structure AddedPlayer where
  playerName : List UInt8
  propertyCount : Nat
  properties : List UInt8

def readAddedPlayer : ReadM AddedPlayer := orReject .invalidPacketBody 0 do
  let playerName ← readNonempty 16
  let (propertyCount, properties) ← readerPlayerInfoProperties
  pure ⟨playerName, propertyCount, properties⟩

/-- The layout up to 5. -/
def readNamedEntry (fields : Nat) : ReadM McPlayerInfoEntry := orReject .invalidPacketBody 0 do
  let playerName ← readNonempty 16
  let online ← mcReaderBool
  let latency ← mcReaderI16
  pure { McPlayerInfoEntry.initial fields with
    playerName := playerName
    hasPlayerName := true
    latency := latency
    listed := online
    fields := if online = true then
      mcPlayerInfoAddPlayer ||| mcPlayerInfoUpdateListed ||| mcPlayerInfoUpdateLatency
      else mcPlayerInfoRemovePlayer }

section modern

variable (protocol : Int) (fields : Nat)

/-- The layout of one action. -/
def readActionEntry : ReadM McPlayerInfoEntry := do
  let profileId ← mcReaderUuid
  let player ← (if HasField fields mcPlayerInfoAddPlayer then readAddedPlayer else pure ⟨[], 0, []⟩)
  let gameMode ← (if HasField fields mcPlayerInfoUpdateGameMode then
    readVarintIn fun value => 0 ≤ value ∧ value ≤ 3 else pure (-1))
  let latency ← (if HasField fields mcPlayerInfoUpdateLatency then
    readVarintIn fun value => 0 ≤ value else pure (-1))
  let display ← (if HasField fields mcPlayerInfoUpdateDisplayName then
    readerPlayerInfoOptionalDisplay protocol else pure (false, []))
  let session ← (if HasField fields mcPlayerInfoAddPlayer ∧ 759 ≤ protocol then
    readerPlayerInfoPublicKey false else pure (false, []))
  pure { McPlayerInfoEntry.initial fields with
    profileId := profileId
    hasProfileId := true
    playerName := player.playerName
    hasPlayerName := decide (HasField fields mcPlayerInfoAddPlayer)
    propertyCount := player.propertyCount
    properties := player.properties
    gameMode := gameMode
    latency := latency
    hasDisplayName := display.1
    displayNameIsNbt := display.1 && decide (764 < protocol)
    displayName := display.2
    hasChatSession := session.1
    chatSession := session.2 }

/-- The layout of a mask. The list order comes before the hat, whatever the order of their bits. -/
def readMaskEntry : ReadM McPlayerInfoEntry := do
  let profileId ← mcReaderUuid
  let player ← (if HasField fields mcPlayerInfoAddPlayer then readAddedPlayer else pure ⟨[], 0, []⟩)
  let session ← (if HasField fields mcPlayerInfoInitializeChat then
    readerPlayerInfoPublicKey true else pure (false, []))
  let gameMode ← (if HasField fields mcPlayerInfoUpdateGameMode then
    readVarintIn fun value => 0 ≤ value ∧ value ≤ 3 else pure (-1))
  let listed ← (if HasField fields mcPlayerInfoUpdateListed then
    readVarintIn fun value => 0 ≤ value ∧ value ≤ 1 else pure 0)
  let latency ← (if HasField fields mcPlayerInfoUpdateLatency then
    readVarintIn fun value => 0 ≤ value else pure (-1))
  let display ← (if HasField fields mcPlayerInfoUpdateDisplayName then
    readerPlayerInfoOptionalDisplay protocol else pure (false, []))
  let listOrder ← (if HasField fields mcPlayerInfoUpdateListOrder then
    readVarintIn fun value => 0 ≤ value else pure (-1))
  let showHat ← (if HasField fields mcPlayerInfoUpdateHat then mcReaderBool else pure false)
  pure { McPlayerInfoEntry.initial fields with
    profileId := profileId
    hasProfileId := true
    playerName := player.playerName
    hasPlayerName := decide (HasField fields mcPlayerInfoAddPlayer)
    propertyCount := player.propertyCount
    properties := player.properties
    hasChatSession := session.1
    chatSession := session.2
    gameMode := gameMode
    listed := decide (listed ≠ 0)
    latency := latency
    hasDisplayName := display.1
    displayNameIsNbt := display.1 && decide (764 < protocol)
    displayName := display.2
    listOrder := listOrder
    showHat := showHat }

end modern

/-- What an entry is read with. -/
structure PlayerInfoLayout where
  protocol : Int
  fields : Nat
  legacyAction : Int
  legacyNameLayout : Bool
  fieldMaskLayout : Bool
  deriving Repr, DecidableEq

def readerPlayerInfoEntry (layout : PlayerInfoLayout) : ReadM McPlayerInfoEntry :=
  if layout.legacyNameLayout = true then readNamedEntry layout.fields
  else if layout.fieldMaskLayout = false then readActionEntry layout.protocol layout.fields
  else readMaskEntry layout.protocol layout.fields

structure McClientboundPlayerInfo where
  entryCount : Nat
  fields : Nat
  legacyAction : Int
  entries : List UInt8
  legacyNameLayout : Bool
  fieldMaskLayout : Bool
  deriving Repr, DecidableEq

/-- A table that may have no entry for a value. -/
def readDefined {α : Type} (value : Option α) : ReadM α :=
  match value with
  | some a => pure a
  | none => .refuse

/-- What stands in front of the entries: how many they are, and their layout. -/
def readPlayerInfoHeader (protocol : Int) : ReadM (Nat × PlayerInfoLayout) :=
  if protocol ≤ 5 then pure (1, ⟨protocol, 0, -1, true, false⟩)
  else if protocol ≤ 760 then orReject .invalidPacketBody 0 do
    let action ← mcReaderVarint
    let fields ← readDefined (playerInfoFieldsFromAction action)
    let count ← mcReaderVarint
    require (0 ≤ count ∧ count ≤ mcMaxPacketArrayCount)
    pure (count.toNat, ⟨protocol, fields, action, false, false⟩)
  else orReject .invalidPacketBody 0 do
    let mask ← mcReaderU8
    let fields ← readDefined (playerInfoFieldsFromMask protocol mask)
    require (fields ≠ 0)
    let count ← mcReaderVarint
    require (0 ≤ count ∧ count ≤ mcMaxPacketArrayCount)
    pure (count.toNat, ⟨protocol, fields, -1, false, true⟩)

/-- An entry that is only walked over; one with a name says which fields it has. -/
def skipPlayerInfoEntry (layout : PlayerInfoLayout) (fields : Nat) : ReadM Nat := do
  let entry ← readerPlayerInfoEntry { layout with fields := fields }
  pure (if layout.legacyNameLayout = true then entry.fields else fields)

/-- An unsupported release fails without a code. -/
def mcReaderClientboundPlayerInfo (protocol : Int) : DecodeM protocol McClientboundPlayerInfo :=
  if mcProtocolSupported protocol = false then .orFailed .refuse
  else do
    let (entryCount, layout) ← readPlayerInfoHeader protocol
    let start ← mcReaderOffset
    let fields ← (.iterate (skipPlayerInfoEntry layout) entryCount layout.fields : ReadM Nat)
    let entries ← readSince start
    pure ⟨entryCount, fields, layout.legacyAction, entries, layout.legacyNameLayout,
      layout.fieldMaskLayout⟩

abbrev McPlayerInfoIterator := McCountedIterator PlayerInfoLayout

/-- The slice of a decoded packet is never null. -/
def mcPlayerInfoIterator (packet : McClientboundPlayerInfo) (protocol : Int) :
    Option McPlayerInfoIterator :=
  if mcProtocolSupported protocol = false ∨ mcMaxPacketArrayCount < packet.entryCount then none
  else some ⟨sliceReader packet.entries, packet.entryCount, protocol, packet.fields,
    packet.legacyAction, packet.legacyNameLayout, packet.fieldMaskLayout⟩

/-- The call, and what it leaves in the iterator and in its output. Unlike its siblings it fills the
output before it looks at what remains behind the last entry. -/
def mcPlayerInfoIteratorNext (iterator : McPlayerInfoIterator) (output : McPlayerInfoEntry) :
    Bool × McPlayerInfoIterator × McPlayerInfoEntry :=
  if iterator.remaining = 0 then (false, iterator, output)
  else
    match (readerPlayerInfoEntry iterator.layout).run iterator.reader with
    | (none, reader) => (false, { iterator with reader := reader }, output)
    | (some entry, reader) =>
        let iterator := { iterator with reader := reader, remaining := iterator.remaining - 1 }
        if iterator.remaining = 0 ∧ mcReaderRemaining reader ≠ 0 then
          (false, { iterator with reader := reader.fail .invalidPacketBody reader.offset }, entry)
        else (true, iterator, entry)

section languages

variable (mode : McDecodeMode)

/-- The byte of a boolean. Beside over-long VarInts, booleans other than 0 and 1 are all that is a
matter of the mode in an entry. -/
def IsBoolean (flag : Bool) (bytes : List UInt8) : Prop :=
  ∃ byte : UInt8, bytes = [byte] ∧ flag = (byte != 0) ∧ ¬ (mode = .strict ∧ 1 < byte)

/-- A VarInt in a range. -/
def IsVarintIn (condition : Int → Prop) (bytes : List UInt8) : Prop :=
  ∃ value, condition value ∧ IsVarint mode value bytes

/-- A text and its length. -/
def IsText (maxSize : Nat) (bytes : List UInt8) : Prop :=
  ∃ text code, text.length ≤ maxSize ∧ IsVarint mode text.length code ∧ bytes = code ++ text

/-- A text that is not empty. -/
def IsName (maxSize : Nat) (bytes : List UInt8) : Prop :=
  ∃ text code, text ≠ [] ∧ text.length ≤ maxSize ∧ IsVarint mode text.length code ∧
    bytes = code ++ text

/-- A boolean, and what it announces. -/
def IsOptional (L : List UInt8 → Prop) (bytes : List UInt8) : Prop :=
  ∃ flag, Then (IsBoolean mode flag) (Given (flag = true) L) bytes

/-- A buffer that is not empty. -/
def IsFilled (bytes : List UInt8) : Prop :=
  ∃ data code, data ≠ [] ∧ IsVarint mode data.length code ∧ bytes = code ++ data

def IsProfileProperty : List UInt8 → Prop :=
  Then (IsName mode 32767) (Then (IsText mode 32767) (IsOptional mode (IsName mode 32767)))

def IsProfileProperties (bytes : List UInt8) : Prop :=
  ∃ count : Nat, count ≤ mcMaxProfilePropertyCount ∧
    Then (IsVarint mode count) (Parts (IsProfileProperty mode) count) bytes

def IsDisplayName (protocol : Int) : List UInt8 → Prop :=
  IsOptional mode fun bytes =>
    if protocol ≤ 764 then IsText mode 32767 bytes
    else ∃ root : NbtRoot false, bytes = root.encode

/-- A session: its id, when it expires, the key and the signature. -/
def IsPublicKey (hasSessionId : Bool) : List UInt8 → Prop :=
  IsOptional mode (Then (Given (hasSessionId = true) (·.length = 16))
    (Then (·.length = 8) (Then (IsFilled mode) (IsFilled mode))))

def IsAddedPlayer : List UInt8 → Prop := Then (IsName mode 16) (IsProfileProperties mode)

def IsNamedEntry : List UInt8 → Prop :=
  Then (IsName mode 16) (Then (fun bytes => ∃ flag, IsBoolean mode flag bytes) (·.length = 2))

def IsActionEntry (protocol : Int) (fields : Nat) : List UInt8 → Prop :=
  Then (·.length = 16)
    (Then (Given (HasField fields mcPlayerInfoAddPlayer) (IsAddedPlayer mode))
      (Then (Given (HasField fields mcPlayerInfoUpdateGameMode)
          (IsVarintIn mode fun value => 0 ≤ value ∧ value ≤ 3))
        (Then (Given (HasField fields mcPlayerInfoUpdateLatency) (IsVarintIn mode (0 ≤ ·)))
          (Then (Given (HasField fields mcPlayerInfoUpdateDisplayName) (IsDisplayName mode protocol))
            (Given (HasField fields mcPlayerInfoAddPlayer ∧ 759 ≤ protocol)
              (IsPublicKey mode false))))))

def IsMaskEntry (protocol : Int) (fields : Nat) : List UInt8 → Prop :=
  Then (·.length = 16)
    (Then (Given (HasField fields mcPlayerInfoAddPlayer) (IsAddedPlayer mode))
      (Then (Given (HasField fields mcPlayerInfoInitializeChat) (IsPublicKey mode true))
        (Then (Given (HasField fields mcPlayerInfoUpdateGameMode)
            (IsVarintIn mode fun value => 0 ≤ value ∧ value ≤ 3))
          (Then (Given (HasField fields mcPlayerInfoUpdateListed)
              (IsVarintIn mode fun value => 0 ≤ value ∧ value ≤ 1))
            (Then (Given (HasField fields mcPlayerInfoUpdateLatency) (IsVarintIn mode (0 ≤ ·)))
              (Then (Given (HasField fields mcPlayerInfoUpdateDisplayName)
                  (IsDisplayName mode protocol))
                (Then (Given (HasField fields mcPlayerInfoUpdateListOrder)
                    (IsVarintIn mode (0 ≤ ·)))
                  (Given (HasField fields mcPlayerInfoUpdateHat)
                    fun bytes => ∃ flag, IsBoolean mode flag bytes))))))))

/-- The bytes of an entry in the layout of its message. -/
def IsPlayerInfoEntry (layout : PlayerInfoLayout) : List UInt8 → Prop :=
  if layout.legacyNameLayout = true then IsNamedEntry mode
  else if layout.fieldMaskLayout = false then IsActionEntry mode layout.protocol layout.fields
  else IsMaskEntry mode layout.protocol layout.fields

end languages

section accepted

variable {mode : McDecodeMode}

theorem accepts_boolean : Accepts mode mcReaderBool.run (IsBoolean mode) := by
  have checked (byte : UInt8) : Accepts mode (rejectStrict (1 < byte) .invalidBoolean 1).run
      fun _ bytes => ¬ (mode = .strict ∧ 1 < byte) ∧ bytes = [] :=
    .check fun _ moded => by rw [moded]
  refine Accepts.congr (.bind accepts_u8 fun byte => .guarded (checked byte) (.pure (byte != 0)))
    fun flag bytes => ⟨?_, ?_⟩
  · rintro ⟨byte, _, _, rfl, rfl, low, rfl, rfl⟩
    exact ⟨byte, rfl, rfl, low⟩
  · rintro ⟨byte, rfl, rfl, low⟩
    exact ⟨byte, [byte], [], rfl, rfl, low, rfl, rfl⟩

/-- A size that is not negative and as many bytes, in either mode. -/
theorem accepts_sizedBuffer : Accepts mode mcReaderBufferVarint.run fun value bytes =>
    ∃ code, IsVarint mode value.length code ∧ bytes = code ++ value := by
  refine Accepts.congr (Accepts.offset fun start => accepts_varint.bind fun size =>
    Accepts.guarded (accepts_rejectAt start) (accepts_bytes size.toNat)) fun value bytes =>
      ⟨?_, ?_⟩
  · rintro ⟨size, code, data, rfl, isVarint, natural, length, rfl⟩
    have same : (data.length : Int) = size := by omega
    exact ⟨code, same ▸ isVarint, rfl⟩
  · rintro ⟨code, isVarint, rfl⟩
    exact ⟨value.length, code, value, rfl, isVarint, by omega, rfl, rfl⟩

end accepted

namespace Spans

variable {mode : McDecodeMode}

theorem bytes (size : Nat) : Spans mode (mcReaderBytes size).run (·.length = size) :=
  (accepts_bytes size).spans.congr fun _ => by
    constructor
    · rintro ⟨_, length, rfl⟩
      exact length
    · intro length
      exact ⟨_, length, rfl⟩

theorem i16 : Spans mode mcReaderI16.run (·.length = 2) :=
  .last (.last (.bytes 2) fun _ => .pure _) fun _ => .pure _

theorem i64 : Spans mode mcReaderI64.run (·.length = 8) :=
  .last (.last (.bytes 8) fun _ => .pure _) fun _ => .pure _

theorem uuid : Spans mode mcReaderUuid.run (·.length = 16) := by
  have taken (bytes : List UInt8) : Accepts mode (if size : bytes.length = 16 then
      Pure.pure ⟨bytes, size⟩ else .refuse : ReadM McUuid).run
      fun uuid tail => uuid.bytes = bytes ∧ tail = [] := by
    split_ifs with size
    · refine (Accepts.pure (⟨bytes, size⟩ : McUuid)).congr fun uuid tail => ?_
      rw [McUuid.mk.injEq]
    · refine (Accepts.refused fun _ => rfl).congr fun uuid tail => ⟨False.elim, ?_⟩
      rintro ⟨same, -⟩
      exact absurd (same ▸ uuid.size) size
  refine Spans.congr (.bindWith accepts_refuseFailed fun _ => .bindWith (accepts_bytes 16) fun bytes =>
    (taken bytes).spans) fun bytes => ⟨?_, ?_⟩
  · rintro ⟨_, _, _, rfl, rfl, _, _, _, rfl, ⟨length, rfl⟩, _, -, rfl⟩
    rw [List.nil_append, List.append_nil]
    exact length
  · intro length
    exact ⟨(), [], bytes, rfl, rfl, bytes, bytes, [], (List.append_nil _).symm, ⟨length, rfl⟩,
      ⟨bytes, length⟩, rfl, rfl⟩

theorem boolean : Spans mode mcReaderBool.run fun bytes => ∃ flag, IsBoolean mode flag bytes :=
  accepts_boolean.spans

theorem text (maxSize : Nat) : Spans mode (mcReaderStringBounded maxSize).run (IsText mode maxSize) :=
  (accepts_stringBounded maxSize).spans.congr fun _ => by
    constructor
    · rintro ⟨text, short, code, isVarint, same⟩
      exact ⟨text, code, short, isVarint, same⟩
    · rintro ⟨text, code, short, isVarint, same⟩
      exact ⟨text, short, code, isVarint, same⟩

theorem name (maxSize : Nat) : Spans mode (readNonempty maxSize).run (IsName mode maxSize) := by
  refine Spans.congr (.bindWith (accepts_stringBounded maxSize) fun text =>
    .guarded accepts_require (.pure text)) fun bytes => ⟨?_, ?_⟩
  · rintro ⟨text, _, _, rfl, ⟨short, code, isVarint, rfl⟩, some, rfl⟩
    exact ⟨text, code, some, short, isVarint, List.append_nil _⟩
  · rintro ⟨text, code, some, short, isVarint, rfl⟩
    exact ⟨text, _, [], (List.append_nil _).symm, ⟨short, code, isVarint, rfl⟩, some, rfl⟩

theorem varintIn (condition : Int → Prop) [DecidablePred condition] :
    Spans mode (readVarintIn condition).run (IsVarintIn mode condition) := by
  refine Spans.rescue (Spans.congr (.bindWith accepts_varint fun value =>
    .guarded accepts_require (.pure value)) fun bytes => ⟨?_, ?_⟩) _
  · rintro ⟨value, code, _, rfl, isVarint, holds, rfl⟩
    rw [List.append_nil]
    exact ⟨value, holds, isVarint⟩
  · rintro ⟨value, holds, isVarint⟩
    exact ⟨value, bytes, [], (List.append_nil _).symm, isVarint, holds, rfl⟩

theorem when {condition : Prop} [Decidable condition] {program : Prog McReader Unit}
    {L : List UInt8 → Prop} (spans : Spans mode program L) :
    Spans mode (Prog.when condition program) (Given condition L) := by
  unfold Prog.when
  split_ifs with holds
  · exact spans.congr fun bytes => by simp [Given, holds]
  · exact (pure ()).congr fun bytes => by simp [Given, holds]

/-- A boolean, and behind it what it announces. -/
theorem optional {α : Type} {present : ReadM α} (absent : α) {L : List UInt8 → Prop}
    (spans : Spans mode present.run L) :
    Spans mode (do
      let flag ← mcReaderBool
      if flag = true then present else Pure.pure absent : ReadM α).run (IsOptional mode L) :=
  Spans.congr (.bindWith (K := fun flag => Given (flag = true) L) accepts_boolean fun _ =>
    .given spans absent) fun _ => Iff.rfl

theorem profileProperty : Spans mode skipProfileProperty.run (IsProfileProperty mode) := by
  have signature : Spans mode (mcReaderBool.run >>= fun flag =>
      Prog.when (flag = true) ((readNonempty 32767).run >>= fun _ => Pure.pure ()))
      (IsOptional mode (IsName mode 32767)) :=
    Spans.congr (.bindWith (K := fun flag => Given (flag = true) (IsName mode 32767)) accepts_boolean
      fun flag => .when (.last (.name 32767) fun _ => .pure ())) fun bytes => Iff.rfl
  exact .rescue (.bind (.name 32767) fun _ => .bind (.text 32767) fun _ => signature) _

theorem profileProperties :
    Spans mode readerPlayerInfoProperties.run (IsProfileProperties mode) := by
  have counted : Accepts mode (orReject .invalidPacketBody 0 (do
      let count ← mcReaderVarint
      require (0 ≤ count ∧ count ≤ mcMaxProfilePropertyCount)
      Pure.pure count.toNat : ReadM Nat)).run fun count bytes =>
        count ≤ mcMaxProfilePropertyCount ∧ IsVarint mode count bytes := by
    refine Accepts.congr (accepts_orReject (.bind accepts_varint fun count =>
      .guarded accepts_require (.pure count.toNat)) 0) fun count bytes => ⟨?_, ?_⟩
    · rintro ⟨value, code, _, rfl, isVarint, few, rfl, rfl⟩
      have same : ((value.toNat : Nat) : Int) = value := by omega
      rw [List.append_nil, same]
      exact ⟨by omega, isVarint⟩
    · rintro ⟨few, isVarint⟩
      exact ⟨count, bytes, [], (List.append_nil _).symm, isVarint, ⟨by omega, by omega⟩, rfl, rfl⟩
  refine Spans.congr (.bindWith counted fun count => .offset fun start =>
    .last (.iterate (fun _ => .profileProperty) count ()) fun _ => .last (.readSince start) fun _ =>
      .pure _) fun bytes => ⟨?_, ?_⟩
  · rintro ⟨count, head, tail, rfl, ⟨few, isVarint⟩, parts⟩
    exact ⟨count, few, head, tail, rfl, isVarint, parts⟩
  · rintro ⟨count, few, head, tail, rfl, isVarint, parts⟩
    exact ⟨count, head, tail, rfl, ⟨few, isVarint⟩, parts⟩

theorem displayName (protocol : Int) :
    Spans mode (readerPlayerInfoOptionalDisplay protocol).run (IsDisplayName mode protocol) := by
  have shown : Spans mode (if protocol ≤ 764 then mcReaderStringBounded 32767
      else mcReaderNbt false : ReadM (List UInt8)).run fun bytes =>
        if protocol ≤ 764 then IsText mode 32767 bytes
        else ∃ root : NbtRoot false, bytes = root.encode := by
    split_ifs with old
    · exact .text 32767
    · refine (accepts_nbt false).spans.congr fun bytes => ⟨?_, ?_⟩
      · rintro ⟨_, -, isRoot⟩
        exact isRoot
      · intro isRoot
        exact ⟨bytes, rfl, isRoot⟩
  exact .optional (false, []) (.last shown fun _ => .pure _)

/-- A buffer, and another one; both are looked at when both are there. -/
theorem filledPair : Spans mode (do
      let key ← mcReaderBufferVarint
      let signature ← mcReaderBufferVarint
      require (key ≠ [] ∧ signature ≠ []) : ReadM Unit).run
    (Then (IsFilled mode) (IsFilled mode)) := by
  refine Spans.congr (.bindWith accepts_sizedBuffer fun key => .bindWith accepts_sizedBuffer
    fun signature => accepts_require.spans) fun bytes => ⟨?_, ?_⟩
  · rintro ⟨key, _, _, rfl, ⟨code, isVarint, rfl⟩, signature, _, _, rfl, ⟨code', isVarint', rfl⟩, -,
      ⟨some, some'⟩, rfl⟩
    rw [List.append_nil]
    exact ⟨_, _, rfl, ⟨key, code, some, isVarint, rfl⟩, signature, code', some', isVarint', rfl⟩
  · rintro ⟨_, _, rfl, ⟨key, code, some, isVarint, rfl⟩, signature, code', some', isVarint', rfl⟩
    exact ⟨key, _, _, rfl, ⟨code, isVarint, rfl⟩, signature, _, [], (List.append_nil _).symm,
      ⟨code', isVarint', rfl⟩, (), ⟨some, some'⟩, rfl⟩

theorem publicKey (hasSessionId : Bool) :
    Spans mode (readerPlayerInfoPublicKey hasSessionId).run (IsPublicKey mode hasSessionId) := by
  have key : Spans mode (orReject .invalidPacketBody 0 (do
      .when (hasSessionId = true) (do
        let _ ← mcReaderUuid)
      let _ ← mcReaderI64
      let key ← mcReaderBufferVarint
      let signature ← mcReaderBufferVarint
      require (key ≠ [] ∧ signature ≠ []) : ReadM Unit)).run
      (Then (Given (hasSessionId = true) (·.length = 16))
        (Then (·.length = 8) (Then (IsFilled mode) (IsFilled mode)))) :=
    .rescue (.bind (.when (.last .uuid fun _ => .pure ())) fun _ => .bind .i64 fun _ => filledPair) _
  exact .optional (false, []) (.offset fun start => .last key fun _ =>
    .last (.readSince start) fun _ => .pure _)

theorem addedPlayer : Spans mode readAddedPlayer.run (IsAddedPlayer mode) :=
  .rescue (.bind (.name 16) fun _ => .last .profileProperties fun _ => .pure _) _

theorem namedEntry (fields : Nat) : Spans mode (readNamedEntry fields).run (IsNamedEntry mode) :=
  .rescue (.bind (.name 16) fun _ => .bind .boolean fun _ => .last .i16 fun _ => .pure _) _

theorem actionEntry (protocol : Int) (fields : Nat) :
    Spans mode (readActionEntry protocol fields).run (IsActionEntry mode protocol fields) :=
  .bind .uuid fun _ => .bind (.given .addedPlayer _) fun _ => .bind (.given (.varintIn _) _) fun _ =>
    .bind (.given (.varintIn _) _) fun _ => .bind (.given (.displayName protocol) _) fun _ =>
      .last (.given (.publicKey false) _) fun _ => .pure _

theorem maskEntry (protocol : Int) (fields : Nat) :
    Spans mode (readMaskEntry protocol fields).run (IsMaskEntry mode protocol fields) :=
  .bind .uuid fun _ => .bind (.given .addedPlayer _) fun _ =>
    .bind (.given (.publicKey true) _) fun _ => .bind (.given (.varintIn _) _) fun _ =>
      .bind (.given (.varintIn _) _) fun _ => .bind (.given (.varintIn _) _) fun _ =>
        .bind (.given (.displayName protocol) _) fun _ => .bind (.given (.varintIn _) _) fun _ =>
          .last (.given .boolean _) fun _ => .pure _

theorem playerInfoEntry (layout : PlayerInfoLayout) :
    Spans mode (readerPlayerInfoEntry layout).run (IsPlayerInfoEntry mode layout) := by
  unfold readerPlayerInfoEntry IsPlayerInfoEntry
  split_ifs
  · exact .namedEntry layout.fields
  · exact .actionEntry layout.protocol layout.fields
  · exact .maskEntry layout.protocol layout.fields

end Spans

end McProtocol
