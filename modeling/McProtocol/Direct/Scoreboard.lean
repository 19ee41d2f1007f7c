import McProtocol.Nbt

/-! # Scoreboards

The readers of objectives, of where they are shown, and of the scores. All of them record a code for
what they refuse.
-/

namespace McProtocol

structure McScoreboardObjective where
  objectiveName : List UInt8
  displayName : List UInt8
  renderTypeName : List UInt8
  numberFormatComponent : List UInt8
  renderType : Int
  numberFormat : Int
  action : UInt8
  hasDisplayName : Bool
  displayNameIsNbt : Bool
  renderTypeIsRegistryId : Bool
  hasNumberFormat : Bool
  hasNumberFormatComponent : Bool
  deriving Repr, DecidableEq

structure McScoreboardDisplay where
  objectiveName : List UInt8
  slot : Int
  deriving Repr, DecidableEq

structure McScoreboardScore where
  entryName : List UInt8
  objectiveName : List UInt8
  displayName : List UInt8
  numberFormatComponent : List UInt8
  value : Int
  numberFormat : Int
  action : UInt8
  hasObjectiveName : Bool
  hasValue : Bool
  hasDisplayName : Bool
  hasNumberFormat : Bool
  hasNumberFormatComponent : Bool
  deriving Repr, DecidableEq

structure McScoreboardReset where
  entryName : List UInt8
  objectiveName : List UInt8
  hasObjectiveName : Bool
  deriving Repr, DecidableEq

section

variable (protocol : Int)

/-- `scoreboard_reader_ready`, which does not stamp the protocol on its error. -/
def scoreboardReaderReady : ReadM Unit := do
  refuseFailed
  rejectWhen (mcProtocolSupported protocol = false) .unsupportedProtocol 0

def scoreboardReadString : ReadM (List UInt8) := mcReaderStringBounded 32767

/-- How a number is written: by a component where the format wants one. -/
structure NumberFormat where
  format : Int
  component : Option (List UInt8)

def scoreboardReadNumberFormat : ReadM NumberFormat := do
  let format ← orReject .invalidPacketBody 0 do
    let format ← mcReaderVarint
    require (0 ≤ format ∧ format ≤ 2)
    pure format
  if format = 1 ∨ format = 2 then
    let component ← mcReaderNbt false
    pure ⟨format, some component⟩
  else pure ⟨format, none⟩

/-- What a boolean says is there. -/
def readPresent {α : Type} (program : ReadM α) : ReadM (Option α) := do
  let present ← mcReaderBool
  if present = true then
    let value ← program
    pure (some value)
  else pure none

/-- Set, remove or update. -/
def readObjectiveAction : ReadM UInt8 := orReject .invalidPacketBody 0 do
  let action ← mcReaderU8
  require (action ≤ 2)
  pure action

/-- Name and render type, which a removal does not carry. -/
def readObjectiveProperties (objectiveName : List UInt8) (action : UInt8) :
    ReadM McScoreboardObjective := do
  let displayName ← (if protocol ≤ 764 then scoreboardReadString else mcReaderNbt false)
  let renderTypeName ← (if protocol ≤ 340 then scoreboardReadString else pure [])
  let renderType ← (if protocol ≤ 340 then pure (-1) else orReject .invalidPacketBody 0 do
    let renderType ← mcReaderVarint
    require (0 ≤ renderType)
    pure renderType)
  let numberFormat ← (if 765 ≤ protocol then readPresent scoreboardReadNumberFormat else pure none)
  pure
    { objectiveName := objectiveName
      displayName := displayName
      renderTypeName := renderTypeName
      numberFormatComponent := (numberFormat.bind NumberFormat.component).getD []
      renderType := renderType
      numberFormat := (numberFormat.map NumberFormat.format).getD (-1)
      action := action
      hasDisplayName := true
      displayNameIsNbt := decide (764 < protocol)
      renderTypeIsRegistryId := decide (340 < protocol)
      hasNumberFormat := numberFormat.isSome
      hasNumberFormatComponent := (numberFormat.bind NumberFormat.component).isSome }

def mcReaderScoreboardObjective : ReadM McScoreboardObjective := do
  scoreboardReaderReady protocol
  let objectiveName ← scoreboardReadString
  if protocol ≤ 5 then
    let displayName ← scoreboardReadString
    let action ← mcReaderU8
    rejectWhen (2 < action) .invalidPacketBody 0
    pure ⟨objectiveName, displayName, [], [], -1, -1, action, true, false, false, false, false⟩
  else
    let action ← readObjectiveAction
    if action = 1 then
      pure ⟨objectiveName, [], [], [], -1, -1, action, false, false, false, false, false⟩
    else readObjectiveProperties protocol objectiveName action

def mcReaderScoreboardDisplay : ReadM McScoreboardDisplay := do
  scoreboardReaderReady protocol
  let slot ← (if protocol ≤ 763 then do
    let slot ← mcReaderU8
    pure (slot.toNat : Int)
    else orReject .invalidPacketBody 0 do
      let slot ← mcReaderVarint
      require (0 ≤ slot)
      pure slot)
  let objectiveName ← scoreboardReadString
  pure ⟨objectiveName, slot⟩

/-- The scores of 1.7: a removal names no objective. -/
def readLegacyScore (entryName : List UInt8) : ReadM McScoreboardScore := do
  let action ← orReject .invalidPacketBody 0 do
    let action ← mcReaderU8
    require (action ≤ 1)
    pure action
  if action = 0 then
    let objectiveName ← scoreboardReadString
    let value ← mcReaderI32
    pure ⟨entryName, objectiveName, [], [], value, -1, action, true, true, false, false, false⟩
  else pure ⟨entryName, [], [], [], 0, -1, action, false, false, false, false, false⟩

/-- A removal names its objective, but has no value. -/
def readActionScore (entryName : List UInt8) : ReadM McScoreboardScore := do
  let (action, objectiveName) ← orReject .invalidPacketBody 0 do
    let action ← mcReaderVarint
    require (0 ≤ action ∧ action ≤ 1)
    let objectiveName ← scoreboardReadString
    pure (UInt8.ofNat action.toNat, objectiveName)
  if action = 0 then
    let value ← mcReaderVarint
    pure ⟨entryName, objectiveName, [], [], value, -1, action, true, true, false, false, false⟩
  else pure ⟨entryName, objectiveName, [], [], 0, -1, action, true, false, false, false, false⟩

/-- Removals have a packet of their own. -/
def readModernScore (entryName : List UInt8) : ReadM McScoreboardScore := do
  let objectiveName ← scoreboardReadString
  let value ← mcReaderVarint
  let displayName ← readPresent (mcReaderNbt false)
  let numberFormat ← readPresent scoreboardReadNumberFormat
  pure
    { entryName := entryName
      objectiveName := objectiveName
      displayName := displayName.getD []
      numberFormatComponent := (numberFormat.bind NumberFormat.component).getD []
      value := value
      numberFormat := (numberFormat.map NumberFormat.format).getD (-1)
      action := 0
      hasObjectiveName := true
      hasValue := true
      hasDisplayName := displayName.isSome
      hasNumberFormat := numberFormat.isSome
      hasNumberFormatComponent := (numberFormat.bind NumberFormat.component).isSome }

def mcReaderScoreboardScore : ReadM McScoreboardScore := do
  scoreboardReaderReady protocol
  let entryName ← scoreboardReadString
  if protocol ≤ 5 then readLegacyScore entryName
  else if protocol ≤ 764 then readActionScore entryName
  else readModernScore entryName

def mcReaderScoreboardReset : ReadM McScoreboardReset := do
  scoreboardReaderReady protocol
  rejectWhen (protocol < 765) .unsupportedProtocol 0
  let entryName ← scoreboardReadString
  let objectiveName ← readPresent scoreboardReadString
  pure ⟨entryName, objectiveName.getD [], objectiveName.isSome⟩

end

end McProtocol
