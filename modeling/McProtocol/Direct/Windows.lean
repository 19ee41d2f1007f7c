import McProtocol.Spans
import McProtocol.Typed.Bodies

/-! # Windows, block events, chat and removed players

Readers that stand beside the decoder of all packets. Where a window is opened, a refusal may leave
no code behind.
-/

namespace McProtocol

structure McContainerOpen where
  windowId : Int
  menuType : Int
  slotCount : Int
  entityId : Int
  namedMenuType : List UInt8
  encodedTitle : List UInt8
  registryMenuType : Bool
  titleIsNbt : Bool
  hasEntityId : Bool
  deriving Repr, DecidableEq

structure McContainerData where
  windowId : Int
  property : Int
  value : Int
  deriving Repr, DecidableEq

section

variable (protocol : Int)

/-- The inventory of a horse comes with the horse. -/
def readHorse (present : Prop) [Decidable present] : ReadM (Option Int) :=
  if present then do
    let entityId ← mcReaderI32
    pure (some entityId)
  else pure none

/-- The windows of 1.7: a byte for the menu, and one that tells whether there is a title. -/
def readNumberedWindow : DecodeM protocol McContainerOpen := do
  let (windowId, menuType, encodedTitle, slotCount) ← .orFailed do
    let windowId ← mcReaderU8
    let menuType ← mcReaderU8
    let encodedTitle ← mcReaderString
    let slotCount ← mcReaderU8
    let suppliedTitle ← mcReaderU8
    require (suppliedTitle ≤ 1)
    pure (windowId, menuType, encodedTitle, slotCount)
  let entityId ← readHorse (menuType = 11)
  pure
    { windowId := windowId.toNat
      menuType := menuType.toNat
      slotCount := slotCount.toNat
      entityId := entityId.getD (-1)
      namedMenuType := []
      encodedTitle := encodedTitle
      registryMenuType := false
      titleIsNbt := false
      hasEntityId := entityId.isSome }

def bytesEqualLiteral (value : List UInt8) (literal : String) : Prop :=
  value = literal.toUTF8.toList

instance (value : List UInt8) (literal : String) : Decidable (bytesEqualLiteral value literal) :=
  inferInstanceAs (Decidable (_ = _))

/-- The windows up to 404: a name for the menu. -/
def readNamedWindow : ReadM McContainerOpen := do
  let windowId ← mcReaderU8
  let namedMenuType ← mcReaderString
  let encodedTitle ← mcReaderString
  let slotCount ← mcReaderU8
  let entityId ← readHorse (bytesEqualLiteral namedMenuType "EntityHorse" ∨
    bytesEqualLiteral namedMenuType "minecraft:horse")
  pure
    { windowId := windowId.toNat
      menuType := -1
      slotCount := slotCount.toNat
      entityId := entityId.getD (-1)
      namedMenuType := namedMenuType
      encodedTitle := encodedTitle
      registryMenuType := false
      titleIsNbt := false
      hasEntityId := entityId.isSome }

/-- The windows after that: a menu of the registry, which knows how many slots it has. -/
def readRegistryWindow : DecodeM protocol McContainerOpen := do
  let (windowId, menuType) ← .orFailed do
    let windowId ← mcReaderVarint
    require (0 ≤ windowId)
    let menuType ← mcReaderVarint
    require (0 ≤ menuType)
    pure (windowId, menuType)
  let encodedTitle ← (if 765 ≤ protocol then mcReaderNbt false else mcReaderString)
  pure
    { windowId := windowId
      menuType := menuType
      slotCount := -1
      entityId := -1
      namedMenuType := []
      encodedTitle := encodedTitle
      registryMenuType := true
      titleIsNbt := decide (765 ≤ protocol)
      hasEntityId := false }

def mcReaderContainerOpen : DecodeM protocol McContainerOpen := do
  .orFailed (require (mcProtocolSupported protocol = true))
  if protocol ≤ 5 then readNumberedWindow protocol
  else if protocol ≤ 404 then readNamedWindow
  else readRegistryWindow protocol

/-- A property of a window. -/
def mcReaderContainerData : DecodeM protocol McContainerData := do
  refuseFailed
  if mcProtocolSupported protocol = false then readerFailProtocol .unsupportedProtocol protocol
  else
    let windowId ← (if 768 ≤ protocol then do
        let windowId ← mcReaderVarint
        if windowId < 0 then readerFailProtocol .invalidPacketBody protocol
        else pure windowId
      else do
        let windowId ← mcReaderU8
        pure (windowId.toNat : Int))
    let property ← mcReaderI16
    let value ← mcReaderI16
    pure ⟨windowId, property, value⟩

structure McClientboundBlockEvent where
  position : McPosition
  blockId : Int
  action : UInt8
  parameter : UInt8
  deriving Repr, DecidableEq

/-- Where a block is: in 1.7 not packed. -/
def readEventPosition : DecodeM protocol McPosition :=
  if protocol ≤ 5 then do
    let x ← mcReaderI32
    let y ← mcReaderI16
    let z ← mcReaderI32
    pure ⟨x, y, z⟩
  else mcReaderPosition protocol

/-- The ids of blocks have twelve bits up to 340. -/
def maskedBlockId (blockId : Int) : Int :=
  if protocol ≤ 340 then ((blockId.toNat &&& 4095 : Nat) : Int) else blockId

def mcReaderClientboundBlockEvent : DecodeM protocol McClientboundBlockEvent := do
  refuseFailed
  if mcProtocolSupported protocol = false then readerFailProtocol .unsupportedProtocol protocol
  else
    let position ← readEventPosition protocol
    let action ← mcReaderU8
    let parameter ← mcReaderU8
    let blockId ← mcReaderVarint
    if blockId < 0 then readerFailProtocol .invalidPacketBody protocol
    else
      pure ⟨position, maskedBlockId protocol blockId, action, parameter⟩

structure McClientboundSystemChat where
  content : List UInt8
  sender : McUuid
  chatType : Int
  position : UInt8
  overlay : Bool
  contentIsNbt : Bool
  hasSender : Bool
  hasChatType : Bool
  hasPosition : Bool
  hasOverlay : Bool
  deriving Repr, DecidableEq

/-- Where a message is shown, and from 735 on who has sent it. -/
def readChatPosition (content : List UInt8) : ReadM McClientboundSystemChat := do
  let position ← orReject .invalidPacketBody 0 do
    let position ← mcReaderU8
    require (position ≤ 2)
    pure position
  let sender ← (if 735 ≤ protocol then do
      let sender ← mcReaderUuid
      pure (some sender)
    else pure none)
  pure ⟨content, sender.getD .zero, 0, position, false, false, sender.isSome, false, true, false⟩

/-- The layouts differ in what follows the message. -/
def mcReaderClientboundSystemChat : DecodeM protocol McClientboundSystemChat := do
  .orFailed (require (mcProtocolSupported protocol = true))
  let content ← (if 765 ≤ protocol then mcReaderNbt false else mcReaderString)
  if protocol ≤ 5 then
    pure ⟨content, .zero, 0, 0, false, false, false, false, false, false⟩
  else if protocol ≤ 758 then readChatPosition protocol content
  else if protocol = 759 then
    let chatType ← (orReject .invalidPacketBody 0 do
      let chatType ← mcReaderVarint
      require (0 ≤ chatType)
      pure chatType : ReadM Int)
    pure ⟨content, .zero, chatType, 0, false, false, false, true, false, false⟩
  else
    let overlay ← mcReaderBool
    pure ⟨content, .zero, 0, 0, overlay, decide (765 ≤ protocol), false, false, false, true⟩

structure McClientboundPlayerRemove where
  profileCount : Nat
  profileIds : List UInt8
  deriving Repr, DecidableEq

def skipProfileId : ReadM Unit := do
  let _ ← mcReaderUuid

def readProfileCount : ReadM Nat := orReject .invalidPacketBody 0 do
  let count ← mcReaderVarint
  require (0 ≤ count ∧ count ≤ mcMaxPacketArrayCount)
  pure count.toNat

/-- The packet exists from 761 on. -/
def mcReaderClientboundPlayerRemove : DecodeM protocol McClientboundPlayerRemove := do
  .orFailed (require (mcProtocolSupported protocol = true))
  rejectWhen (protocol < 761) .unsupportedProtocol 0
  let profileCount ← readProfileCount
  let start ← mcReaderOffset
  (.iterate (fun _ => skipProfileId) profileCount () : ReadM Unit)
  let profileIds ← readSince start
  pure ⟨profileCount, profileIds⟩

end

end McProtocol
