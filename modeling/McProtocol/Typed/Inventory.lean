import McProtocol.Typed.Item

/-! # Windows and their slots

The decoders of clicks and of the contents of windows, and the iterator over the items
of a window, which reads the items again where the decoder has only skipped them.
-/

namespace McProtocol

/-- The id of a window: a byte before 768, read as signed or not. -/
def typedReadContainerId (protocol : Int) (signedLegacy : Bool) : ReadM Int :=
  if 768 ≤ protocol then mcReaderVarint
  else if signedLegacy then mcReaderI8
  else do
    let value ← mcReaderU8
    pure value.toNat

/-- The state id behind the window id, from 756 on. -/
def readStateId (protocol : Int) : ReadM Int :=
  if 756 ≤ protocol then orReject .invalidPacketBody 0 do
    let stateId ← mcReaderVarint
    require (0 ≤ stateId)
    pure stateId
  else pure 0

structure McWindowClickPacket where
  windowId : Int
  stateId : Int
  slot : Int
  mouseButton : Int
  actionNumber : Int
  mode : Int
  changedSlotCount : Nat
  changedSlots : List UInt8
  carriedItem : McItemStackView
  hasStateId : Bool
  hasActionNumber : Bool
  hashedSlots : Bool
  deriving Repr, DecidableEq

structure McSetCreativeSlotPacket where
  slot : Int
  item : McItemStackView
  deriving Repr, DecidableEq

structure McSetSlotPacket where
  windowId : Int
  stateId : Int
  slot : Int
  item : McItemStackView
  hasStateId : Bool
  deriving Repr, DecidableEq

structure McWindowItemsPacket where
  windowId : Int
  stateId : Int
  itemCount : Nat
  items : List UInt8
  carriedItem : McItemStackView
  itemWireKind : McItemWireKind
  hasStateId : Bool
  hasCarriedItem : Bool
  deriving Repr, DecidableEq

namespace Validators

variable (validators : Validators) (protocol : Int)

/-- The end of a click up to 754: what it did, and the item it carried. -/
structure ClickTail where
  actionNumber : Int
  mode : Int
  changedSlotCount : Nat
  changedSlots : List UInt8
  carriedItem : McItemStackView

def readOldClick : DecodeM protocol ClickTail := do
  let actionNumber ← mcReaderI16
  let mode ← mcReaderI8
  let carriedItem ← validators.mcReaderItemStack protocol .full
  pure ⟨actionNumber, mode, 0, [], carriedItem⟩

/-- The items of a click are hashed from 770 on. -/
def clickWireKind : McItemWireKind := if 770 ≤ protocol then .hashed else .full

/-- A slot that the click changed. -/
def skipChangedSlot : DecodeM protocol Unit := .orInvalid do
  let slot ← mcReaderI16
  require (0 ≤ slot)
  let _ ← validators.mcReaderItemStack protocol (clickWireKind protocol)

def readClick : DecodeM protocol ClickTail := do
  let mode ← (if protocol = 755 then mcReaderI8 else mcReaderVarint)
  let changed ← mcReaderVarint
  typedCount changed mcMaxContainerSlots
  let changedStart ← mcReaderOffset
  .iterate (fun _ => validators.skipChangedSlot protocol) changed.toNat ()
  let changedSlots ← readSince changedStart
  let carriedItem ← validators.mcReaderItemStack protocol (clickWireKind protocol)
  pure ⟨0, mode, changed.toNat, changedSlots, carriedItem⟩

def typedDecodeWindowClick : DecodeM protocol McWindowClickPacket := do
  let windowId ← typedReadContainerId protocol (decide (protocol ≤ 5))
  let stateId ← readStateId protocol
  let slot ← mcReaderI16
  let mouseButton ← mcReaderI8
  let tail ← (if protocol ≤ 754 then validators.readOldClick protocol
    else validators.readClick protocol)
  typedRequire (0 ≤ tail.mode ∧ tail.mode ≤ 6
    ∧ (if protocol ≤ 5 then -2 ^ 7 else 0) ≤ windowId)
  pure
    { windowId := windowId
      stateId := stateId
      slot := slot
      mouseButton := mouseButton
      actionNumber := tail.actionNumber
      mode := tail.mode
      changedSlotCount := tail.changedSlotCount
      changedSlots := tail.changedSlots
      carriedItem := tail.carriedItem
      hasStateId := decide (756 ≤ protocol)
      hasActionNumber := decide (protocol ≤ 754)
      hashedSlots := decide (770 ≤ protocol) }

def typedDecodeSetCreativeSlot : DecodeM protocol McSetCreativeSlotPacket := do
  let slot ← mcReaderI16
  let item ← validators.mcReaderItemStack protocol (if 770 ≤ protocol then .untrusted else .full)
  typedRequire (-1 ≤ slot ∧ slot ≤ 53)
  pure ⟨slot, item⟩

def typedDecodeSetSlot : DecodeM protocol McSetSlotPacket := do
  let windowId ← typedReadContainerId protocol true
  let stateId ← readStateId protocol
  let slot ← mcReaderI16
  let item ← validators.mcReaderItemStack protocol .full
  pure ⟨windowId, stateId, slot, item, decide (756 ≤ protocol)⟩

def typedReadWindowItemCount : ReadM Int :=
  if 756 ≤ protocol then mcReaderVarint
  else do
    let wire ← mcReaderU16
    pure wire

/-- An item that is only skipped. -/
def skipItemStack (wireKind : McItemWireKind) : DecodeM protocol Unit := do
  let _ ← validators.mcReaderItemStack protocol wireKind

def typedDecodeWindowItems : DecodeM protocol McWindowItemsPacket := do
  let windowId ← typedReadContainerId protocol false
  let stateId ← readStateId protocol
  let count ← typedReadWindowItemCount protocol
  typedCount count mcMaxContainerSlots
  let itemsStart ← mcReaderOffset
  .iterate (fun _ => validators.skipItemStack protocol .full) count.toNat ()
  let items ← readSince itemsStart
  let carriedItem ← (if 755 ≤ protocol then validators.mcReaderItemStack protocol .full
    else pure (.absent .full))
  pure
    { windowId := windowId
      stateId := stateId
      itemCount := count.toNat
      items := items
      carriedItem := carriedItem
      itemWireKind := .full
      hasStateId := decide (756 ≤ protocol)
      hasCarriedItem := decide (755 ≤ protocol) }

end Validators

structure McItemIterator where
  reader : McReader
  protocol : Int
  wireKind : McItemWireKind
  remaining : Nat

/-- A strict reader over a slice, without an error to fill. -/
def sliceReader (slice : List UInt8) : McReader := mcReaderInitMode slice .strict none

def mcWindowItemsIterator (packet : McWindowItemsPacket) (protocol : Int) :
    Option McItemIterator :=
  if mcProtocolSupported protocol = false ∨ mcMaxContainerSlots < packet.itemCount then none
  else some ⟨sliceReader packet.items, protocol, packet.itemWireKind, packet.itemCount⟩

/-- The iterator stays where the failed reader left it. -/
def Validators.mcItemIteratorNext (validators : Validators) (iterator : McItemIterator) :
    Option McItemStackView × McItemIterator :=
  if iterator.remaining = 0 then (none, iterator)
  else
    match (validators.mcReaderItemStack iterator.protocol iterator.wireKind).run iterator.reader with
    | (none, reader) => (none, { iterator with reader := reader })
    | (some item, reader) =>
        let iterator := { iterator with reader := reader, remaining := iterator.remaining - 1 }
        if iterator.remaining = 0 ∧ mcReaderRemaining reader ≠ 0 then
          (none, { iterator with reader := reader.fail .invalidPacketBody reader.offset })
        else (some item, iterator)

end McProtocol
