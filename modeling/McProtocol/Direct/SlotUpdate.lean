import McProtocol.Lockstep
import McProtocol.Typed.ItemViews
import McProtocol.Typed.PlainItems

/-! # Updates of one slot

The update of a slot is read by a reader of its own, which takes plain items, and by the decoder of
all packets, which takes any item. They have the id of the window from one byte, from a signed byte
or from a VarInt.
-/

namespace McProtocol

structure McInventorySlotUpdate where
  windowId : Int
  stateId : Int
  slot : Int
  itemId : Int
  count : Int
  directPlayerInventory : Bool
  deriving Repr, DecidableEq

/-- What stands in front of the item. -/
structure SlotAddress where
  windowId : Int
  stateId : Int
  slot : Int

section reader

variable (protocol : Int)

/-- The slot of the inventory of the player, which has no window. -/
def readInventorySlot : DecodeM protocol SlotAddress := .orFailed do
  let slot ← mcReaderVarint
  require (0 ≤ slot ∧ slot ≤ 42)
  pure ⟨-1, -1, slot⟩

/-- The slot of a window. Nothing is recorded of a negative state id. -/
def readMenuSlot : ReadM SlotAddress := do
  let windowId ← mcReaderU8
  let stateId ← (if 756 ≤ protocol then do
    let stateId ← mcReaderVarint
    require (0 ≤ stateId)
    pure stateId
    else pure (-1))
  let menuSlot ← mcReaderU16
  pure ⟨windowId.toNat, stateId, toSigned 16 menuSlot⟩

def mcReaderInventorySlotUpdate (directPlayerInventory : Bool) :
    DecodeM protocol McInventorySlotUpdate :=
  if mcProtocolSupported protocol = false ∨ directPlayerInventory = true ∧ protocol < 768 then
    .orFailed .refuse
  else do
    let address ← (if directPlayerInventory then readInventorySlot protocol
      else readMenuSlot protocol)
    let item ← mcReaderPlainItem protocol
    pure ⟨address.windowId, address.stateId, address.slot, item.1, item.2, directPlayerInventory⟩

end reader

/-- The state id of a window, from 756 on. -/
def IsStateId (mode : McDecodeMode) (protocol stateId : Int) (bytes : List UInt8) : Prop :=
  if 756 ≤ protocol then 0 ≤ stateId ∧ IsVarint mode stateId bytes else bytes = []

/-- The bytes of an update, as the reader of updates takes them. -/
def IsSlotUpdate (mode : McDecodeMode) (protocol : Int) (update : McInventorySlotUpdate)
    (bytes : List UInt8) : Prop :=
  ∃ (window : UInt8) (state : List UInt8) (slot : Nat) (item : List UInt8),
    bytes = [window] ++ (state ++ (BigEndian.bytes 2 slot ++ item)) ∧
      update.windowId = window.toNat ∧ IsStateId mode protocol update.stateId state ∧
      (slot < 2 ^ 16 ∧ update.slot = toSigned 16 slot) ∧
      IsPlainItemCode mode protocol (update.itemId, update.count) item

/-- The id of a window, as the decoder of updates takes it. -/
def IsSlotWindowId (mode : McDecodeMode) (protocol windowId : Int) (bytes : List UInt8) : Prop :=
  if 768 ≤ protocol then IsVarint mode windowId bytes
  else (-2 ^ 7 ≤ windowId ∧ windowId < 2 ^ 7) ∧ bytes = [UInt8.ofNat (toUnsigned 8 windowId)]

/-- The bytes of an update, as the decoder takes them. -/
def IsSetSlot (mode : McDecodeMode) (protocol : Int) (G : McItemStackView → List UInt8 → Prop)
    (packet : McSetSlotPacket) (bytes : List UInt8) : Prop :=
  ∃ (window state : List UInt8) (slot : Nat) (item : List UInt8),
    bytes = window ++ (state ++ (BigEndian.bytes 2 slot ++ item)) ∧
      IsSlotWindowId mode protocol packet.windowId window ∧
      IsStateId mode protocol packet.stateId state ∧
      (slot < 2 ^ 16 ∧ packet.slot = toSigned 16 slot) ∧ G packet.item item

section grammars

variable {mode : McDecodeMode} {protocol : Int}

theorem accepts_menuStateId :
    Accepts mode (if 756 ≤ protocol then (do
      let stateId ← mcReaderVarint
      require (0 ≤ stateId)
      pure stateId) else pure (-1) : ReadM Int).run fun stateId bytes =>
        IsStateId mode protocol stateId bytes ∧ (protocol < 756 → stateId = -1) := by
  refine Accepts.congr (.either (accepts_varint.bind fun _ => .guarded accepts_require (.pure _))
    (.pure (-1))) fun stateId bytes => ?_
  unfold IsStateId
  split_ifs with late
  · constructor
    · rintro ⟨_, head, _, rfl, isVarint, natural, rfl, rfl⟩
      rw [List.append_nil]
      exact ⟨⟨natural, isVarint⟩, by omega⟩
    · rintro ⟨⟨natural, isVarint⟩, -⟩
      exact ⟨stateId, bytes, [], (List.append_nil _).symm, isVarint, natural, rfl, rfl⟩
  · constructor
    · rintro ⟨rfl, rfl⟩
      exact ⟨rfl, fun _ => rfl⟩
    · rintro ⟨rfl, early⟩
      exact ⟨early (not_le.mp late), rfl⟩

theorem accepts_slotUpdate (supported : mcProtocolSupported protocol = true) :
    Accepts mode (mcReaderInventorySlotUpdate protocol false).run fun update bytes =>
      IsSlotUpdate mode protocol update bytes ∧ (protocol < 756 → update.stateId = -1) ∧
        update.directPlayerInventory = false := by
  have known : ¬ (mcProtocolSupported protocol = false ∨ false = true ∧ protocol < 768) := by
    simp [supported]
  unfold mcReaderInventorySlotUpdate
  rw [if_neg known]
  refine Accepts.congr ((accepts_u8.bind fun windowId => accepts_menuStateId.bind fun stateId =>
    accepts_u16.bind fun menuSlot =>
      .pure (⟨windowId.toNat, stateId, toSigned 16 menuSlot⟩ : SlotAddress)).bind fun address =>
        (accepts_plainItem supported).bind fun item => .pure (⟨address.windowId, address.stateId,
          address.slot, item.1, item.2, false⟩ : McInventorySlotUpdate)) fun update bytes => ?_
  constructor
  · rintro ⟨_, _, _, rfl, ⟨window, _, _, rfl, rfl, stateId, state, _, rfl, ⟨isState, early⟩, slot,
      _, _, rfl, ⟨small, rfl⟩, rfl, rfl⟩, _, item, _, rfl, plain, rfl, rfl⟩
    refine ⟨⟨window, state, slot, item, ?_, rfl, isState, ⟨small, rfl⟩, plain⟩, early, rfl⟩
    simp only [List.append_nil, List.append_assoc]
  · obtain ⟨windowId, stateId, slot, itemId, count, direct⟩ := update
    rintro ⟨⟨window, state, menuSlot, item, rfl, rfl, isState, ⟨small, rfl⟩, plain⟩, early, rfl⟩
    refine ⟨_, [window] ++ (state ++ (BigEndian.bytes 2 menuSlot ++ [])), item ++ [], ?_,
      ⟨window, [window], _, rfl, rfl, stateId, state, _, rfl, ⟨isState, early⟩, menuSlot, _, [], rfl,
        ⟨small, rfl⟩, rfl, rfl⟩, (itemId, count), item, [], rfl, plain, rfl, rfl⟩
    simp only [List.append_nil, List.append_assoc]

end grammars

/-- The validators of components read a part of the input, whatever follows it. -/
structure Validators.Local (validators : Validators) (protocol : Int) : Prop where
  types : McProtocol.Local .strict (validators.skipSlotComponentType protocol 0).run
  components : McProtocol.Local .strict (validators.skipSlotComponent protocol 0).run

section decoder

variable {validators : Validators} {protocol : Int}

/-- The patch of an item leaves its id and its count alone. -/
theorem returns_patchOf (reads : validators.Local protocol) (itemId count added removed : Int) :
    Returns .strict (mcReaderOffset.run >>= fun start =>
        (validators.readAdded protocol .full added).run >>= fun _ =>
          (validators.readRemoved protocol removed).run >>= fun _ =>
            (readSince start).run >>= fun components => Pure.pure
              (patchedItem .full itemId count added removed components))
      fun item => item.itemId = itemId ∧ item.count = count := by
  have adds : Local .strict (validators.readAdded protocol .full added).run :=
    .iterate (fun _ => reads.components) added.toNat ()
  obtain ⟨G, accepts⟩ := adds.bind fun _ => Local.readRemoved reads.types removed
  have sliced := accepts.slicedWith
    (f := fun (_ : Unit) slice => patchedItem .full itemId count added removed slice)
  simp only [Prog.bind_assoc] at sliced
  refine ⟨_, sliced, ?_⟩
  rintro item _ ⟨-, -, rfl⟩
  exact ⟨rfl, rfl⟩

/-- An item with its patch is at least as long as a plain one. -/
theorem gives_componentItem (reads : validators.Local protocol) (late : 766 ≤ protocol) :
    Gives .strict (validators.readComponentItem protocol .full).run fun item bytes =>
      (plainItemBytes protocol item.itemId item.count).length ≤ bytes.length := by
  have short : ¬ protocol ≤ 401 := by omega
  have unflagged : ¬ protocol < 766 := by omega
  refine Gives.mono (.bind (.ite accepts_i8.gives accepts_varint.gives) fun count =>
    .guarded accepts_typedRequire (.ite (Accepts.pure _).gives (.bind (.orInvalid
      (.bind accepts_varint.gives fun itemId => .bind accepts_varint.gives fun added =>
        .bind accepts_varint.gives fun removed => .guarded accepts_require
          (.guarded (accepts_rejectWhen 0) (.guarded (accepts_rejectWhen 0)
            (.guarded accepts_require (Accepts.pure _).gives))))) fun ids =>
              returns_patchOf reads ids.1 count ids.2.1 ids.2.2))) fun item bytes => ?_
  rintro ⟨count, size, tail, rfl, counted, few, behind⟩
  have counted : (encodeVarint count).length ≤ size.length := by
    rw [encodeVarint_count few]
    split_ifs at counted
    · rw [counted.2, List.length_singleton, List.length_singleton]
    · rw [counted.strict, encodeVarint_count few]
  by_cases none : count = 0
  · rw [if_pos none] at behind
    obtain ⟨rfl, rfl⟩ := behind
    have size := (encodeVarint_length count).1
    have plain : plainItemBytes protocol 0 0 = [0] := by
      rw [plainItemBytes, if_pos rfl, if_neg short]
    change (plainItemBytes protocol 0 0).length ≤ _
    rw [plain, List.length_append, List.length_singleton]
    omega
  · rw [if_neg none] at behind
    obtain ⟨_, _, _, rfl, ⟨itemId, id, _, rfl, named, added, adds, _, rfl, isAdded, removed, removes,
      _, rfl, isRemoved, -, -, -, -, rfl, rfl⟩, same, there⟩ := behind
    have first := (encodeVarint_length added).1
    have second := (encodeVarint_length removed).1
    rw [same, there, plainItemBytes, if_neg none, if_neg short, if_neg unflagged]
    simp only [named.strict, isAdded.strict, isRemoved.strict, List.length_append,
      List.length_singleton]
    omega

/-- What the decoder reads as an item, from 766 on at least as long as a plain one. -/
theorem accepts_stack (supported : mcProtocolSupported protocol = true)
    (reads : validators.Local protocol) :
    ∃ G, Accepts .strict (validators.mcReaderItemStack protocol .full).run G ∧
      ∀ item bytes, G item bytes → 766 ≤ protocol →
        (plainItemBytes protocol item.itemId item.count).length ≤ bytes.length := by
  have known : ¬ mcProtocolSupported protocol = false := by simp [supported]
  have full : ¬ McItemWireKind.full = .hashed := nofun
  obtain ⟨L, layout, long⟩ : Gives .strict (if McItemWireKind.full = .hashed then
        validators.readHashedItem protocol
      else if protocol ≤ 401 then validators.readShortItem protocol .full
      else if protocol < 766 then readFlaggedItem protocol .full
      else validators.readComponentItem protocol .full).run fun item bytes => 766 ≤ protocol →
        (plainItemBytes protocol item.itemId item.count).length ≤ bytes.length := by
    rw [if_neg full]
    split_ifs with short flagged
    · obtain ⟨G, accepts⟩ : Local .strict (validators.readShortItem protocol .full).run :=
        Local.readShortItem validators protocol .full
      exact ⟨G, accepts, fun _ _ _ late => by omega⟩
    · obtain ⟨G, accepts⟩ : Local .strict (readFlaggedItem protocol .full).run :=
        Local.readFlaggedItem protocol .full
      exact ⟨G, accepts, fun _ _ _ late => by omega⟩
    · exact (gives_componentItem reads (not_lt.mp flagged)).mono fun _ _ long _ => long
  unfold Validators.mcReaderItemStack
  simp only [if_neg known]
  refine ⟨_, accepts_refuseFailed.bind fun _ =>
    layout.slicedWith (f := fun item encoded => { item with encoded := encoded }), ?_⟩
  rintro item _ ⟨_, _, tail, rfl, rfl, decoded, derived, rfl⟩
  exact long decoded tail derived

theorem gives_typedDecodeSetSlot {G : McItemStackView → List UInt8 → Prop}
    (item : Accepts .strict (validators.mcReaderItemStack protocol .full).run G) :
    Gives .strict (validators.typedDecodeSetSlot protocol).run (IsSetSlot .strict protocol G) := by
  refine Gives.mono (.bind (.ite accepts_varint.gives (.ite accepts_i8.gives
    (.bind accepts_u8.gives fun value => (Accepts.pure _).gives))) fun windowId =>
      .bind (.ite (.orReject (.bind accepts_varint.gives fun stateId =>
        .guarded accepts_require (Accepts.pure _).gives)) (Accepts.pure _).gives) fun stateId =>
          .bind accepts_i16.gives fun slot => .bind item.gives fun view => (Accepts.pure _).gives)
            fun packet bytes => ?_
  rintro ⟨windowId, window, _, rfl, isWindow, stateId, state, _, rfl, isState, slot, _, _, rfl,
    ⟨⟨low, high⟩, rfl⟩, view, stack, _, rfl, derived, rfl, rfl⟩
  refine ⟨window, state, toUnsigned 16 slot, stack, ?_, isWindow, ?_,
    ⟨toUnsigned_lt 16 slot, (toSigned_toUnsigned (by norm_num) low high).symm⟩, derived⟩
  · simp only [List.append_nil]
  · unfold IsStateId
    split_ifs at isState ⊢
    · obtain ⟨_, head, _, rfl, isVarint, natural, rfl, rfl⟩ := isState
      rw [List.append_nil]
      exact ⟨natural, isVarint⟩
    · exact isState.2

end decoder

/-- The same slot of the same window, and the same item. -/
structure SlotsAgree (protocol : Int) (update : McInventorySlotUpdate) (packet : McSetSlotPacket) :
    Prop where
  windowId : update.windowId = packet.windowId
  stateId : 756 ≤ protocol → update.stateId = packet.stateId
  slot : update.slot = packet.slot
  itemId : update.itemId = packet.item.itemId
  count : update.count = packet.item.count

section both

variable {validators : Validators} {protocol : Int} {G : McItemStackView → List UInt8 → Prop}
variable {update : McInventorySlotUpdate} {packet : McSetSlotPacket} {data : List UInt8}

/-- What both readers take for an item is the same one. -/
theorem IsPlainItemCode.stack_eq {view : McItemStackView} {item : Int × Int} {bytes : List UInt8}
    (supported : mcProtocolSupported protocol = true)
    (accepts : Accepts .strict (validators.mcReaderItemStack protocol .full).run G)
    (code : IsPlainItemCode .strict protocol item bytes) (derived : G view bytes) :
    (view.itemId, view.count) = item := by
  have before : (mcReaderInitMode bytes .strict none).Before (bytes ++ []) := by
    rw [List.append_nil]
    exact mcReaderInitMode_before _ _ _
  have run := accepts.complete derived _ [] rfl before
  by_cases short : protocol ≤ 401 → item.1 ≤ int16Max
  · obtain ⟨other, reads, same, -⟩ := code.reads_stack validators supported short
    have again := reads _ [] rfl before
    rw [run] at again
    cases again
    exact same
  · rw [Classical.not_imp, not_le] at short
    exact absurd run (code.refuses_stack supported short.1 short.2 before)

/-- A short window id is one byte to both. -/
theorem slotsAgree_of_small (supported : mcProtocolSupported protocol = true)
    (accepts : Accepts .strict (validators.mcReaderItemStack protocol .full).run G)
    (read : IsSlotUpdate .strict protocol update data)
    (decoded : IsSetSlot .strict protocol G packet data)
    (small : ∀ byte ∈ data.head?, byte.toNat < 128) : SlotsAgree protocol update packet := by
  obtain ⟨window, state, slot, plain, rfl, windowId, isState, ⟨bound, slotIs⟩, code⟩ := read
  obtain ⟨window', state', slot', stack, same, isWindow, isState', ⟨bound', slotIs'⟩, derived⟩ :=
    decoded
  have low : window.toNat < 128 := small window rfl
  obtain ⟨windows, same⟩ : (window.toNat : Int) = packet.windowId ∧
      state ++ (BigEndian.bytes 2 slot ++ plain) = state' ++ (BigEndian.bytes 2 slot' ++ stack) := by
    unfold IsSlotWindowId at isWindow
    split_ifs at isWindow
    · obtain ⟨value, -, behind⟩ := accepts_varint.unambiguous (isVarint_byte low) isWindow same
      exact ⟨value, behind⟩
    · obtain ⟨⟨first, last⟩, rfl⟩ := isWindow
      obtain ⟨byte, behind⟩ := List.cons.inj same
      refine ⟨?_, behind⟩
      rw [byte, UInt8.toNat_ofNat'] at low ⊢
      simp only [toUnsigned] at low ⊢
      omega
  obtain ⟨states, same⟩ : (756 ≤ protocol → update.stateId = packet.stateId) ∧
      BigEndian.bytes 2 slot ++ plain = BigEndian.bytes 2 slot' ++ stack := by
    unfold IsStateId at isState isState'
    split_ifs at isState isState' with late
    · obtain ⟨value, -, behind⟩ := accepts_varint.unambiguous isState.2 isState'.2 same
      exact ⟨fun _ => value, behind⟩
    · rw [isState, isState'] at same
      exact ⟨fun now => absurd now late, same⟩
  obtain ⟨slots, rfl⟩ := List.append_inj same (by rw [BigEndian.length_bytes, BigEndian.length_bytes])
  have slots : slot = slot' := (BigEndian.bytes_inj bound bound').mp slots
  have items := code.stack_eq supported accepts derived
  exact ⟨windowId.trans windows, states, by rw [slotIs, slotIs', slots],
    (congrArg Prod.fst items).symm, (congrArg Prod.snd items).symm⟩

/-- Where both mean the same there is no room for a long window id. -/
theorem small_of_slotsAgree (supported : mcProtocolSupported protocol = true)
    (long : ∀ item bytes, G item bytes → 766 ≤ protocol →
      (plainItemBytes protocol item.itemId item.count).length ≤ bytes.length)
    (read : IsSlotUpdate .strict protocol update data)
    (decoded : IsSetSlot .strict protocol G packet data) (agree : SlotsAgree protocol update packet) :
    ∀ byte ∈ data.head?, byte.toNat < 128 := by
  obtain ⟨window, state, slot, plain, rfl, windowId, isState, -, code⟩ := read
  obtain ⟨window', state', slot', stack, same, isWindow, isState', -, derived⟩ := decoded
  have value : (window.toNat : Int) = packet.windowId := windowId.symm.trans agree.windowId
  rintro byte there
  obtain rfl : window = byte := Option.some.inj there
  unfold IsSlotWindowId at isWindow
  split_ifs at isWindow with late
  · have plainly := (code.strict supported).2.2
    have enough := long _ _ derived (by omega)
    rw [← agree.itemId, ← agree.count, ← plainly] at enough
    unfold IsStateId at isState isState'
    have stated : 756 ≤ protocol := by omega
    rw [if_pos stated] at isState isState'
    rw [isState.2.strict, isState'.2.strict, agree.stateId stated] at same
    have sizes := congrArg List.length same
    simp only [List.length_append, BigEndian.length_bytes, List.length_singleton] at sizes
    have isCode := isWindow.isCode
    cases isCode with
    | last small =>
        obtain ⟨rfl, -⟩ := List.cons.inj same
        exact small
    | more _ rest =>
        have some := rest.length_pos
        rw [List.length_cons] at sizes
        omega
  · omega

end both

/-- Where the reader of updates and the decoder of all packets both accept a payload in strict mode,
they mean the same update exactly if the first byte of the payload, from which they have the id of
the window, is below 128. -/
theorem setSlot_decoders_agree_iff (library : PacketLibrary) (arguments : McDecodeArguments)
    (error readerError : Option McError) (reads : library.validators.Local arguments.protocol)
    (update : McInventorySlotUpdate) (packet : McSetSlotPacket)
    (read : (readWhole (mcReaderInventorySlotUpdate arguments.protocol false)
      arguments.payload.content .strict readerError).1 = some update)
    (decoded : (mcDecodePacket library { arguments with mode := 1 } error).packet =
      some (.setSlot packet)) :
    SlotsAgree arguments.protocol update packet ↔
      ∀ byte ∈ arguments.payload.content.head?, byte.toNat < 128 := by
  obtain ⟨after, accepted⟩ := mcDecodePacket_accepted decoded
  have supported : mcProtocolSupported arguments.protocol = true := accepted.supported
  obtain ⟨G, accepts, long⟩ := accepts_stack supported reads
  obtain ⟨D, decodes, told⟩ := gives_typedDecodeSetSlot accepts
  have run : (library.validators.typedDecodeSetSlot arguments.protocol).run
      ({ arguments with mode := 1 }.bodyReader error) = (some packet, after) := accepted.decoded
  have derived := decodes.payload
    (show ({ arguments with mode := 1 }.bodyReader error).mode = .strict from rfl) run accepted.whole
  have isSetSlot : IsSetSlot .strict arguments.protocol G packet arguments.payload.content :=
    told _ _ derived
  have isUpdate := ((accepts_slotUpdate supported).whole read).1
  exact ⟨small_of_slotsAgree supported long isUpdate isSetSlot,
    slotsAgree_of_small supported accepts isUpdate isSetSlot⟩

theorem plainLibrary_local {names : List String} {size : Nat} (positive : 0 < size)
    (protocol : Int) : (plainLibrary names size positive).validators.Local protocol :=
  ⟨.refused fun _ => rfl, .refused fun _ => rfl⟩

/-- Three pieces of item 257 for the first slot of the hotbar. -/
theorem setSlot_decoders_agree_hotbar :
    let item : McItemStackView := { McItemStackView.absent .full with
      present := true
      itemId := 257
      count := 3
      encoded := [3, 0x81, 2, 0, 0] }
    SlotsAgree 776 ⟨0, 7, 36, 257, 3, false⟩ ⟨0, 7, 36, item, true⟩ :=
  (setSlot_decoders_agree_iff (plainLibrary ["set_slot"] 120 (by decide))
    (playArguments 776 1 0 1 [0, 7, 0, 36, 3, 0x81, 2, 0, 0] 120) none none
    (plainLibrary_local (by decide) 776) _ _ (by decide +kernel) (by decide +kernel)).mpr
      (by decide +kernel)

/-- The window of the cursor on 47, whose id is -1. -/
theorem setSlot_decoders_disagree_cursor :
    ∃ update packet,
      (readWhole (mcReaderInventorySlotUpdate 47 false) [255, 255, 255, 255, 255] .strict none).1 =
        some update ∧
      (mcDecodePacket (plainLibrary ["set_slot"] 120 (by decide))
        (playArguments 47 1 0 1 [255, 255, 255, 255, 255] 120) none).packet =
          some (.setSlot packet) ∧
      update.windowId = 255 ∧ packet.windowId = -1 ∧ ¬ SlotsAgree 47 update packet := by
  refine ⟨⟨255, -1, -1, 0, 0, false⟩,
    ⟨-1, 0, -1, { McItemStackView.absent .full with encoded := [255, 255] }, false⟩,
    by decide +kernel, by decide +kernel, rfl, rfl, fun agree => ?_⟩
  exact absurd agree.windowId (by decide)

end McProtocol
