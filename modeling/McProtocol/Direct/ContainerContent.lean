import McProtocol.Direct.SlotUpdate

/-! # The content of a window

The reader of contents keeps the plain items of a window. The decoder of all packets only skips its
items, which an iterator reads again.
-/

namespace McProtocol

structure McContainerItem where
  itemId : Int
  count : Int
  deriving Repr, DecidableEq

structure McContainerContent where
  windowId : Int
  stateId : Int
  slots : List McContainerItem
  carried : McContainerItem
  hasStateId : Bool
  hasCarried : Bool
  deriving Repr, DecidableEq

def mcContainerContentMaxSlots : Nat := 128

section reader

variable (protocol : Int)

def readContainerItem : DecodeM protocol McContainerItem := do
  let item ← mcReaderPlainItem protocol
  pure ⟨item.1, item.2⟩

/-- The id of the window: one byte, from 768 on a VarInt that is not negative. -/
def readContentWindowId : DecodeM protocol Int :=
  if 768 ≤ protocol then .orFailed do
    let windowId ← mcReaderVarint
    require (0 ≤ windowId)
    pure windowId
  else do
    let windowId ← mcReaderU8
    pure windowId.toNat

/-- The state id, from 756 on, and the count of the slots. -/
def readContentCounts : DecodeM protocol (Int × Int) :=
  if 756 ≤ protocol then .orFailed do
    let stateId ← mcReaderVarint
    require (0 ≤ stateId)
    let encodedCount ← mcReaderVarint
    require (0 ≤ encodedCount)
    pure (stateId, encodedCount)
  else do
    let count ← mcReaderU16
    pure (-1, count)

def readContainerSlots (count : Nat) : DecodeM protocol (List McContainerItem) :=
  .iterate (fun slots => do
    let item ← readContainerItem protocol
    pure (slots ++ [item])) count []

def mcReaderContainerContent : DecodeM protocol McContainerContent :=
  if mcProtocolSupported protocol = false then .orFailed .refuse
  else do
    let windowId ← readContentWindowId protocol
    let counts ← readContentCounts protocol
    .orFailed (require (counts.2 ≤ mcContainerContentMaxSlots))
    let slots ← readContainerSlots protocol counts.2.toNat
    let carried ← (if 755 ≤ protocol then readContainerItem protocol else pure ⟨0, 0⟩)
    pure ⟨windowId, counts.1, slots, carried, decide (756 ≤ protocol), decide (755 ≤ protocol)⟩

end reader

section grammar

variable (mode : McDecodeMode) (protocol : Int)

def IsContainerItem (item : McContainerItem) (bytes : List UInt8) : Prop :=
  IsPlainItemCode mode protocol (item.itemId, item.count) bytes

def IsContentWindowId (windowId : Int) (bytes : List UInt8) : Prop :=
  if 768 ≤ protocol then 0 ≤ windowId ∧ IsVarint mode windowId bytes
  else ∃ byte : UInt8, windowId = byte.toNat ∧ bytes = [byte]

/-- The count of the slots. -/
def IsSlotCount (count : Nat) (bytes : List UInt8) : Prop :=
  if 756 ≤ protocol then IsVarint mode count bytes
  else count < 2 ^ 16 ∧ bytes = BigEndian.bytes 2 count

/-- What is there of the fields that only some releases have. -/
structure ContentFields (value : McContainerContent) : Prop where
  hasStateId : value.hasStateId = decide (756 ≤ protocol)
  hasCarried : value.hasCarried = decide (755 ≤ protocol)
  stateId : protocol < 756 → value.stateId = -1
  carried : protocol < 755 → value.carried = ⟨0, 0⟩

def IsContainerContent (value : McContainerContent) (bytes : List UInt8) : Prop :=
  ContentFields protocol value ∧ value.slots.length ≤ mcContainerContentMaxSlots ∧
    ∃ (window state count carried : List UInt8) (parts : List (List UInt8)),
      bytes = window ++ (state ++ (count ++ (parts.flatten ++ carried))) ∧
      IsContentWindowId mode protocol value.windowId window ∧
      IsStateId mode protocol value.stateId state ∧
      IsSlotCount mode protocol value.slots.length count ∧
      List.Forall₂ (IsContainerItem mode protocol) value.slots parts ∧
      if 755 ≤ protocol then IsContainerItem mode protocol value.carried carried else carried = []

end grammar

section accepted

variable {mode : McDecodeMode} {protocol : Int}

theorem accepts_containerItem (supported : mcProtocolSupported protocol = true) :
    Accepts mode (readContainerItem protocol).run (IsContainerItem mode protocol) := by
  refine ((accepts_plainItem supported).map fun item => (⟨item.1, item.2⟩ : McContainerItem)).congr
    fun item bytes => ⟨?_, fun code => ⟨_, rfl, code⟩⟩
  rintro ⟨item, rfl, code⟩
  exact code

theorem accepts_contentWindowId :
    Accepts mode (readContentWindowId protocol).run (IsContentWindowId mode protocol) := by
  refine Accepts.congr (.either (.rescue (accepts_varint.bind fun windowId =>
    .guarded accepts_require (.pure windowId)) _) (accepts_u8.bind fun windowId =>
      .pure (windowId.toNat : Int))) fun windowId bytes => ?_
  unfold IsContentWindowId
  split_ifs
  · constructor
    · rintro ⟨_, head, _, rfl, isVarint, natural, rfl, rfl⟩
      rw [List.append_nil]
      exact ⟨natural, isVarint⟩
    · rintro ⟨natural, isVarint⟩
      exact ⟨windowId, bytes, [], (List.append_nil _).symm, isVarint, natural, rfl, rfl⟩
  · constructor
    · rintro ⟨byte, _, _, rfl, rfl, rfl, rfl⟩
      exact ⟨byte, rfl, rfl⟩
    · rintro ⟨byte, rfl, rfl⟩
      exact ⟨byte, [byte], [], rfl, rfl, rfl, rfl⟩

/-- The state id and the count: the count is not negative in any layout. -/
theorem accepts_contentCounts :
    Accepts mode (readContentCounts protocol).run fun counts bytes =>
      (protocol < 756 → counts.1 = -1) ∧ ∃ (number : Nat) (state count : List UInt8),
        counts.2 = number ∧ bytes = state ++ count ∧ IsStateId mode protocol counts.1 state ∧
          IsSlotCount mode protocol number count := by
  refine Accepts.congr (.either (.rescue (accepts_varint.bind fun stateId =>
    .guarded accepts_require (accepts_varint.bind fun encodedCount =>
      .guarded accepts_require (.pure (stateId, encodedCount)))) _) (accepts_u16.bind fun count =>
        .pure ((-1 : Int), (count : Int)))) fun counts bytes => ?_
  unfold IsStateId IsSlotCount
  split_ifs with late
  · constructor
    · rintro ⟨stateId, state, _, rfl, isState, natural, encodedCount, count, _, rfl, isCount, some,
        rfl, rfl⟩
      obtain ⟨number, rfl⟩ := Int.eq_ofNat_of_zero_le some
      rw [List.append_nil]
      exact ⟨by omega, number, state, count, rfl, rfl, ⟨natural, isState⟩, isCount⟩
    · obtain ⟨stateId, encodedCount⟩ := counts
      rintro ⟨-, number, state, count, rfl, rfl, ⟨natural, isState⟩, isCount⟩
      exact ⟨stateId, state, count, rfl, isState, natural, number, count, [],
        (List.append_nil _).symm, isCount, Int.natCast_nonneg number, rfl, rfl⟩
  · constructor
    · rintro ⟨number, _, _, rfl, ⟨small, rfl⟩, rfl, rfl⟩
      exact ⟨fun _ => rfl, number, [], _, rfl, List.append_nil _, rfl, small, rfl⟩
    · obtain ⟨stateId, encodedCount⟩ := counts
      rintro ⟨early, number, _, _, rfl, rfl, rfl, small, rfl⟩
      obtain rfl : stateId = -1 := early (not_le.mp late)
      exact ⟨number, _, [], (List.append_nil _).symm, ⟨small, rfl⟩, rfl, rfl⟩

theorem accepts_containerContent (supported : mcProtocolSupported protocol = true) :
    Accepts mode (mcReaderContainerContent protocol).run (IsContainerContent mode protocol) := by
  have known : ¬ mcProtocolSupported protocol = false := by simp [supported]
  unfold mcReaderContainerContent
  rw [if_neg known]
  refine Accepts.congr (accepts_contentWindowId.bind fun windowId => accepts_contentCounts.bind
    fun counts => .guarded (.rescue accepts_require _)
      ((Accepts.collect (accepts_containerItem supported) counts.2.toNat).bind fun slots =>
        (Accepts.either (accepts_containerItem supported)
          (.pure (⟨0, 0⟩ : McContainerItem))).bind fun carried =>
          .pure (⟨windowId, counts.1, slots, carried, decide (756 ≤ protocol),
            decide (755 ≤ protocol)⟩ : McContainerContent))) fun value bytes => ?_
  constructor
  · rintro ⟨windowId, window, _, rfl, isWindow, counts, _, _, rfl, ⟨early, number, state, count, same,
      rfl, isState, isCount⟩, few, slots, _, _, rfl, ⟨parts, length, each, rfl⟩, carried, item, _,
      rfl, isCarried, rfl, rfl⟩
    have size : slots.length = number := by
      rw [each.length_eq, length, same, Int.toNat_natCast]
    have fits : slots.length ≤ mcContainerContentMaxSlots := by omega
    refine ⟨⟨rfl, rfl, early, fun old => ?_⟩, fits, window, state, count, item, parts, ?_,
      isWindow, isState, size ▸ isCount, each, ?_⟩
    · rw [if_neg (not_le.mpr old)] at isCarried
      exact isCarried.1
    · simp only [List.append_nil, List.append_assoc]
    · split_ifs at isCarried ⊢
      · exact isCarried
      · exact isCarried.2
  · obtain ⟨windowId, stateId, slots, carried, hasStateId, hasCarried⟩ := value
    rintro ⟨⟨rfl, rfl, early, empty⟩, few, window, state, count, item, parts, rfl, isWindow, isState,
      isCount, each, isCarried⟩
    refine ⟨windowId, window, _, rfl, isWindow, (stateId, slots.length), state ++ count,
      parts.flatten ++ item, ?_, ⟨early, _, state, count, rfl, rfl, isState, isCount⟩,
      Int.ofNat_le.mpr few, slots, parts.flatten, item, rfl, ⟨parts, ?_, each, rfl⟩, carried, item,
      [], (List.append_nil _).symm, ?_, rfl, rfl⟩
    · rw [List.append_assoc]
    · rw [← each.length_eq]
      exact (Int.toNat_natCast _).symm
    · split_ifs at isCarried ⊢ with late
      · exact isCarried
      · exact ⟨empty (not_le.mp late), isCarried⟩

end accepted

/-- An item as the reader of contents keeps it. -/
def McItemStackView.containerItem (view : McItemStackView) : McContainerItem :=
  ⟨view.itemId, view.count⟩

/-- The packet means the same window: its iterator returns the slots in their order. -/
structure ContentAgrees (validators : Validators) (protocol : Int) (value : McContainerContent)
    (packet : McWindowItemsPacket) : Prop where
  windowId : packet.windowId = value.windowId
  hasStateId : packet.hasStateId = value.hasStateId
  stateId : value.hasStateId = true → packet.stateId = value.stateId
  items : ∃ iterator last views, packet.Iterates validators protocol iterator last views ∧
    views.map McItemStackView.containerItem = value.slots
  hasCarried : packet.hasCarriedItem = value.hasCarried
  carried : packet.carriedItem.containerItem = value.carried

/-- The item is one of 15 bits, where its id has 16. -/
def McContainerItem.Short (protocol : Int) (item : McContainerItem) : Prop :=
  protocol ≤ 401 → item.itemId ≤ int16Max

section decoder

variable {validators : Validators} {protocol : Int} {value : McContainerContent}
variable {data : List UInt8}

variable (validators) in
theorem IsContainerItem.reads_stack {item : McContainerItem} {bytes : List UInt8}
    (supported : mcProtocolSupported protocol = true)
    (code : IsContainerItem .strict protocol item bytes) (short : item.Short protocol) :
    ∃ view, Reads .strict (validators.mcReaderItemStack protocol .full).run view view.encoded ∧
      view.containerItem = item ∧ view.encoded = bytes := by
  obtain ⟨view, reads, same, rfl⟩ := IsPlainItemCode.reads_stack validators supported code short
  obtain ⟨named, counted⟩ := Prod.mk.inj same
  refine ⟨view, reads, ?_, rfl⟩
  rw [McItemStackView.containerItem, named, counted]

variable (validators) in
/-- The slots as items of the decoder. -/
theorem exists_views (supported : mcProtocolSupported protocol = true)
    {items : List McContainerItem} {parts : List (List UInt8)}
    (each : List.Forall₂ (IsContainerItem .strict protocol) items parts)
    (short : ∀ item ∈ items, item.Short protocol) :
    ∃ views : List McItemStackView, views.map McItemStackView.containerItem = items ∧
      views.map McItemStackView.encoded = parts ∧ ∀ view ∈ views,
        Reads .strict (validators.mcReaderItemStack protocol .full).run view view.encoded := by
  induction each with
  | nil => exact ⟨[], rfl, rfl, List.forall_mem_nil _⟩
  | cons code _ ih =>
      obtain ⟨first, others⟩ := List.forall_mem_cons.mp short
      obtain ⟨views, rfl, rfl, all⟩ := ih others
      obtain ⟨view, reads, rfl, rfl⟩ := code.reads_stack validators supported first
      exact ⟨view :: views, rfl, rfl, List.forall_mem_cons.mpr ⟨reads, all⟩⟩

theorem IsContentWindowId.reads {windowId : Int} {bytes : List UInt8}
    (code : IsContentWindowId .strict protocol windowId bytes) :
    Reads .strict (typedReadContainerId protocol false).run windowId bytes := by
  unfold IsContentWindowId at code
  unfold typedReadContainerId
  simp only [Bool.false_eq_true, if_false]
  split_ifs at code ⊢
  · exact accepts_varint.complete code.2
  · obtain ⟨byte, rfl, rfl⟩ := code
    exact .thenPure (.u8 byte) (.pure _)

theorem IsStateId.reads {stateId : Int} {bytes : List UInt8}
    (code : IsStateId .strict protocol stateId bytes) :
    Reads .strict (readStateId protocol).run (if 756 ≤ protocol then stateId else 0) bytes := by
  unfold IsStateId at code
  unfold readStateId
  split_ifs at code ⊢
  · exact .rescue (.thenPure (accepts_varint.complete code.2) (.after (.require code.1) (.pure _)))
  · subst code
    exact .pure 0

theorem IsSlotCount.reads {count : Nat} {bytes : List UInt8}
    (code : IsSlotCount .strict protocol count bytes) :
    Reads .strict (Validators.typedReadWindowItemCount protocol).run count bytes := by
  unfold IsSlotCount at code
  unfold Validators.typedReadWindowItemCount
  split_ifs at code ⊢
  · exact accepts_varint.complete code
  · obtain ⟨small, rfl⟩ := code
    exact .thenPure (.u16 small) (.pure _)

variable (validators) in
/-- Without long ids the decoder reads the same content. -/
theorem reads_windowItems (supported : mcProtocolSupported protocol = true)
    (content : IsContainerContent .strict protocol value data)
    (short : ∀ item ∈ value.slots, item.Short protocol) :
    ∃ packet, Reads .strict (validators.typedDecodeWindowItems protocol).run packet data ∧
      ContentAgrees validators protocol value packet := by
  obtain ⟨fields, few, window, state, count, item, parts, rfl, isWindow, isState, isCount, each,
    isCarried⟩ := content
  obtain ⟨views, slots, rfl, all⟩ := exists_views validators supported each short
  have length : (views.map McItemStackView.encoded).length = value.slots.length :=
    each.length_eq.symm
  obtain ⟨carried, reads, same⟩ : ∃ carried : McItemStackView, Reads .strict (if 755 ≤ protocol then
      validators.mcReaderItemStack protocol .full else pure (.absent .full) :
        DecodeM protocol McItemStackView).run carried item ∧
      carried.containerItem = value.carried := by
    by_cases late : 755 ≤ protocol
    · rw [if_pos late] at isCarried ⊢
      obtain ⟨carried, reads, same, rfl⟩ := isCarried.reads_stack validators
        supported (by intro old; omega)
      exact ⟨carried, reads, same⟩
    · rw [if_neg late] at isCarried ⊢
      subst isCarried
      exact ⟨_, .pure _, (fields.carried (not_le.mp late)).symm⟩
  have few : value.slots.length ≤ mcMaxContainerSlots := few.trans (by decide)
  let packet : McWindowItemsPacket := {
    windowId := value.windowId
    stateId := if 756 ≤ protocol then value.stateId else 0
    itemCount := value.slots.length
    items := (views.map McItemStackView.encoded).flatten
    carriedItem := carried
    itemWireKind := .full
    hasStateId := decide (756 ≤ protocol)
    hasCarriedItem := decide (755 ≤ protocol) }
  have skips : Reads .strict (Program.iterate (fun _ => validators.skipItemStack protocol .full)
      value.slots.length ()).run () (views.map McItemStackView.encoded).flatten := by
    rw [← length]
    refine Reads.iterate fun part mem => ?_
    obtain ⟨view, found, rfl⟩ := List.mem_map.mp mem
    exact .thenPure (all view found) (.pure ())
  refine ⟨packet, ?_, ⟨rfl, fields.hasStateId.symm, fun there => ?_, ?_, fields.hasCarried.symm,
    same⟩⟩
  · refine .bind isWindow.reads (.bind isState.reads (.bind isCount.reads
      (.after (.typedCount (Int.natCast_nonneg _) (Int.ofNat_le.mpr few))
        (.slicedThen skips (.thenPure reads (.pure packet))))))
  · rw [fields.hasStateId] at there
    exact if_pos (of_decide_eq_true there)
  · have holds : packet.Holds (fun view bytes =>
        Reads .strict (validators.mcReaderItemStack protocol .full).run view bytes) views :=
      ⟨rfl, by rw [← List.length_map, length]; exact few, by rw [← List.length_map, length], rfl, all⟩
    obtain ⟨iterator, last, iterates⟩ := holds.iterates supported fun reads => reads
    exact ⟨iterator, last, views, iterates, slots⟩

/-- Up to 401 an item starts with the two bytes of its id. -/
theorem IsContainerItem.length_pos {item : McContainerItem} {bytes : List UInt8}
    (supported : mcProtocolSupported protocol = true) (old : protocol ≤ 401)
    (code : IsContainerItem .strict protocol item bytes) : 0 < bytes.length := by
  obtain ⟨-, -, rfl⟩ := code.strict supported
  simp only [plainItemBytes, if_pos old]
  split_ifs
  all_goals simp only [List.length_append, BigEndian.length_bytes]
  all_goals omega

/-- Where the decoder reads the same items none of them is a long one. -/
theorem short_of_same {G : McItemStackView → List UInt8 → Prop}
    (supported : mcProtocolSupported protocol = true) (old : protocol ≤ 401)
    (accepts : Accepts .strict (validators.mcReaderItemStack protocol .full).run G)
    {items : List McContainerItem} {parts others : List (List UInt8)}
    (each : List.Forall₂ (IsContainerItem .strict protocol) items parts)
    (derived : ∀ part ∈ others, ∃ view, G view part) (same : parts.flatten = others.flatten) :
    ∀ item ∈ items, item.itemId ≤ int16Max := by
  induction each generalizing others with
  | nil => exact List.forall_mem_nil _
  | @cons item part items parts code _ ih =>
      cases others with
      | nil =>
          have empty := congrArg List.length same
          have some := code.length_pos supported old
          rw [List.flatten_cons, List.length_append] at empty
          simp only [List.flatten_nil, List.length_nil] at empty
          omega
      | cons other others =>
          obtain ⟨⟨view, first⟩, rest⟩ := List.forall_mem_cons.mp derived
          rw [List.flatten_cons, List.flatten_cons] at same
          have before : (mcReaderInitMode (part ++ parts.flatten) .strict none).Before
              (part ++ parts.flatten) :=
            mcReaderInitMode_before _ _ _
          have run := accepts.complete first _ others.flatten rfl (same ▸ before)
          rw [← same] at run
          by_cases short : item.itemId ≤ int16Max
          · obtain ⟨again, reads, -, rfl⟩ := code.reads_stack validators supported
              fun _ => short
            have twin := reads _ parts.flatten rfl before
            rw [run] at twin
            have ends := congrArg (fun after => after.2.offset) twin
            have length : other.length = again.encoded.length := by
              change 0 + other.length = 0 + again.encoded.length at ends
              omega
            have behind := (List.append_inj same length.symm).2
            exact List.forall_mem_cons.mpr ⟨short, ih rest behind⟩
          · exact absurd run (code.refuses_stack supported old (not_le.mp short) before)

/-- Behind the window and the count the payload is a list of slots, one of which has a long id. -/
def ListsLongId (protocol : Int) (data : List UInt8) : Prop :=
  ∃ (head : List UInt8) (items : List McContainerItem) (parts : List (List UInt8)),
    head.length = 3 ∧ data = head ++ parts.flatten ∧
      List.Forall₂ (IsContainerItem .strict protocol) items parts ∧
      ∃ item ∈ items, int16Max < item.itemId

/-- A content of such a payload has the slot. -/
theorem listsLongId_of_content (old : protocol ≤ 401)
    (content : IsContainerContent .strict protocol value data) {item : McContainerItem}
    (slot : item ∈ value.slots) (long : int16Max < item.itemId) : ListsLongId protocol data := by
  obtain ⟨-, -, window, state, count, carried, parts, rfl, isWindow, isState, isCount, each,
    isCarried⟩ := content
  have early : ¬ 768 ≤ protocol ∧ ¬ 756 ≤ protocol ∧ ¬ 755 ≤ protocol := by omega
  rw [IsContentWindowId, if_neg early.1] at isWindow
  rw [IsStateId, if_neg early.2.1] at isState
  rw [IsSlotCount, if_neg early.2.1] at isCount
  rw [if_neg early.2.2] at isCarried
  obtain ⟨byte, -, rfl⟩ := isWindow
  obtain ⟨small, rfl⟩ := isCount
  subst isState isCarried
  refine ⟨[byte] ++ BigEndian.bytes 2 value.slots.length, value.slots, parts, ?_, ?_, each, item,
    slot, long⟩
  · rw [List.length_append, BigEndian.length_bytes, List.length_singleton]
  · rw [List.append_nil, List.nil_append, List.append_assoc]

variable (validators) in
theorem local_oldStack (supported : mcProtocolSupported protocol = true) (old : protocol ≤ 401) :
    Local .strict (validators.mcReaderItemStack protocol .full).run := by
  have known : ¬ mcProtocolSupported protocol = false := by simp [supported]
  have full : ¬ McItemWireKind.full = .hashed := nofun
  have short : Local .strict (validators.readShortItem protocol .full).run :=
    Local.readShortItem validators protocol .full
  unfold Validators.mcReaderItemStack
  simp only [if_neg known, if_neg full, if_pos old]
  exact .bind .refuseFailed fun _ =>
    short.slicedWith (f := fun item encoded => { item with encoded := encoded })

/-- Up to 401 the items start behind three bytes, and nothing follows them. -/
theorem gives_oldWindowItems {G : McItemStackView → List UInt8 → Prop} (old : protocol ≤ 401)
    (accepts : Accepts .strict (validators.mcReaderItemStack protocol .full).run G) :
    Gives .strict (validators.typedDecodeWindowItems protocol).run fun _ bytes =>
      ∃ (head : List UInt8) (others : List (List UInt8)), head.length = 3 ∧
        bytes = head ++ others.flatten ∧ ∀ part ∈ others, ∃ view, G view part := by
  have early : ¬ 768 ≤ protocol ∧ ¬ 756 ≤ protocol ∧ ¬ 755 ≤ protocol := by omega
  have slots (count : Nat) : Gives .strict (mcReaderOffset.run >>= fun start =>
      (Program.iterate (fun _ => validators.skipItemStack protocol .full) count ()).run >>=
        fun _ => (readSince start).run >>= fun slice => Pure.pure slice) fun _ bytes =>
          ∃ others : List (List UInt8), bytes = others.flatten ∧
            ∀ part ∈ others, ∃ view, G view part := by
    refine ((accepts_skipItemStack accepts).iterate count).slicedWith.gives.mono ?_
    rintro slice bytes ⟨-, ⟨others, -, each, rfl⟩, rfl⟩
    exact ⟨others, rfl, each⟩
  have rest (windowId stateId count : Int) :=
    (slots count.toNat).bind fun items => (Accepts.pure ({
      windowId := windowId
      stateId := stateId
      itemCount := count.toNat
      items := items
      carriedItem := .absent .full
      itemWireKind := .full
      hasStateId := decide (756 ≤ protocol)
      hasCarriedItem := decide (755 ≤ protocol) } : McWindowItemsPacket)).gives
  simp only [Prog.bind_assoc, Prog.pure_bind] at rest
  unfold Validators.typedDecodeWindowItems typedReadContainerId readStateId
    Validators.typedReadWindowItemCount
  simp only [if_neg early.1, if_neg early.2.1, if_neg early.2.2, Bool.false_eq_true, if_false]
  refine Gives.mono (.bind (.bind accepts_u8.gives fun value =>
    (Accepts.pure (value.toNat : Int)).gives) fun windowId => .bind (Accepts.pure (0 : Int)).gives
      fun stateId => .bind (.bind accepts_u16.gives fun wire => (Accepts.pure (wire : Int)).gives)
        fun count => .guarded (accepts_rejectWhen 0) (rest windowId stateId count))
          fun packet bytes => ?_
  rintro ⟨windowId, _, _, rfl, ⟨byte, _, _, rfl, rfl, -, rfl⟩, stateId, _, _, rfl, ⟨-, rfl⟩, count,
    _, _, rfl, ⟨wire, _, _, rfl, ⟨-, rfl⟩, -, rfl⟩, -, items, _, _, rfl, ⟨others, rfl, each⟩, -, rfl⟩
  refine ⟨[byte] ++ BigEndian.bytes 2 wire, others, ?_, ?_, each⟩
  · rw [List.length_append, BigEndian.length_bytes, List.length_singleton]
  · simp only [List.append_nil, List.nil_append, List.append_assoc]

variable (validators) in
/-- The decoder reads no long id. -/
theorem windowItems_refuses (supported : mcProtocolSupported protocol = true)
    (old : protocol ≤ 401) (listed : ListsLongId protocol data) :
    ∃ D, Accepts .strict (validators.typedDecodeWindowItems protocol).run D ∧
      ∀ packet, ¬ D packet data := by
  obtain ⟨G, accepts⟩ := local_oldStack validators supported old
  obtain ⟨D, decodes, told⟩ := gives_oldWindowItems old accepts
  refine ⟨D, decodes, fun packet derived => ?_⟩
  obtain ⟨head, items, parts, three, rfl, each, item, slot, long⟩ := listed
  obtain ⟨other, others, length, same, derived⟩ := told packet _ derived
  obtain ⟨-, same⟩ := List.append_inj same (three.trans length.symm)
  exact absurd (short_of_same supported old accepts each derived same item slot) (not_le.mpr long)

end decoder

/-- Where the reader of contents accepts a payload in strict mode the decoder of all packets accepts
it too, and its iterator returns the same slots, exactly if the release is newer than 401 or no slot
has a long id. -/
theorem containerContent_refined_iff (library : PacketLibrary) (arguments : McDecodeArguments)
    (error readerError : Option McError) (selected : SelectedPacket) (value : McContainerContent)
    (moded : arguments.decodeMode = some .strict)
    (chosen : (arguments.select library).2 = .ok selected)
    (family : selected.family = .windowItems)
    (read : (readWhole (mcReaderContainerContent arguments.protocol) arguments.payload.content .strict
      readerError).1 = some value) :
    (∃ packet, (mcDecodePacket library arguments error).packet = some (.windowItems packet) ∧
        ContentAgrees library.validators arguments.protocol value packet) ↔
      ¬ (arguments.protocol ≤ 401 ∧
        ListsLongId arguments.protocol arguments.payload.content) := by
  have supported : mcProtocolSupported arguments.protocol = true := select_supported chosen
  have content := (accepts_containerContent supported).whole read
  have decode : selected.decode library.validators arguments.protocol =
      McTypedPacket.windowItems <$> library.validators.typedDecodeWindowItems arguments.protocol := by
    rw [SelectedPacket.decode, family]
    rfl
  have strict : (arguments.bodyReader error).mode = .strict := by
    change arguments.decodeMode.getD .vanillaCompat = .strict
    rw [moded]
    rfl
  constructor
  · rintro ⟨packet, accepted, -⟩ ⟨old, listed⟩
    obtain ⟨_, after, same, run, -, whole⟩ := mcDecodePacket_packet_iff.mp accepted
    rw [chosen] at same
    cases same
    rw [decode] at run
    obtain ⟨other, named, run⟩ := Program.map_eq_some run
    obtain ⟨D, decodes, refuses⟩ := windowItems_refuses library.validators supported
      old listed
    exact refuses other (decodes.payload strict run whole)
  · intro unlisted
    have short : ∀ item ∈ value.slots, item.Short arguments.protocol := by
      intro item slot old
      by_contra long
      exact unlisted ⟨old, listsLongId_of_content old content slot (not_le.mp long)⟩
    obtain ⟨packet, reads, agrees⟩ := reads_windowItems library.validators supported
      content short
    have before : (arguments.bodyReader error).Before (arguments.payload.content ++ []) := by
      rw [List.append_nil]
      exact bodyReader_before
    have ran : (selected.decode library.validators arguments.protocol).run
        (arguments.bodyReader error) = (some (.windowItems packet),
          (arguments.bodyReader error).advance arguments.payload.content.length) := by
      rw [decode]
      exact Prog.bind_some (reads _ [] strict before)
    have size := before.size_eq
    rw [List.append_nil] at size
    exact ⟨packet, mcDecodePacket_packet_iff.mpr ⟨selected, _, chosen, ran, rfl, size.symm⟩, agrees⟩

/-- Two slots on 776, one of them empty, and nothing carried. -/
theorem containerContent_refined_two :
    ∃ packet, (mcDecodePacket (plainLibrary ["window_items"] 120 (by decide))
        (playArguments 776 1 0 1 [3, 7, 2, 1, 5, 0, 0, 0, 0] 120) none).packet =
          some (.windowItems packet) ∧
      ContentAgrees (plainLibrary ["window_items"] 120 (by decide)).validators 776
        ⟨3, 7, [⟨5, 1⟩, ⟨0, 0⟩], ⟨0, 0⟩, true, true⟩ packet :=
  (containerContent_refined_iff (plainLibrary ["window_items"] 120 (by decide))
    (playArguments 776 1 0 1 [3, 7, 2, 1, 5, 0, 0, 0, 0] 120) none none
    ⟨.clientbound, "window_items", .windowItems⟩ _ rfl rfl rfl (by decide +kernel)).mpr
      fun listed => absurd listed.1 (by decide)

/-- One slot on 47, whose id is 32768. -/
theorem containerContent_unrefined_long :
    (readWhole (mcReaderContainerContent 47) [0, 0, 1, 128, 0, 1, 0, 0, 0] .strict none).1 =
        some ⟨0, -1, [⟨32768, 1⟩], ⟨0, 0⟩, false, false⟩ ∧
      (mcDecodePacket (plainLibrary ["window_items"] 120 (by decide))
        (playArguments 47 1 0 1 [0, 0, 1, 128, 0, 1, 0, 0, 0] 120) none).packet = none :=
  ⟨by decide +kernel, by decide +kernel⟩

end McProtocol
