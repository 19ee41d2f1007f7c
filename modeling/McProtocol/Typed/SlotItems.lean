import McProtocol.Typed.PlayerActions

/-! # Items that a player puts in slots

A creative slot is filled, and a window clicked, with an item that has an id, a count and up to 340 a
damage. Up to 401 the builders take ids of 16 bits, of which the decoder takes 15.
-/

namespace McProtocol

variable {mode : McDecodeMode} {protocol : Int}

section slots

variable {validators : Validators} {itemId count damage : Int}

/-- A plain item that may be damaged, up to 340. -/
def slotItemBytes (protocol itemId count damage : Int) : List UInt8 :=
  if 340 < protocol ∨ count = 0 then plainItemBytes protocol itemId count
  else BigEndian.bytes 2 (toUnsigned 16 itemId) ++ ([toByte count] ++
    (BigEndian.bytes 2 (toUnsigned 16 damage) ++ noItemTagBytes protocol))

structure IsSlotItem (protocol itemId count damage : Int) : Prop where
  plain : IsPlainItem protocol itemId count
  wide : 0 ≤ damage ∧ damage ≤ uint16Max
  whole : 340 < protocol ∨ count = 0 → damage = 0

/-- The ids that the decoder takes: up to 401 the wire has a bit more. -/
def ShortId (protocol itemId count : Int) : Prop :=
  protocol ≤ 401 → count ≠ 0 → itemId ≤ int16Max

/-- What is seen of a plain item. -/
structure McItemStackView.Carries (item : McItemStackView) (itemId count damage : Int) : Prop where
  present : item.present = true ↔ 0 < count
  counted : item.count = count
  named : 0 < count → item.itemId = itemId
  worn : 0 < count → item.damage = damage
  bare : item.addedComponentCount = 0 ∧ item.removedComponentCount = 0

/-- A view of no item carries none, whatever its id and damage were. -/
theorem carries_nothing {item : McItemStackView} (absent : item.present = false)
    (none : item.count = 0)
    (bare : item.addedComponentCount = 0 ∧ item.removedComponentCount = 0) :
    item.Carries itemId 0 damage := by
  constructor
  · simp [absent]
  · exact none
  · intro there
    exact absurd there (lt_irrefl 0)
  · intro there
    exact absurd there (lt_irrefl 0)
  · exact bare

theorem carries_plainItemView (few : 0 ≤ count) (encoded : List UInt8) :
    { plainItemView protocol itemId count with encoded := encoded }.Carries itemId count 0 := by
  obtain ⟨counted, named, there⟩ := plainItemView_facts few
  refine ⟨there, counted, named, fun _ => ?_, ?_⟩
  · unfold plainItemView
    split_ifs <;> rfl
  · unfold plainItemView
    split_ifs <;> exact ⟨rfl, rfl⟩

theorem emits_setCreativeSlotDamage (slot : Int) :
    Emits (mcPacketSetCreativeSlotDamage protocol slot itemId count damage) fun bytes =>
      IsSlotItem protocol itemId count damage ∧
        bytes = int16Bytes slot ++ slotItemBytes protocol itemId count damage := by
  refine (Emits.checked (.bind (.i16 slot) (.either (emits_plainItem protocol itemId count)
    (.bind (.u16 _) (.when (.bind (.u8 _) (.bind (.u16 _) (emits_noItemTag protocol)))))))).congr
      fun bytes => ?_
  have checks : ¬ (mcProtocolSupported protocol = false ∨ count < 0 ∨ 127 < count
      ∨ damage < 0 ∨ uint16Max < damage ∨ count ≠ 0 ∧ itemId ≤ 0 ∨ count = 0 ∧ damage ≠ 0
      ∨ protocol ≤ 401 ∧ uint16Max < itemId ∨ 340 < protocol ∧ damage ≠ 0) ↔
        IsSlotItem protocol itemId count damage := by
    constructor
    · intro accepted
      simp only [not_or, Bool.not_eq_false] at accepted
      obtain ⟨supported, low, high, natural, wide, named, empty, short, late⟩ := accepted
      exact ⟨⟨supported, by omega, by omega, by omega⟩, by omega, by omega⟩
    · rintro ⟨⟨supported, few, named, short⟩, wide, whole⟩
      simp only [not_or, Bool.not_eq_false]
      exact ⟨supported, by omega, by omega, by omega, by omega, by omega, by omega, by omega,
        by omega⟩
  rw [checks]
  apply and_congr_right
  intro accepted
  unfold slotItemBytes
  by_cases late : 340 < protocol
  · simp only [late, true_or, if_true]
    constructor
    · rintro ⟨_, _, rfl, rfl, -, rfl⟩
      rfl
    · rintro rfl
      exact ⟨_, _, rfl, rfl, accepted.plain, rfl⟩
  · simp only [late, false_or]
    by_cases none : count = 0
    · have old : protocol ≤ 401 := by omega
      simp only [none, if_true, not_true, ne_eq, if_false, plainItemBytes, if_pos old]
      constructor
      · rintro ⟨_, _, rfl, rfl, _, _, rfl, rfl, rfl⟩
        rw [List.append_nil, int16Bytes]
      · rintro rfl
        exact ⟨_, _, rfl, rfl, _, _, (List.append_nil _).symm, rfl, rfl⟩
    · simp only [ne_eq, none, not_false_eq_true, if_true]
      constructor
      · rintro ⟨_, _, rfl, rfl, _, _, rfl, rfl, _, _, rfl, rfl, _, _, rfl, rfl, rfl⟩
        rfl
      · rintro rfl
        exact ⟨_, _, rfl, rfl, _, _, rfl, rfl, _, _, rfl, rfl, _, _, rfl, rfl, rfl⟩

theorem Reads.orInvalid {α : Type} {program : DecodeM protocol α} {a : α} {bytes : List UInt8}
    (reads : Reads mode program.run a bytes) : Reads mode program.orInvalid.run a bytes :=
  reads.rescue

/-- The legacy layout, with the damage. -/
theorem reads_damagedItem (old : protocol ≤ 340) (named : 0 < itemId) (short : itemId ≤ int16Max)
    (few : 0 < count ∧ count ≤ 127) (wide : 0 ≤ damage ∧ damage ≤ uint16Max) :
    ∃ item, Reads mode (validators.readShortItem protocol .full).run item
        (BigEndian.bytes 2 (toUnsigned 16 itemId) ++ ([toByte count] ++
          (BigEndian.bytes 2 (toUnsigned 16 damage) ++ noItemTagBytes protocol))) ∧
      ∀ encoded, { item with encoded := encoded }.Carries itemId count damage := by
  obtain ⟨positive, small, same⟩ := count_toByte few
  have wire : (toUnsigned 16 itemId : Int) = itemId :=
    toUnsigned_short (le_of_lt named) (by simp only [int16Max, uint16Max] at *; omega)
  have worn : (toUnsigned 16 damage : Int) = damage := toUnsigned_short wide.1 wide.2
  have other : ¬ toUnsigned 16 itemId = uint16Max := by simp only [int16Max, uint16Max] at *; omega
  obtain ⟨tag, tagged⟩ : ∃ tag, Reads mode (if protocol ≤ 5 then validators.readGzipNbt protocol
      else do
        let nbt ← mcReaderNbt true
        pure (some nbt) : DecodeM protocol (Option (List UInt8))).run tag
          (noItemTagBytes protocol) := by
    unfold noItemTagBytes
    split_ifs
    · have absent : (-1 : Int) ≤ -1 ∧ (-1 : Int) ≠ 0 := by decide
      exact ⟨none, .thenPure (.i16 (by norm_num) (by norm_num))
        (.after (.typedRequire absent) (.pure _))⟩
    · exact ⟨_, .thenPure (reads_emptyNbt true) (.pure _)⟩
  have header : Reads mode (DecodeM.orInvalid (do
      require (toUnsigned 16 itemId ≠ 0 ∧ toUnsigned 16 itemId ≤ int16Max)
      let count ← mcReaderU8
      require (count ≠ 0 ∧ count ≤ 127)
      let damage ← (if protocol ≤ 340 then mcReaderU16 else pure 0)
      pure (count, damage) : DecodeM protocol (UInt8 × Nat))).run
      (toByte count, toUnsigned 16 damage)
      ([toByte count] ++ BigEndian.bytes 2 (toUnsigned 16 damage)) := by
    simp only [if_pos old]
    apply Reads.rescue
    apply Reads.after (.require ⟨by omega, by omega⟩)
    apply Reads.bind (.u8 _)
    exact .after (.require ⟨positive, small⟩) (.thenPure (.u16 (toUnsigned_lt 16 damage)) (.pure _))
  let item : McItemStackView := { McItemStackView.absent .full with
    present := true
    nbtCompressed := decide (protocol ≤ 5) && tag.isSome
    itemId := toUnsigned 16 itemId
    count := (toByte count).toNat
    damage := toUnsigned 16 damage
    nbt := tag.getD [] }
  unfold Validators.readShortItem
  refine ⟨item, .bind (.u16 (toUnsigned_lt 16 itemId)) ?_, ?_⟩
  · simp only [if_neg other]
    rw [← List.append_assoc]
    exact .bind header (tagged.thenPure (.pure _))
  · intro encoded
    exact ⟨by simp [few.1, item], same, fun _ => wire, fun _ => worn, rfl, rfl⟩

/-- The layout with components, trusted or not. -/
theorem reads_bareItem {wireKind : McItemWireKind} (whole : wireKind ≠ .hashed)
    (late : 766 ≤ protocol) (written : IsPlainItem protocol itemId count) (int : IsInt32 itemId) :
    ∃ item, Reads mode (validators.mcReaderItemStack protocol wireKind).run item
        (plainItemBytes protocol itemId count) ∧ item.Carries itemId count 0 := by
  obtain ⟨supported, few, named, -⟩ := written
  have newer : ¬ protocol ≤ 401 := by omega
  have unflagged : ¬ protocol < 766 := by omega
  have layout {item : McItemStackView} {bytes : List UInt8}
      (reads : Reads mode (validators.readComponentItem protocol wireKind).run item bytes) :
      Reads mode (validators.mcReaderItemStack protocol wireKind).run
        { item with encoded := bytes } bytes := by
    apply Reads.itemStack supported
    simp only [if_neg whole, if_neg newer, if_neg unflagged]
    exact reads
  unfold plainItemBytes
  simp only [if_neg newer, if_neg unflagged]
  by_cases none : count = 0
  · have counted : Reads mode (if wireKind = .full ∧ protocol = 766 then mcReaderI8
        else mcReaderVarint : DecodeM protocol Int).run 0 [0] := by
      split_ifs
      · exact .i8 (by norm_num) (by norm_num)
      · exact (Reads.varint (by decide)).of_eq encodeVarint_zero
    have known : (0 : Int) ≤ 0 ∧ (0 : Int) ≤ 127 := by decide
    have absent : Reads mode (validators.readComponentItem protocol wireKind).run
        (.absent wireKind) [0] :=
      counted.thenPure (.after (.typedRequire known) (.pure _))
    simp only [if_pos none]
    refine ⟨_, layout absent, ?_⟩
    subst none
    exact carries_nothing rfl rfl ⟨rfl, rfl⟩
  · have some : 0 < count ∧ count ≤ 127 := by omega
    have adds : Reads mode (validators.readAdded protocol wireKind 0).run () [] := by
      have nothing : Reads mode (Prog.iterate (fun _ =>
          (validators.skipSlotComponent protocol 0).run) (0 : Int).toNat ()) () [] := .pure ()
      unfold Validators.readAdded
      split_ifs
      · exact .orInvalid (.pure ())
      · exact nothing
    have removes : Reads mode (validators.readRemoved protocol 0).run () [] :=
      @reads_readRemoved validators protocol mode [] (by simp)
    have patched := reads_readComponentItem some int (named none) ⟨Int.le_refl 0, Int.le_refl 0⟩
      (by decide) adds removes
    rw [encodeVarint_zero] at patched
    simp only [if_neg none]
    refine ⟨_, layout patched, ?_⟩
    exact ⟨by simp [patchedItem, some.1], rfl, fun _ => rfl, fun _ => rfl, rfl, rfl⟩

/-- How an item in a creative slot is encoded. -/
def creativeWireKind (protocol : Int) : McItemWireKind :=
  if 770 ≤ protocol then .untrusted else .full

theorem reads_slotItem {wireKind : McItemWireKind}
    (kind : wireKind = .full ∨ wireKind = creativeWireKind protocol)
    (written : IsSlotItem protocol itemId count damage) (int : IsInt32 itemId)
    (short : ShortId protocol itemId count) :
    ∃ item, Reads mode (validators.mcReaderItemStack protocol wireKind).run item
        (slotItemBytes protocol itemId count damage) ∧ item.Carries itemId count damage := by
  obtain ⟨plain, wide, whole⟩ := written
  have few := plain.few
  unfold slotItemBytes
  by_cases bare : 340 < protocol ∨ count = 0
  · rw [whole bare]
    simp only [if_pos bare]
    by_cases late : 766 ≤ protocol
    · apply reads_bareItem ?_ late plain int
      unfold creativeWireKind at kind
      split_ifs at kind <;> rcases kind with rfl | rfl <;> simp
    · have full : wireKind = .full := by
        unfold creativeWireKind at kind
        rw [if_neg (by omega), or_self] at kind
        exact kind
      subst full
      exact ⟨_, reads_itemStack plain int short, carries_plainItemView plain.few.1 _⟩
  · simp only [not_or, not_lt] at bare
    obtain ⟨old, some⟩ := bare
    have full : wireKind = .full := by
      unfold creativeWireKind at kind
      rw [if_neg (by omega), or_self] at kind
      exact kind
    subst full
    have early : ¬ (340 < protocol ∨ count = 0) := by omega
    have there : 0 < count ∧ count ≤ 127 := by omega
    obtain ⟨item, reads, carries⟩ :=
      (reads_damagedItem old (plain.named some) (short (by omega) some) there wide :
        ∃ item, Reads mode (validators.readShortItem protocol .full).run item _ ∧ _)
    have unhashed : ¬ McItemWireKind.full = .hashed := by simp
    simp only [if_neg early]
    refine ⟨_, Reads.itemStack plain.supported ?_, carries _⟩
    simp only [if_neg unhashed, if_pos (show protocol ≤ 401 by omega)]
    exact reads

/-- A long id is refused, or taken for no item: then nothing behind it is read. -/
theorem readShortItem_stops {wireId : Nat} {reader after : McReader} {item : McItemStackView}
    {rest : List UInt8} (long : int16Max < wireId) (small : wireId < 2 ^ 16)
    (before : reader.Before (BigEndian.bytes 2 wireId ++ rest))
    (run : (validators.readShortItem protocol .full).run reader = (some item, after)) :
    after = reader.advance 2 := by
  have last := (readShortItem_long long small before run).1
  have run := before.behind (.u16 small) run
  simp only [if_pos last] at run
  cases run
  rw [BigEndian.length_bytes]

/-- An item that is read to the end of the payload has an id that fits. -/
theorem slotItem_short {reader after : McReader} {item : McItemStackView}
    (written : IsSlotItem protocol itemId count damage)
    (before : reader.Before (slotItemBytes protocol itemId count damage))
    (run : (validators.mcReaderItemStack protocol .full).run reader = (some item, after))
    (whole : after.offset = after.size) : ShortId protocol itemId count := by
  intro old there
  by_contra long
  rw [not_le] at long
  obtain ⟨supported, few, named, short⟩ := written.plain
  have wire := toUnsigned_short (le_of_lt (named there)) (short old)
  obtain ⟨rest, split⟩ : ∃ rest, slotItemBytes protocol itemId count damage =
      BigEndian.bytes 2 (toUnsigned 16 itemId) ++ (toByte count :: rest) := by
    unfold slotItemBytes plainItemBytes
    simp only [if_neg there, if_pos old]
    by_cases bare : 340 < protocol ∨ count = 0
    · rw [if_pos bare]
      exact ⟨_, rfl⟩
    · rw [if_neg bare]
      exact ⟨_, rfl⟩
  rw [split] at before
  have known : ¬ mcProtocolSupported protocol = false := by simp [supported]
  have unhashed : ¬ McItemWireKind.full = .hashed := by simp
  unfold Validators.mcReaderItemStack at run
  have run := (Prog.bind_some (refuseFailed_clean before.clean)).symm.trans run
  simp only [if_neg known, if_neg unhashed, if_pos old] at run
  obtain ⟨start, _, observed, run⟩ := Prog.bind_eq_some run
  cases observed
  obtain ⟨decoded, middle, read, run⟩ := Prog.bind_eq_some run
  obtain ⟨slice, _, sliced, returned⟩ := Prog.bind_eq_some run
  cases sliced
  cases returned
  have stops := readShortItem_stops (by omega) (toUnsigned_lt 16 itemId) before read
  have size := (before.advance).size_eq
  rw [BigEndian.length_bytes, ← stops] at size
  simp only [List.length_cons] at size
  omega

theorem typedRequire_passed {condition : Prop} [Decidable condition] {reader after : McReader}
    {u : Unit} (passed : (typedRequire condition).run reader = (some u, after)) :
    condition ∧ after = reader := by
  have checked : Prog.check (fun _ => ¬ condition) (fun reader : McReader =>
    reader.fail .invalidPacketBody (reader.offset - 0)) reader = (some u, after) := passed
  obtain ⟨good, unmoved⟩ := Prog.check_eq_some checked
  exact ⟨not_not.mp good, unmoved⟩

variable {slot : Int}

theorem reads_setCreativeSlot (written : IsSlotItem protocol itemId count damage)
    (int : IsInt32 itemId) (short : ShortId protocol itemId count)
    (inside : -1 ≤ slot ∧ slot ≤ 53) :
    ∃ item, Reads mode (validators.typedDecodeSetCreativeSlot protocol).run ⟨slot, item⟩
        (int16Bytes slot ++ slotItemBytes protocol itemId count damage) ∧
      item.Carries itemId count damage := by
  obtain ⟨item, reads, carries⟩ :=
    (reads_slotItem (.inr rfl) written int short : ∃ item, Reads mode
      (validators.mcReaderItemStack protocol (creativeWireKind protocol)).run item _ ∧ _)
  refine ⟨item, ?_, carries⟩
  apply Reads.bind (.i16 (by omega) (by omega))
  exact reads.thenPure (.after (.typedRequire inside) (.pure _))

theorem setCreativeSlot_decodable {reader after : McReader} {packet : McSetCreativeSlotPacket}
    (written : IsSlotItem protocol itemId count damage) (word : -2 ^ 15 ≤ slot ∧ slot < 2 ^ 15)
    (before : reader.Before (int16Bytes slot ++ slotItemBytes protocol itemId count damage))
    (run : (validators.typedDecodeSetCreativeSlot protocol).run reader = (some packet, after))
    (whole : after.offset = after.size) :
    ShortId protocol itemId count ∧ -1 ≤ slot ∧ slot ≤ 53 := by
  have run := before.behind (.i16 word.1 word.2) run
  obtain ⟨item, middle, stacked, run⟩ := Prog.bind_eq_some run
  obtain ⟨_, last, passed, returned⟩ := Prog.bind_eq_some run
  obtain ⟨inside, rfl⟩ := typedRequire_passed passed
  cases returned
  refine ⟨?_, inside⟩
  intro old there
  have full : ¬ 770 ≤ protocol := by omega
  simp only [if_neg full] at stacked
  exact slotItem_short written before.advance stacked whole old there

section click

variable {value : McWindowClick}

/-- The click, without what it carries. -/
def McWindowClick.empty (value : McWindowClick) : McEmptyWindowClick where
  windowId := value.windowId
  stateId := value.stateId
  slot := value.slot
  mouseButton := value.mouseButton
  actionNumber := value.actionNumber
  mode := value.mode

/-- What the builder insists on: an item up to 754, none later. -/
structure McWindowClick.Accepted (value : McWindowClick) (protocol : Int) : Prop where
  empty : value.empty.Accepted protocol
  carried : protocol ≤ 754 → IsPlainItem protocol value.clickedItemId value.clickedItemCount
  bare : 755 ≤ protocol → value.clickedItemCount = 0

def carriedTailBytes (protocol : Int) (value : McWindowClick) : List UInt8 :=
  if protocol ≤ 754 then
    int16Bytes value.actionNumber ++ ([toByte value.mode] ++
      plainItemBytes protocol value.clickedItemId value.clickedItemCount)
  else clickTailBytes protocol value.empty

def carriedClickBytes (protocol : Int) (value : McWindowClick) : List UInt8 :=
  windowIdBytes protocol value.windowId ++
    ((if 756 ≤ protocol then encodeVarint value.stateId else []) ++
      (int16Bytes value.slot ++ ([toByte value.mouseButton] ++ carriedTailBytes protocol value)))

theorem emits_carriedTail (supported : mcProtocolSupported protocol = true) :
    Emits (if protocol ≤ 754 then do
        mcPacketI16 value.actionNumber
        mcPacketI8 value.mode
        mcPacketPlainItem protocol value.clickedItemId value.clickedItemCount
      else do
        (if protocol = 755 then mcPacketI8 value.mode else mcPacketVarint value.mode)
        mcPacketVarint 0
        if protocol < 770 then mcPacketPlainItem protocol 0 0 else mcPacketBool false) fun bytes =>
      (protocol ≤ 754 → IsPlainItem protocol value.clickedItemId value.clickedItemCount) ∧
        bytes = carriedTailBytes protocol value := by
  unfold carriedTailBytes
  by_cases old : protocol ≤ 754
  · simp only [if_pos old]
    refine (Emits.bind (.i16 _) (.bind (.i8 _) (emits_plainItem protocol _ _))).congr
      fun bytes => ?_
    constructor
    · rintro ⟨_, _, rfl, rfl, _, _, rfl, rfl, plain, rfl⟩
      exact ⟨fun _ => plain, rfl⟩
    · rintro ⟨plain, rfl⟩
      exact ⟨_, _, rfl, rfl, _, _, rfl, rfl, plain old, rfl⟩
  · have tail := @emits_clickTail protocol value.empty supported
    simp only [if_neg old] at tail ⊢
    exact tail.congr fun bytes => (and_iff_right fun now => absurd now old).symm

theorem emits_windowClick :
    Emits (mcPacketWindowClick protocol value) fun bytes =>
      value.Accepted protocol ∧ bytes = carriedClickBytes protocol value := by
  refine (Emits.checkedThen fun good => .bind (emits_windowId protocol value.windowId)
    (.bind (.when (.varint _)) (.bind (.i16 _) (.bind (.i8 _) (emits_carriedTail ?_))))).congr
      fun bytes => ?_
  · simp only [not_or, Bool.not_eq_false] at good
    exact good.1
  · have gap (supported : mcProtocolSupported protocol = true) : protocol ≤ 5 ∨ 47 ≤ protocol :=
      of_supported (P := fun protocol => protocol ≤ 5 ∨ 47 ≤ protocol) (by decide) supported
    constructor
    · rintro ⟨good, _, _, rfl, rfl, state, _, rfl, wrote, _, _, rfl, rfl, _, _, rfl, rfl, carried,
        rfl⟩
      simp only [not_or, Bool.not_eq_false] at good
      obtain ⟨supported, stateId, low, high, -, -, -, bare, legacy, byte, late⟩ := good
      have split := gap supported
      have same : state = if 756 ≤ protocol then encodeVarint value.stateId else [] := by
        split_ifs at wrote ⊢ <;> exact wrote
      refine ⟨⟨⟨supported, ?_, ⟨?_, ?_⟩, ?_⟩, carried, by omega⟩, ?_⟩
      · exact not_lt.mp stateId
      · exact not_lt.mp low
      · exact not_lt.mp high
      · change IsWindowId protocol value.windowId
        unfold IsWindowId
        split_ifs <;> omega
      · rw [same]
        rfl
    · rintro ⟨⟨⟨supported, stateId, mode, windowId⟩, carried, bare⟩, rfl⟩
      change IsWindowId protocol value.windowId at windowId
      change 0 ≤ value.stateId at stateId
      change 0 ≤ value.mode ∧ value.mode ≤ 6 at mode
      have few : protocol ≤ 754 → (0 ≤ value.clickedItemCount ∧ value.clickedItemCount ≤ 127) ∧
          (value.clickedItemCount ≠ 0 → 0 < value.clickedItemId) :=
        fun old => ⟨(carried old).few, (carried old).named⟩
      refine ⟨?_, _, _, rfl, rfl, _, _, rfl, ?_, _, _, rfl, rfl, _, _, rfl, rfl, carried, rfl⟩
      · unfold IsWindowId at windowId
        simp only [not_or, Bool.not_eq_false]
        refine ⟨supported, by omega, by omega, by omega, by omega, by omega, by omega, by omega, ?_⟩
        split_ifs at windowId <;> omega
      · split_ifs <;> rfl

theorem slotItemBytes_whole :
    slotItemBytes protocol itemId count 0 = plainItemBytes protocol itemId count := by
  unfold slotItemBytes
  by_cases bare : 340 < protocol ∨ count = 0
  · rw [if_pos bare]
  · rw [not_or, not_lt] at bare
    have none : ¬ (340 < protocol ∨ count = 0) := by omega
    rw [if_neg none, plainItemBytes, if_neg bare.2, if_pos (by omega), if_pos bare.1]
    rfl

theorem IsPlainItem.slotItem (plain : IsPlainItem protocol itemId count) :
    IsSlotItem protocol itemId count 0 :=
  ⟨plain, by decide, fun _ => rfl⟩

theorem reads_windowClick_carrying (accepted : value.Accepted protocol)
    (representable : value.empty.Representable) (int : IsInt32 value.clickedItemId)
    (short : ShortId protocol value.clickedItemId value.clickedItemCount) :
    ∃ item, Reads mode (validators.typedDecodeWindowClick protocol).run
        { emptyClick protocol value.empty with carriedItem := item }
        (carriedClickBytes protocol value) ∧
      item.Carries value.clickedItemId value.clickedItemCount 0 := by
  have few : 0 ≤ value.mode ∧ value.mode ≤ 6 := accepted.empty.mode
  obtain ⟨item, tail, carries⟩ : ∃ item, Reads mode (if protocol ≤ 754
        then validators.readOldClick protocol else validators.readClick protocol).run
      ⟨if protocol ≤ 754 then value.actionNumber else 0, value.mode, 0, [], item⟩
      (carriedTailBytes protocol value) ∧
        item.Carries value.clickedItemId value.clickedItemCount 0 := by
    by_cases old : protocol ≤ 754
    · have plain := accepted.carried old
      obtain ⟨item, reads, carries⟩ := (reads_slotItem (.inl rfl) plain.slotItem int short :
        ∃ item, Reads mode (validators.mcReaderItemStack protocol .full).run item _ ∧ _)
      rw [slotItemBytes_whole] at reads
      refine ⟨item, ?_, carries⟩
      unfold carriedTailBytes
      simp only [if_pos old]
      apply Reads.bind (.i16 representable.actionNumber.1 representable.actionNumber.2)
      apply Reads.bind (.i8 (by omega) (by omega))
      exact reads.thenPure (.pure _)
    · have tail : Reads mode (if protocol ≤ 754 then validators.readOldClick protocol
          else validators.readClick protocol).run _ _ :=
        reads_clickTail accepted.empty.supported representable few
      refine ⟨emptyHand protocol, ?_, ?_⟩
      · unfold carriedTailBytes
        simp only [if_neg old] at tail ⊢
        exact tail
      · rw [accepted.bare (by omega)]
        exact carries_nothing rfl rfl ⟨rfl, rfl⟩
  have known : IsWindowId protocol value.windowId := accepted.empty.windowId
  have low : (if protocol ≤ 5 then -2 ^ 7 else 0) ≤ value.windowId := by
    unfold IsWindowId at known
    split_ifs at known ⊢ <;> omega
  refine ⟨item, ?_, carries⟩
  apply Reads.bind (reads_windowId representable.windowId known)
  apply Reads.bind (reads_stateId representable.stateId accepted.empty.stateId)
  apply Reads.bind (.i16 representable.slot.1 representable.slot.2)
  apply Reads.bind (.i8 representable.mouseButton.1 representable.mouseButton.2)
  exact tail.thenPure (.after (.typedRequire ⟨few.1, few.2, low⟩) (.pure _))

theorem windowClick_decodable {reader after : McReader} {packet : McWindowClickPacket}
    (accepted : value.Accepted protocol) (representable : value.empty.Representable)
    (before : reader.Before (carriedClickBytes protocol value))
    (run : (validators.typedDecodeWindowClick protocol).run reader = (some packet, after))
    (whole : after.offset = after.size) :
    ShortId protocol value.clickedItemId value.clickedItemCount := by
  intro early there
  have old : protocol ≤ 754 := by omega
  have few : 0 ≤ value.mode ∧ value.mode ≤ 6 := accepted.empty.mode
  have windowed : Reads reader.mode (typedReadContainerId protocol (decide (protocol ≤ 5))).run
      value.windowId _ := reads_windowId representable.windowId accepted.empty.windowId
  have stated : Reads reader.mode (readStateId protocol).run _ _ :=
    reads_stateId representable.stateId accepted.empty.stateId
  have slotted : Reads reader.mode mcReaderI16.run value.slot _ :=
    .i16 representable.slot.1 representable.slot.2
  have pressed : Reads reader.mode mcReaderI8.run value.mouseButton _ :=
    .i8 representable.mouseButton.1 representable.mouseButton.2
  have numbered : Reads reader.mode mcReaderI16.run value.actionNumber _ :=
    .i16 representable.actionNumber.1 representable.actionNumber.2
  have moded : Reads reader.mode mcReaderI8.run value.mode _ := .i8 (by omega) (by omega)
  unfold carriedClickBytes carriedTailBytes at before
  rw [if_pos old] at before
  have run := before.behind windowed run
  have before := before.advance
  have run := before.behind stated run
  have before := before.advance
  have run := before.behind slotted run
  have before := before.advance
  have run := before.behind pressed run
  have before := before.advance
  obtain ⟨tail, middle, carried, run⟩ := Prog.bind_eq_some run
  obtain ⟨_, last, passed, returned⟩ := Prog.bind_eq_some run
  obtain ⟨-, rfl⟩ := typedRequire_passed passed
  cases returned
  simp only [if_pos old] at carried
  have carried := before.behind numbered carried
  have before := before.advance
  have carried := before.behind moded carried
  have before := before.advance
  obtain ⟨item, final, stacked, returned⟩ := Prog.bind_eq_some carried
  cases returned
  rw [← slotItemBytes_whole] at before
  exact slotItem_short (accepted.carried old).slotItem before stacked whole early there

end click

end slots

end McProtocol
