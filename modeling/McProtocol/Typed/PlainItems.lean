import McProtocol.Typed.ItemGrammar
import McProtocol.Typed.SentPackets

/-! # Plain items

An item without components or NBT is written by one function and read by two: the reader of plain
items, and the reader of all items. Each has bounds of its own for the id.
-/

namespace McProtocol

/-- The end of a legacy item that carries nothing. -/
def noItemTagBytes (protocol : Int) : List UInt8 :=
  if protocol ≤ 5 then int16Bytes (-1) else [McNbtType.endTag.toByte]

/-- The layout of the release. -/
def plainItemBytes (protocol itemId count : Int) : List UInt8 :=
  if count = 0 then
    if protocol ≤ 401 then BigEndian.bytes 2 uint16Max else [0]
  else if protocol ≤ 401 then
    BigEndian.bytes 2 (toUnsigned 16 itemId) ++ ([toByte count] ++
      ((if protocol ≤ 340 then BigEndian.bytes 2 0 else []) ++ noItemTagBytes protocol))
  else if protocol < 766 then
    [1] ++ (encodeVarint itemId ++ ([toByte count] ++ [McNbtType.endTag.toByte]))
  else encodeVarint count ++ (encodeVarint itemId ++ ([0] ++ [0]))

/-- What the writer insists on. -/
structure IsPlainItem (protocol itemId count : Int) : Prop where
  supported : mcProtocolSupported protocol = true
  few : 0 ≤ count ∧ count ≤ 127
  named : count ≠ 0 → 0 < itemId
  short : protocol ≤ 401 → itemId ≤ uint16Max

theorem emits_noItemTag (protocol : Int) :
    Emits (noItemTag protocol) (· = noItemTagBytes protocol) := by
  unfold noItemTag noItemTagBytes
  split_ifs
  · exact .i16 _
  · exact .u8 _

/-- Between 340 and 402 only two releases are supported. -/
theorem supported_393_401 {protocol : Int} (supported : mcProtocolSupported protocol = true) :
    protocol = 393 ∨ protocol = 401 ↔ 340 < protocol ∧ protocol ≤ 401 :=
  of_supported (P := fun protocol => protocol = 393 ∨ protocol = 401 ↔ 340 < protocol ∧
    protocol ≤ 401) (by decide) supported

theorem emits_plainItem (protocol itemId count : Int) :
    Emits (mcPacketPlainItem protocol itemId count) fun bytes =>
      IsPlainItem protocol itemId count ∧ bytes = plainItemBytes protocol itemId count := by
  refine (Emits.checked (.either (.bind (.u16 _) (.when (.bind (.u8 _) (.bind (.u16 _)
      (emits_noItemTag protocol)))))
    (.either (.bind (.u16 _) (.when (.bind (.u8 _) (.u8 _))))
      (.either (.bind (.bool _) (.when (.bind (.varint _) (.bind (.u8 _) (.u8 _)))))
        (.bind (.varint _) (.when (.bind (.varint _) (.bind (.varint _) (.varint _))))))))).congr
          fun bytes => ?_
  have valid : ¬ (mcProtocolSupported protocol = false ∨ count < 0 ∨ 127 < count
      ∨ count ≠ 0 ∧ itemId ≤ 0 ∨ protocol ≤ 401 ∧ uint16Max < itemId) ↔
      IsPlainItem protocol itemId count := by
    constructor
    · intro accepted
      simp only [not_or, Bool.not_eq_false] at accepted
      obtain ⟨supported, low, high, positive, short⟩ := accepted
      exact ⟨supported, ⟨by omega, by omega⟩, by omega, by omega⟩
    · rintro ⟨supported, ⟨low, high⟩, positive, short⟩
      simp only [not_or, Bool.not_eq_false]
      exact ⟨supported, by omega, by omega, by omega, by omega⟩
  rw [valid]
  refine and_congr_right fun accepted => ?_
  have between := supported_393_401 accepted.supported
  by_cases none : count = 0
  · subst none
    by_cases first : protocol ≤ 340
    · have second : protocol ≤ 401 := by omega
      simp [plainItemBytes, first, second]
    · by_cases second : protocol = 393 ∨ protocol = 401
      · simp [plainItemBytes, first, second, (between.mp second).2]
      · have later : ¬ protocol ≤ 401 := by omega
        by_cases third : protocol < 766
        · simp [plainItemBytes, first, second, third, later]
        · simp [plainItemBytes, first, second, third, later, encodeVarint_zero]
  · by_cases first : protocol ≤ 340
    · have second : protocol ≤ 401 := by omega
      simp [plainItemBytes, first, second, none]
    · by_cases second : protocol = 393 ∨ protocol = 401
      · have tagged : ¬ protocol ≤ 5 := by omega
        simp [plainItemBytes, first, second, none, (between.mp second).2, noItemTagBytes, tagged]
      · have later : ¬ protocol ≤ 401 := by omega
        by_cases third : protocol < 766
        · simp [plainItemBytes, first, second, third, later, none]
        · simp [plainItemBytes, first, second, third, later, none, encodeVarint_zero]

/-- The tag at the end of a legacy item, which must say that nothing follows. -/
def readNoItemTag (protocol : Int) : ReadM Unit :=
  if protocol ≤ 5 then do
    let compressedNbtSize ← mcReaderI16
    require (compressedNbtSize = -1)
  else do
    let root ← mcReaderU8
    require (root = McNbtType.endTag.toByte)

/-- The layout up to 401. -/
def readShortPlainItem (protocol : Int) : DecodeM protocol (Int × Int) := do
  let encodedItem ← mcReaderU16
  if encodedItem = uint16Max then pure (0, 0)
  else .orInvalid do
    let encodedCount ← mcReaderU8
    require (encodedItem ≠ 0 ∧ encodedCount ≠ 0 ∧ encodedCount ≤ 127)
    .when (protocol ≤ 340) (do
      let damage ← mcReaderU16
      require (damage = 0))
    readNoItemTag protocol
    pure (encodedItem, encodedCount.toNat)

/-- The layout with a presence flag, which is one or zero in any mode. -/
def readFlaggedPlainItem (protocol : Int) : DecodeM protocol (Int × Int) := .orInvalid do
  let present ← mcReaderU8
  require (present ≤ 1)
  if present = 0 then pure (0, 0)
  else
    let encodedItem ← mcReaderVarint
    require (0 < encodedItem)
    let encodedCount ← mcReaderU8
    require (encodedCount ≠ 0 ∧ encodedCount ≤ 127)
    let root ← mcReaderU8
    require (root = McNbtType.endTag.toByte)
    pure (encodedItem, encodedCount.toNat)

/-- The layout with components, of which there must be none. -/
def readComponentPlainItem (protocol : Int) : DecodeM protocol (Int × Int) := .orInvalid do
  let encodedCount ← mcReaderVarint
  require (0 ≤ encodedCount ∧ encodedCount ≤ 127)
  if encodedCount = 0 then pure (0, 0)
  else
    let encodedItem ← mcReaderVarint
    require (0 < encodedItem)
    let added ← mcReaderVarint
    require (added = 0)
    let removed ← mcReaderVarint
    require (removed = 0)
    pure (encodedItem, encodedCount)

/-- The id and the count of an item without components or NBT. -/
def mcReaderPlainItem (protocol : Int) : DecodeM protocol (Int × Int) := do
  refuseFailed
  if mcProtocolSupported protocol = false then readerFailProtocol .unsupportedProtocol protocol
  else if protocol ≤ 401 then readShortPlainItem protocol
  else if protocol < 766 then readFlaggedPlainItem protocol
  else readComponentPlainItem protocol

/-- The bytes of no item. -/
def IsAbsentItem (mode : McDecodeMode) (protocol : Int) (bytes : List UInt8) : Prop :=
  if protocol ≤ 401 then bytes = BigEndian.bytes 2 uint16Max
  else if protocol < 766 then bytes = [0]
  else IsVarint mode 0 bytes

/-- The bytes of an id and a count, with no damage and nothing attached. -/
def IsPresentItem (mode : McDecodeMode) (protocol : Int) (item : Int × Int) (bytes : List UInt8) :
    Prop :=
  0 < item.1 ∧ (0 < item.2 ∧ item.2 ≤ 127) ∧
    if protocol ≤ 401 then
      item.1 < uint16Max ∧
        bytes = BigEndian.bytes 2 item.1.toNat ++ ([toByte item.2] ++
          ((if protocol ≤ 340 then BigEndian.bytes 2 0 else []) ++ noItemTagBytes protocol))
    else if protocol < 766 then
      ∃ id, IsVarint mode item.1 id ∧
        bytes = [1] ++ (id ++ ([toByte item.2] ++ [McNbtType.endTag.toByte]))
    else
      ∃ count id added removed, IsVarint mode item.2 count ∧ IsVarint mode item.1 id ∧
        IsVarint mode 0 added ∧ IsVarint mode 0 removed ∧ bytes = count ++ (id ++ (added ++ removed))

/-- A plain item as its id and its count, which are zero where there is none. -/
def IsPlainItemCode (mode : McDecodeMode) (protocol : Int) (item : Int × Int)
    (bytes : List UInt8) : Prop :=
  item = (0, 0) ∧ IsAbsentItem mode protocol bytes ∨ IsPresentItem mode protocol item bytes

section readers

variable {protocol itemId count : Int} {mode : McDecodeMode}

theorem accepts_noItemTag :
    Accepts mode (readNoItemTag protocol).run fun _ bytes => bytes = noItemTagBytes protocol := by
  unfold readNoItemTag noItemTagBytes
  split_ifs
  · refine (accepts_i16.bind fun _ => accepts_require).congr fun _ bytes => ?_
    constructor
    · rintro ⟨_, head, _, rfl, ⟨-, rfl⟩, rfl, rfl⟩
      exact List.append_nil _
    · rintro rfl
      exact ⟨-1, _, [], (List.append_nil _).symm, ⟨by norm_num, rfl⟩, rfl, rfl⟩
  · refine (accepts_u8.bind fun _ => accepts_require).congr fun _ bytes => ?_
    constructor
    · rintro ⟨_, _, _, rfl, rfl, rfl, rfl⟩
      rfl
    · rintro rfl
      exact ⟨_, _, [], rfl, rfl, rfl, rfl⟩

theorem accepts_noDamage :
    Accepts mode (Prog.when (protocol ≤ 340) (do
      let damage ← mcReaderU16
      require (damage = 0) : ReadM Unit).run) fun _ bytes =>
        bytes = if protocol ≤ 340 then BigEndian.bytes 2 0 else [] := by
  unfold Prog.when
  split_ifs
  · refine (accepts_u16.bind fun _ => accepts_require).congr fun _ bytes => ?_
    constructor
    · rintro ⟨_, _, _, rfl, ⟨-, rfl⟩, rfl, rfl⟩
      rfl
    · rintro rfl
      exact ⟨0, _, [], rfl, ⟨by norm_num, rfl⟩, rfl, rfl⟩
  · exact (Accepts.pure ()).congr fun _ bytes => ⟨And.right, fun empty => ⟨rfl, empty⟩⟩

/-- The count of an item, as a byte. -/
theorem count_toByte (few : 0 < count ∧ count ≤ 127) :
    toByte count ≠ 0 ∧ toByte count ≤ 127 ∧ ((toByte count).toNat : Int) = count := by
  have byte : ((toByte count).toNat : Int) = count := toNat_toByte (by omega) (by omega)
  refine ⟨fun zero => ?_, UInt8.le_iff_toNat_le.mpr ?_, byte⟩
  · rw [zero] at byte
    simp at byte
    omega
  · have small : (127 : UInt8).toNat = 127 := rfl
    omega

/-- The count of an item that is there, on the wire. -/
theorem itemCount_iff {encodedCount : UInt8} :
    encodedCount ≠ 0 ∧ encodedCount ≤ 127 ↔
      0 < (encodedCount.toNat : Int) ∧ (encodedCount.toNat : Int) ≤ 127 := by
  have zero : encodedCount ≠ 0 ↔ encodedCount.toNat ≠ 0 := by
    rw [ne_eq, ← UInt8.toNat_inj, UInt8.toNat_zero]
  have small : encodedCount ≤ 127 ↔ encodedCount.toNat ≤ 127 := UInt8.le_iff_toNat_le
  rw [zero, small]
  omega

theorem accepts_shortPlainItem (old : protocol ≤ 401) :
    Accepts mode (readShortPlainItem protocol).run (IsPlainItemCode mode protocol) := by
  refine Accepts.congr (accepts_u16.bind fun encodedItem => .either (.pure (0, 0)) (.rescue
    (accepts_u8.bind fun encodedCount => .guarded accepts_require (accepts_noDamage.bind fun _ =>
      accepts_noItemTag.bind fun _ => .pure ((encodedItem : Int), (encodedCount.toNat : Int)))) _))
        fun item bytes => ?_
  simp only [IsPlainItemCode, IsAbsentItem, IsPresentItem, if_pos old]
  constructor
  · rintro ⟨encodedItem, _, tail, rfl, ⟨small, rfl⟩, behind⟩
    by_cases none : encodedItem = uint16Max
    · rw [if_pos none] at behind
      obtain ⟨rfl, rfl⟩ := behind
      rw [none, List.append_nil]
      exact .inl ⟨rfl, rfl⟩
    · rw [if_neg none] at behind
      obtain ⟨encodedCount, _, _, rfl, rfl, ⟨named, few⟩, _, _, _, rfl, rfl, _, _, _, rfl, rfl, rfl,
        rfl⟩ := behind
      have byte : toByte (encodedCount.toNat : Int) = encodedCount := toByte_toNat encodedCount
      refine .inr ⟨by simp only []; omega, itemCount_iff.mp few, ?_, ?_⟩
      · simp only [uint16Max] at none ⊢
        omega
      · simp only [byte, Int.toNat_natCast, List.append_nil]
  · rintro (⟨rfl, rfl⟩ | ⟨named, few, short, rfl⟩)
    · exact ⟨uint16Max, _, [], (List.append_nil _).symm, ⟨by decide, rfl⟩, by simp⟩
    · obtain ⟨id, count⟩ := item
      simp only [uint16Max] at named few short
      obtain ⟨positive, low, same⟩ := count_toByte few
      have wire : (id.toNat : Int) = id := Int.toNat_of_nonneg (le_of_lt named)
      have other : ¬ id.toNat = uint16Max := by simp only [uint16Max]; omega
      refine ⟨id.toNat, _, _, rfl, ⟨by omega, rfl⟩, ?_⟩
      rw [if_neg other]
      refine ⟨toByte count, _, _, rfl, rfl, ⟨by omega, positive, low⟩, (), _, _, rfl, rfl, (), _, [],
        (List.append_nil _).symm, rfl, ?_, rfl⟩
      rw [wire, same]

theorem accepts_flaggedPlainItem (newer : ¬ protocol ≤ 401) (flagged : protocol < 766) :
    Accepts mode (readFlaggedPlainItem protocol).run (IsPlainItemCode mode protocol) := by
  refine Accepts.congr (Accepts.rescue (accepts_u8.bind fun present => .guarded accepts_require
    (.either (.pure (0, 0)) (accepts_varint.bind fun encodedItem => .guarded accepts_require
      (accepts_u8.bind fun encodedCount => .guarded accepts_require (accepts_u8.bind fun root =>
        .guarded accepts_require (.pure (encodedItem, (encodedCount.toNat : Int)))))))) _)
          fun item bytes => ?_
  simp only [IsPlainItemCode, IsAbsentItem, IsPresentItem, if_neg newer, if_pos flagged]
  constructor
  · rintro ⟨present, _, tail, rfl, rfl, low, behind⟩
    have flag : present = 0 ∨ present = 1 := by
      rcases Nat.le_one_iff_eq_zero_or_eq_one.mp (UInt8.le_iff_toNat_le.mp low) with zero | one
      · exact .inl (UInt8.toNat_inj.mp zero)
      · exact .inr (UInt8.toNat_inj.mp one)
    rcases flag with rfl | rfl
    · obtain ⟨rfl, rfl⟩ := behind
      exact .inl ⟨rfl, rfl⟩
    · obtain ⟨encodedItem, id, _, rfl, isVarint, named, encodedCount, _, _, rfl, rfl, few, root, _,
        _, rfl, rfl, rfl, rfl, rfl⟩ := behind
      refine .inr ⟨named, itemCount_iff.mp few, id, isVarint, ?_⟩
      simp only [toByte_toNat, List.append_nil]
  · rintro (⟨rfl, rfl⟩ | ⟨named, few, id, isVarint, rfl⟩)
    · exact ⟨0, [0], [], rfl, rfl, by decide, by simp⟩
    · obtain ⟨positive, low, same⟩ := count_toByte few
      refine ⟨1, [1], _, rfl, rfl, by decide, ?_⟩
      rw [if_neg (by decide)]
      refine ⟨item.1, id, _, rfl, isVarint, named, _, _, _, rfl, rfl, ⟨positive, low⟩, _, _, [],
        (List.append_nil _).symm, rfl, rfl, ?_, rfl⟩
      rw [same]

theorem accepts_componentPlainItem (newer : ¬ protocol < 766) :
    Accepts mode (readComponentPlainItem protocol).run (IsPlainItemCode mode protocol) := by
  have unflagged : ¬ protocol ≤ 401 := by omega
  refine Accepts.congr (Accepts.rescue (accepts_varint.bind fun encodedCount =>
    .guarded accepts_require (.either (.pure (0, 0)) (accepts_varint.bind fun encodedItem =>
      .guarded accepts_require (accepts_varint.bind fun added => .guarded accepts_require
        (accepts_varint.bind fun removed => .guarded accepts_require
          (.pure (encodedItem, encodedCount))))))) _) fun item bytes => ?_
  simp only [IsPlainItemCode, IsAbsentItem, IsPresentItem, if_neg unflagged, if_neg newer]
  constructor
  · rintro ⟨encodedCount, count, tail, rfl, counted, few, behind⟩
    by_cases none : encodedCount = 0
    · rw [if_pos none] at behind
      obtain ⟨rfl, rfl⟩ := behind
      rw [List.append_nil]
      exact .inl ⟨rfl, none ▸ counted⟩
    · rw [if_neg none] at behind
      obtain ⟨encodedItem, id, _, rfl, isVarint, named, _, added, _, rfl, adds, rfl, _, removed, _,
        rfl, removes, rfl, rfl, rfl⟩ := behind
      refine .inr ⟨named, ⟨by simp only []; omega, few.2⟩, count, id, added, removed, counted,
        isVarint, adds, removes, ?_⟩
      rw [List.append_nil]
  · rintro (⟨rfl, counted⟩ | ⟨named, few, count, id, added, removed, counted, isVarint, adds,
      removes, rfl⟩)
    · exact ⟨0, bytes, [], (List.append_nil _).symm, counted, by decide, by simp⟩
    · have there : ¬ item.2 = 0 := by omega
      refine ⟨item.2, count, _, rfl, counted, ⟨le_of_lt few.1, few.2⟩, ?_⟩
      rw [if_neg there]
      exact ⟨item.1, id, _, rfl, isVarint, named, 0, added, _, rfl, adds, rfl, 0, removed, [],
        (List.append_nil _).symm, removes, rfl, rfl, rfl⟩

/-- The reader of plain items reads them and nothing else. -/
theorem accepts_plainItem (supported : mcProtocolSupported protocol = true) :
    Accepts mode (mcReaderPlainItem protocol).run (IsPlainItemCode mode protocol) := by
  have known : ¬ mcProtocolSupported protocol = false := by simp [supported]
  have layout : Accepts mode (if mcProtocolSupported protocol = false then
      readerFailProtocol .unsupportedProtocol protocol
    else if protocol ≤ 401 then readShortPlainItem protocol
    else if protocol < 766 then readFlaggedPlainItem protocol
    else readComponentPlainItem protocol).run (IsPlainItemCode mode protocol) := by
    rw [if_neg known]
    by_cases old : protocol ≤ 401
    · rw [if_pos old]
      exact accepts_shortPlainItem old
    · rw [if_neg old]
      by_cases flagged : protocol < 766
      · rw [if_pos flagged]
        exact accepts_flaggedPlainItem old flagged
      · rw [if_neg flagged]
        exact accepts_componentPlainItem flagged
  refine Accepts.congr (accepts_refuseFailed.bind fun _ => layout) fun item bytes => ?_
  constructor
  · rintro ⟨_, _, _, rfl, rfl, code⟩
    exact code
  · exact fun code => ⟨(), [], bytes, rfl, rfl, code⟩

theorem reads_noItemTag : Reads mode (readNoItemTag protocol).run () (noItemTagBytes protocol) := by
  unfold readNoItemTag noItemTagBytes
  split_ifs
  · exact (Reads.i16 (by norm_num) (by norm_num)).thenPure (.require rfl)
  · exact (Reads.u8 _).thenPure (.require rfl)

/-- A short id on the wire. -/
theorem toUnsigned_short (natural : 0 ≤ itemId) (short : itemId ≤ uint16Max) :
    (toUnsigned 16 itemId : Int) = itemId := by
  simp only [uint16Max] at short
  simp only [toUnsigned]
  omega

theorem reads_shortPlainItem (named : 0 < itemId) (short : itemId < uint16Max)
    (few : 0 < count ∧ count ≤ 127) :
    Reads mode (readShortPlainItem protocol).run (itemId, count)
      (BigEndian.bytes 2 (toUnsigned 16 itemId) ++ ([toByte count] ++
        ((if protocol ≤ 340 then BigEndian.bytes 2 0 else []) ++ noItemTagBytes protocol))) := by
  obtain ⟨positive, small, same⟩ := count_toByte few
  have wire := toUnsigned_short (le_of_lt named) (le_of_lt short)
  have other : ¬ toUnsigned 16 itemId = uint16Max := by omega
  have undamaged : Reads mode (Prog.when (protocol ≤ 340) (do
      let damage ← mcReaderU16
      require (damage = 0) : ReadM Unit).run) ()
      (if protocol ≤ 340 then BigEndian.bytes 2 0 else []) := by
    unfold Prog.when
    split_ifs
    · exact (Reads.u16 (by norm_num)).thenPure (.require rfl)
    · exact .pure ()
  unfold readShortPlainItem
  refine .bind (.u16 (toUnsigned_lt 16 itemId)) ?_
  simp only [if_neg other]
  refine .rescue (.bind (.u8 _) (.after (.require ⟨by omega, positive, small⟩)
    (.bind undamaged (.thenPure reads_noItemTag (.returning ?_)))))
  rw [wire, same]

theorem reads_flaggedPlainItem (int : IsInt32 itemId) (named : 0 < itemId)
    (few : 0 < count ∧ count ≤ 127) :
    Reads mode (readFlaggedPlainItem protocol).run (itemId, count)
      ([1] ++ (encodeVarint itemId ++ ([toByte count] ++ [McNbtType.endTag.toByte]))) := by
  obtain ⟨positive, small, same⟩ := count_toByte few
  refine .rescue (.bind (.u8 1) (.after (.require (show (1 : UInt8) ≤ 1 by decide)) ?_))
  have ended : Reads mode (require (McNbtType.endTag.toByte = McNbtType.endTag.toByte)).run () [] :=
    .require rfl
  refine .bind (.varint int) (.after (.require named) (.bind (.u8 _)
    (.after (.require ⟨positive, small⟩) (.thenPure (.u8 _) (.after ended (.returning ?_))))))
  rw [same]

theorem reads_componentPlainItem (int : IsInt32 itemId) (named : 0 < itemId)
    (few : 0 < count ∧ count ≤ 127) :
    Reads mode (readComponentPlainItem protocol).run (itemId, count)
      (encodeVarint count ++ (encodeVarint itemId ++ (encodeVarint 0 ++ encodeVarint 0))) := by
  have counted : IsInt32 count := ⟨by omega, by omega⟩
  have other : ¬ count = 0 := by omega
  unfold readComponentPlainItem
  refine .rescue (.bind (.varint counted) (.after (.require ⟨by omega, few.2⟩) ?_))
  simp only [if_neg other]
  have none : Reads mode (require ((0 : Int) = 0)).run () [] := .require rfl
  exact .bind (.varint int) (.after (.require named) (.bind (.varint (by decide))
    (.after none (.thenPure (.varint (by decide)) (.after none (.pure _))))))

/-- No item, or the item that was written. -/
theorem reads_plainItem (written : IsPlainItem protocol itemId count) (int : IsInt32 itemId)
    (apart : protocol ≤ 401 → count ≠ 0 → itemId ≠ uint16Max) :
    Reads mode (mcReaderPlainItem protocol).run (if count = 0 then (0, 0) else (itemId, count))
      (plainItemBytes protocol itemId count) := by
  obtain ⟨supported, few, named, short⟩ := written
  have known : ¬ mcProtocolSupported protocol = false := by simp [supported]
  unfold mcReaderPlainItem plainItemBytes
  refine Reads.after .refuseFailed ?_
  simp only [if_neg known]
  by_cases none : count = 0
  · simp only [if_pos none]
    by_cases old : protocol ≤ 401
    · simp only [if_pos old]
      exact .thenPure (.u16 (by decide)) (.pure _)
    · simp only [if_neg old]
      by_cases flagged : protocol < 766
      · simp only [if_pos flagged]
        exact .rescue (.thenPure (.u8 0) (.after (.require (show (0 : UInt8) ≤ 1 by decide))
          (.pure _)))
      · simp only [if_neg flagged]
        exact .rescue (.thenPure ((Reads.varint (by decide)).of_eq encodeVarint_zero)
          (.after (.require (show (0 : Int) ≤ 0 ∧ (0 : Int) ≤ 127 by decide)) (.pure _)))
  · simp only [if_neg none]
    have some : 0 < count ∧ count ≤ 127 := by omega
    by_cases old : protocol ≤ 401
    · simp only [if_pos old]
      have below := short old
      have other := apart old none
      exact reads_shortPlainItem (named none) (by omega) some
    · simp only [if_neg old]
      by_cases flagged : protocol < 766
      · simp only [if_pos flagged]
        exact reads_flaggedPlainItem int (named none) some
      · simp only [if_neg flagged]
        rw [← encodeVarint_zero]
        exact reads_componentPlainItem int (named none) some

variable {validators : Validators}

/-- What the layout of a release reads is an item, with its bytes. -/
theorem Reads.itemStack {wireKind : McItemWireKind} {item : McItemStackView} {bytes : List UInt8}
    (supported : mcProtocolSupported protocol = true)
    (layout : Reads mode (if wireKind = .hashed then validators.readHashedItem protocol
      else if protocol ≤ 401 then validators.readShortItem protocol wireKind
      else if protocol < 766 then readFlaggedItem protocol wireKind
      else validators.readComponentItem protocol wireKind).run item bytes) :
    Reads mode (validators.mcReaderItemStack protocol wireKind).run { item with encoded := bytes }
      bytes := by
  have known : ¬ mcProtocolSupported protocol = false := by simp [supported]
  unfold Validators.mcReaderItemStack
  refine Reads.after .refuseFailed ?_
  simp only [if_neg known]
  exact layout.slicedWith (f := fun item encoded => { item with encoded := encoded })

/-- A plain item as an item stack. -/
def plainItemView (protocol itemId count : Int) : McItemStackView :=
  if count = 0 then .absent .full
  else { McItemStackView.absent .full with
    present := true
    itemId := itemId
    count := count
    nbt := if 5 < protocol ∧ protocol < 766 then [McNbtType.endTag.toByte] else [] }

/-- An empty document. -/
theorem reads_emptyNbt (namedRoot : Bool) :
    Reads mode (mcReaderNbt namedRoot).run [McNbtType.endTag.toByte] [McNbtType.endTag.toByte] :=
  (accepts_nbt namedRoot).complete ⟨rfl, .empty, rfl⟩

theorem reads_readShortItem (old : protocol ≤ 401) (named : 0 < itemId) (short : itemId ≤ int16Max)
    (few : 0 < count ∧ count ≤ 127) :
    Reads mode (validators.readShortItem protocol .full).run (plainItemView protocol itemId count)
      (BigEndian.bytes 2 (toUnsigned 16 itemId) ++ ([toByte count] ++
        ((if protocol ≤ 340 then BigEndian.bytes 2 0 else []) ++ noItemTagBytes protocol))) := by
  obtain ⟨positive, small, same⟩ := count_toByte few
  have there : ¬ count = 0 := by omega
  have wire := toUnsigned_short (le_of_lt named) (by simp only [int16Max, uint16Max] at *; omega)
  have other : ¬ toUnsigned 16 itemId = uint16Max := by simp only [int16Max, uint16Max] at *; omega
  have undamaged : Reads mode (if protocol ≤ 340 then mcReaderU16 else pure 0 :
      DecodeM protocol Nat).run 0 (if protocol ≤ 340 then BigEndian.bytes 2 0 else []) := by
    split_ifs
    · exact .u16 (by norm_num)
    · exact .pure 0
  have tag : Reads mode (if protocol ≤ 5 then validators.readGzipNbt protocol else do
      let nbt ← mcReaderNbt true
      pure (some nbt) : DecodeM protocol (Option (List UInt8))).run
      (if protocol ≤ 5 then none else some [McNbtType.endTag.toByte]) (noItemTagBytes protocol) := by
    unfold noItemTagBytes
    split_ifs
    · have absent : (-1 : Int) ≤ -1 ∧ (-1 : Int) ≠ 0 := by decide
      exact .thenPure (.i16 (by norm_num) (by norm_num))
        (.after (.typedRequire absent) (.pure _))
    · exact .thenPure (reads_emptyNbt true) (.pure _)
  unfold Validators.readShortItem
  refine .bind (.u16 (toUnsigned_lt 16 itemId)) ?_
  simp only [if_neg other]
  rw [← List.append_assoc]
  refine .bind (.rescue (.after (.require ⟨by omega, by omega⟩) (.bind (.u8 _)
    (.after (.require ⟨positive, small⟩) (.thenPure undamaged (.pure _)))))) ?_
  refine tag.thenPure (.returning ?_)
  have gzip : (decide (protocol ≤ 5) && (if protocol ≤ 5 then none
      else some [McNbtType.endTag.toByte]).isSome) = false := by
    by_cases first : protocol ≤ 5
    · simp [first]
    · simp [first]
  rw [gzip, wire, same, plainItemView, if_neg there]
  by_cases first : protocol ≤ 5
  · simp [first, not_lt.mpr first, McItemStackView.absent]
  · have named : 5 < protocol ∧ protocol < 766 := by omega
    simp [first, named, McItemStackView.absent]

theorem reads_readFlaggedItem (flagged : protocol < 766) (newer : 401 < protocol)
    (int : IsInt32 itemId) (named : 0 < itemId) (few : 0 < count ∧ count ≤ 127) :
    Reads mode (readFlaggedItem protocol .full).run (plainItemView protocol itemId count)
      ([1] ++ (encodeVarint itemId ++ ([toByte count] ++ [McNbtType.endTag.toByte]))) := by
  obtain ⟨positive, small, same⟩ := count_toByte few
  have there : ¬ count = 0 := by omega
  have tagged : 5 < protocol ∧ protocol < 766 := by omega
  unfold readFlaggedItem
  refine .bind (.bool true) ?_
  simp only [reduceCtorEq, if_false]
  refine .thenPure (.rescue (.bind (.varint int) (.bind (.u8 _) (.after
    (.require ⟨named, positive, small⟩) (.thenPure (reads_emptyNbt _) (.pure _)))))) (.returning ?_)
  rw [same, plainItemView, if_neg there, if_pos tagged]

theorem reads_noItem (supported : mcProtocolSupported protocol = true) :
    Reads mode (validators.mcReaderItemStack protocol .full).run
      { McItemStackView.absent .full with encoded := plainItemBytes protocol 0 0 }
      (plainItemBytes protocol 0 0) := by
  have full : ¬ McItemWireKind.full = .hashed := nofun
  have known : (0 : Int) ≤ 0 ∧ (0 : Int) ≤ 127 := by decide
  refine Reads.itemStack supported ?_
  simp only [if_neg full, plainItemBytes, if_true]
  by_cases old : protocol ≤ 401
  · simp only [if_pos old]
    exact .thenPure (.u16 (by decide)) (.pure _)
  · simp only [if_neg old]
    by_cases flagged : protocol < 766
    · simp only [if_pos flagged]
      exact .thenPure (.bool false) (.pure _)
    · simp only [if_neg flagged]
      have counted : Reads mode (if McItemWireKind.full = .full ∧ protocol = 766 then mcReaderI8
          else mcReaderVarint : DecodeM protocol Int).run 0 [0] := by
        split_ifs
        · exact .i8 (by norm_num) (by norm_num)
        · exact (Reads.varint (by decide)).of_eq encodeVarint_zero
      exact .thenPure counted (.after (.typedRequire known) (.pure _))

/-- No item, or the item that was written. -/
theorem reads_itemStack (written : IsPlainItem protocol itemId count) (int : IsInt32 itemId)
    (short : protocol ≤ 401 → count ≠ 0 → itemId ≤ int16Max) :
    Reads mode (validators.mcReaderItemStack protocol .full).run
      { plainItemView protocol itemId count with encoded := plainItemBytes protocol itemId count }
      (plainItemBytes protocol itemId count) := by
  obtain ⟨supported, few, named, -⟩ := written
  by_cases absent : count = 0
  · subst absent
    exact reads_noItem supported
  · refine Reads.itemStack supported ?_
    have full : ¬ McItemWireKind.full = .hashed := nofun
    have there : 0 < count ∧ count ≤ 127 := by omega
    simp only [if_neg full, plainItemBytes, if_neg absent]
    by_cases old : protocol ≤ 401
    · simp only [if_pos old]
      exact reads_readShortItem old (named absent) (short old absent) there
    · simp only [if_neg old]
      by_cases flagged : protocol < 766
      · simp only [if_pos flagged]
        exact reads_readFlaggedItem flagged (by omega) int (named absent) there
      · simp only [if_neg flagged]
        have adds : Reads mode (validators.readAdded protocol .full 0).run () [] := .pure ()
        have removes : Reads mode (validators.readRemoved protocol 0).run () [] :=
          @reads_readRemoved validators protocol mode [] nofun
        have patched := reads_readComponentItem there int (named absent) ⟨Int.le_refl 0, Int.le_refl 0⟩
          (by decide) adds removes
        have untagged : ¬ (5 < protocol ∧ protocol < 766) := by omega
        simp only [plainItemView, if_neg absent, if_neg untagged]
        rw [encodeVarint_zero] at patched
        exact patched

/-- A long id is the one of no item, or of none that is accepted. -/
theorem readShortItem_long {wireId : Nat} {wireKind : McItemWireKind} {reader after : McReader}
    {item : McItemStackView} {rest : List UInt8} (long : int16Max < wireId) (small : wireId < 2 ^ 16)
    (before : reader.Before (BigEndian.bytes 2 wireId ++ rest))
    (run : (validators.readShortItem protocol wireKind).run reader = (some item, after)) :
    wireId = uint16Max ∧ item.count = 0 := by
  have read := (Reads.u16 small : Reads reader.mode mcReaderU16.run _ _) reader rest rfl before
  have run := (Prog.bind_some read).symm.trans run
  by_cases none : wireId = uint16Max
  · simp only [if_pos none] at run
    cases run
    exact ⟨none, rfl⟩
  · simp only [if_neg none] at run
    obtain ⟨_, _, header, -⟩ := Prog.bind_eq_some run
    obtain ⟨_, _, passed, -⟩ := Prog.bind_eq_some (Prog.rescue_eq_some header)
    have inside := (require_eq_some passed).1
    omega

/-- A plain item with a long id, as an item stack. -/
theorem itemStack_long {reader after : McReader} {item : McItemStackView} {rest : List UInt8}
    (written : IsPlainItem protocol itemId count) (old : protocol ≤ 401) (there : count ≠ 0)
    (long : int16Max < itemId) (before : reader.Before (plainItemBytes protocol itemId count ++ rest))
    (run : (validators.mcReaderItemStack protocol .full).run reader = (some item, after)) :
    itemId = uint16Max ∧ item.count = 0 := by
  have below := written.short old
  have wire : (toUnsigned 16 itemId : Int) = itemId :=
    toUnsigned_short (le_of_lt (written.named there)) below
  have known : ¬ mcProtocolSupported protocol = false := by simp [written.supported]
  have full : ¬ McItemWireKind.full = .hashed := nofun
  unfold Validators.mcReaderItemStack at run
  have run := (Prog.bind_some (refuseFailed_clean before.clean)).symm.trans run
  simp only [if_neg known, if_neg full, if_pos old] at run
  obtain ⟨start, _, observed, run⟩ := Prog.bind_eq_some run
  cases observed
  obtain ⟨decoded, middle, read, run⟩ := Prog.bind_eq_some run
  obtain ⟨slice, _, sliced, returned⟩ := Prog.bind_eq_some run
  cases sliced
  cases returned
  rw [plainItemBytes, if_neg there, if_pos old, List.append_assoc] at before
  obtain ⟨last, none⟩ := readShortItem_long (by omega) (toUnsigned_lt 16 itemId) before read
  exact ⟨wire.symm.trans (congrArg Int.ofNat last), none⟩

end readers

/-- Both readers read what was written, all of it and nothing behind it: the same count, and the
same id unless there is no item. -/
structure PlainItemReadsBack (validators : Validators) (protocol itemId count : Int)
    (payload : List UInt8) : Prop where
  plain : Reads .strict (mcReaderPlainItem protocol).run
    (if count = 0 then (0, 0) else (itemId, count)) payload
  stack : ∃ item, Reads .strict (validators.mcReaderItemStack protocol .full).run item payload ∧
    item.count = count ∧ (0 < count → item.itemId = itemId) ∧ (item.present = true ↔ 0 < count)

section law

variable {validators : Validators} {protocol itemId count : Int}

theorem plainItemView_facts (few : 0 ≤ count) :
    (plainItemView protocol itemId count).count = count ∧
      (0 < count → (plainItemView protocol itemId count).itemId = itemId) ∧
      ((plainItemView protocol itemId count).present = true ↔ 0 < count) := by
  unfold plainItemView
  by_cases none : count = 0
  · simp [none, McItemStackView.absent]
  · have there : 0 < count := by omega
    simp [none, there]

/-- The reader of item stacks takes an id of 15 bits. -/
theorem not_readsBack (written : IsPlainItem protocol itemId count) (old : protocol ≤ 401)
    (there : count ≠ 0) (long : int16Max < itemId) :
    ¬ PlainItemReadsBack validators protocol itemId count (plainItemBytes protocol itemId count) := by
  rintro ⟨-, item, reads, counted, -, -⟩
  let reader := mcReaderInitMode (plainItemBytes protocol itemId count) .strict none
  have before : reader.Before (plainItemBytes protocol itemId count ++ []) := by
    rw [List.append_nil]
    exact mcReaderInitMode_before _ _ _
  have none := (itemStack_long written old there long before (reads reader [] rfl before)).2
  exact there (counted.symm.trans none)

/-- What the writer of plain items accepts is read back by both readers exactly where its id has
15 bits, in the releases that give it 16, or there is no item. -/
theorem plainItem_roundTrip (validators : Validators) (protocol itemId count : Int)
    (payload : List UInt8) (int : IsInt32 itemId)
    (builds : Builds (mcPacketPlainItem protocol itemId count) payload) :
    PlainItemReadsBack validators protocol itemId count payload ↔
      401 < protocol ∨ count = 0 ∨ itemId ≤ int16Max := by
  obtain ⟨written, rfl⟩ := (emits_plainItem protocol itemId count).payload builds
  constructor
  · intro readsBack
    by_contra narrow
    simp only [not_or, not_lt, not_le] at narrow
    exact not_readsBack written narrow.1 narrow.2.1 narrow.2.2 readsBack
  · intro within
    have short : protocol ≤ 401 → count ≠ 0 → itemId ≤ int16Max := by omega
    have apart : protocol ≤ 401 → count ≠ 0 → itemId ≠ uint16Max := by
      intro old there
      have below := short old there
      simp only [int16Max, uint16Max] at *
      omega
    exact ⟨reads_plainItem written int apart, _, reads_itemStack written int short,
      plainItemView_facts written.few.1⟩

/-- A stone block on 47. -/
theorem plainItem_roundTrip_stone :
    PlainItemReadsBack (plainLibrary [] 4 (by decide)).validators 47 1 1 [0, 1, 1, 0, 0, 0] :=
  (plainItem_roundTrip (plainLibrary [] 4 (by decide)).validators 47 1 1 [0, 1, 1, 0, 0, 0]
    (by decide) ⟨6, ⟨[0, 1, 1, 0, 0, 0], 6, false⟩, by decide +kernel, rfl⟩).mpr
      (.inr (.inr (by decide)))

/-- An id of 16 bits on 47. -/
theorem plainItem_roundTrip_wide :
    Builds (mcPacketPlainItem 47 40000 1) [156, 64, 1, 0, 0, 0] ∧
      ¬ PlainItemReadsBack (plainLibrary [] 4 (by decide)).validators 47 40000 1
        [156, 64, 1, 0, 0, 0] := by
  have bytes : plainItemBytes 47 40000 1 = [156, 64, 1, 0, 0, 0] := by decide +kernel
  have written : IsPlainItem 47 40000 1 := ⟨by decide, by decide, by decide, by decide⟩
  refine ⟨⟨6, ⟨[156, 64, 1, 0, 0, 0], 6, false⟩, by decide +kernel, rfl⟩, ?_⟩
  rw [← bytes]
  exact not_readsBack written (by decide) (by decide) (by decide)

end law

section stacked

variable {validators : Validators} {protocol : Int} {item : Int × Int} {bytes : List UInt8}

/-- What strict mode reads is what is written. -/
theorem IsPlainItemCode.strict (supported : mcProtocolSupported protocol = true)
    (code : IsPlainItemCode .strict protocol item bytes) :
    IsPlainItem protocol item.1 item.2 ∧ IsInt32 item.1 ∧
      bytes = plainItemBytes protocol item.1 item.2 := by
  have zero : encodeVarint 0 = [0] := encodeVarint_zero
  cases code with
  | inl absent =>
      obtain ⟨rfl, absent⟩ := absent
      refine ⟨⟨supported, by decide, fun there => absurd rfl there, fun _ => by decide⟩, by decide, ?_⟩
      unfold IsAbsentItem at absent
      unfold plainItemBytes
      simp only [if_true]
      split_ifs at absent ⊢
      · exact absent
      · exact absent
      · rw [absent.strict, zero]
  | inr present =>
      obtain ⟨named, few, layout⟩ := present
      have there : ¬ item.2 = 0 := by omega
      by_cases old : protocol ≤ 401
      · rw [if_pos old] at layout
        obtain ⟨short, rfl⟩ := layout
        have below : item.1 < 2 ^ 16 := by
          simp only [uint16Max] at short
          omega
        have wire : toUnsigned 16 item.1 = item.1.toNat := by
          simp only [toUnsigned]
          omega
        refine ⟨⟨supported, by omega, fun _ => named, fun _ => le_of_lt short⟩,
          ⟨by omega, by omega⟩, ?_⟩
        rw [plainItemBytes, if_neg there, if_pos old, wire]
      · rw [if_neg old] at layout
        by_cases flagged : protocol < 766
        · rw [if_pos flagged] at layout
          obtain ⟨id, isVarint, rfl⟩ := layout
          obtain ⟨int, rfl⟩ := isVarint_strict.mp isVarint
          refine ⟨⟨supported, by omega, fun _ => named, fun now => absurd now old⟩, int, ?_⟩
          rw [plainItemBytes, if_neg there, if_neg old, if_pos flagged]
        · rw [if_neg flagged] at layout
          obtain ⟨size, id, added, removed, isCount, isVarint, none, nothing, rfl⟩ := layout
          obtain ⟨int, rfl⟩ := isVarint_strict.mp isVarint
          refine ⟨⟨supported, by omega, fun _ => named, fun now => absurd now old⟩, int, ?_⟩
          rw [plainItemBytes, if_neg there, if_neg old, if_neg flagged, isCount.strict, none.strict,
            nothing.strict, zero]

/-- Without an item the id is zero too. -/
theorem IsPlainItemCode.unnamed {mode : McDecodeMode} (code : IsPlainItemCode mode protocol item bytes)
    (none : item.2 = 0) : item.1 = 0 := by
  cases code with
  | inl absent => rw [absent.1]
  | inr present =>
      have few := present.2.1
      omega

variable (validators) in
/-- A plain item is read as a stack of its id and its count, unless the id is a long one. -/
theorem IsPlainItemCode.reads_stack (supported : mcProtocolSupported protocol = true)
    (code : IsPlainItemCode .strict protocol item bytes)
    (short : protocol ≤ 401 → item.1 ≤ int16Max) :
    ∃ view, Reads .strict (validators.mcReaderItemStack protocol .full).run view bytes ∧
      (view.itemId, view.count) = item ∧ view.encoded = bytes := by
  obtain ⟨written, int, rfl⟩ := code.strict supported
  refine ⟨_, reads_itemStack written int fun old _ => short old, ?_, rfl⟩
  obtain ⟨counted, named, -⟩ : (plainItemView protocol item.1 item.2).count = item.2 ∧
      (0 < item.2 → (plainItemView protocol item.1 item.2).itemId = item.1) ∧ _ :=
    plainItemView_facts written.few.1
  refine Prod.ext ?_ counted
  by_cases none : item.2 = 0
  · rw [code.unnamed none, none]
    exact congrArg McItemStackView.itemId (if_pos rfl)
  · exact named (by have low := written.few.1; omega)

/-- One with a long id is not read as a stack. -/
theorem IsPlainItemCode.refuses_stack (supported : mcProtocolSupported protocol = true)
    (code : IsPlainItemCode .strict protocol item bytes) (old : protocol ≤ 401)
    (long : int16Max < item.1) {reader after : McReader} {view : McItemStackView}
    {rest : List UInt8} (before : reader.Before (bytes ++ rest)) :
    (validators.mcReaderItemStack protocol .full).run reader ≠ (some view, after) := by
  intro run
  obtain ⟨written, -, rfl⟩ := code.strict supported
  have there : item.2 ≠ 0 := by
    intro none
    rw [code.unnamed none] at long
    exact absurd long (by decide)
  have last := (itemStack_long written old there long before run).1
  cases code with
  | inl absent => exact there (congrArg Prod.snd absent.1)
  | inr present =>
      have layout := present.2.2
      rw [if_pos old] at layout
      have short := layout.1
      omega

end stacked

end McProtocol
