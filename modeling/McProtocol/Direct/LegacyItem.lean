import McProtocol.Typed.GzipNbt
import McProtocol.Typed.Player

/-! # Two decoders of one legacy item

Up to 47 an item is read by `mc_reader_item_stack`, and by `typed_read_legacy_item` in the packets
that report the held one. They were written apart: of compressed data the one looks at the header,
the other inflates it.
-/

namespace McProtocol

/-- No item, or its id, count and damage in front of its data, of which `N` tells the bytes. -/
inductive IsLegacyItem (N : Buffer × Bool → List UInt8 → Prop) : LegacyItem → List UInt8 → Prop where
  | absent : IsLegacyItem N ⟨0, 0, 0, .null 0, false⟩ (BigEndian.bytes 2 uint16Max)
  | stack {id damage : Nat} {count : UInt8} {nbt : Buffer × Bool} {bytes : List UInt8}
      (present : id ≠ 0) (small : id ≤ int16Max) (some : count ≠ 0) (few : count ≤ 127)
      (short : damage < 2 ^ 16) (data : N nbt bytes) :
      IsLegacyItem N ⟨id, count.toNat, damage, nbt.1, nbt.2⟩
        (BigEndian.bytes 2 id ++ (count :: (BigEndian.bytes 2 damage ++ bytes)))

/-- The data of an item: nothing or a sized gzip member up to 5, a document later. -/
inductive IsLegacyNbt (protocol : Int) : Buffer × Bool → List UInt8 → Prop where
  | none (old : protocol ≤ 5) : IsLegacyNbt protocol (.null 0, false) (int16Bytes (-1))
  | gzip {nbt : List UInt8} (old : protocol ≤ 5) (headed : 10 ≤ nbt.length)
      (small : nbt.length ≤ int16Max) (magic : [0x1f, 0x8b, 8] <+: nbt) :
      IsLegacyNbt protocol (.bytes nbt, true) (int16Bytes nbt.length ++ nbt)
  | plain (root : NbtRoot true) (later : 5 < protocol) :
      IsLegacyNbt protocol (.bytes root.encode, false) root.encode

section accepts

variable {mode : McDecodeMode} {protocol : Int}

/-- Data of a size that looks like a gzip member. -/
theorem accepts_headedMember (size : Int) :
    Accepts mode (do
      require (0 < size)
      let nbt ← mcReaderBytes size.toNat
      require (10 ≤ nbt.length ∧ [0x1f, 0x8b, 8] <+: nbt)
      pure (.bytes nbt, true) : ReadM (Buffer × Bool)).run fun nbt bytes =>
        nbt = (.bytes bytes, true) ∧ (bytes.length : Int) = size ∧ 10 ≤ bytes.length ∧
          [0x1f, 0x8b, 8] <+: bytes := by
  refine Accepts.congr (.guarded accepts_require (.bind (accepts_bytes _) fun nbt =>
    .guarded accepts_require (.pure _))) fun nbt bytes => ⟨?_, ?_⟩
  · rintro ⟨positive, nbt, _, _, rfl, ⟨length, rfl⟩, ⟨headed, magic⟩, rfl, rfl⟩
    rw [List.append_nil]
    exact ⟨rfl, by omega, headed, magic⟩
  · rintro ⟨rfl, length, headed, magic⟩
    exact ⟨by omega, bytes, bytes, [], (List.append_nil _).symm, ⟨by omega, rfl⟩, ⟨headed, magic⟩,
      rfl, rfl⟩

theorem accepts_readLegacyNbt :
    Accepts mode (readLegacyNbt protocol).run (IsLegacyNbt protocol) := by
  unfold readLegacyNbt
  by_cases old : protocol ≤ 5
  · simp only [if_pos old]
    refine Accepts.congr (.bind accepts_i16 fun size => .either (.pure _)
      (accepts_orReject (accepts_headedMember size) 0)) fun nbt bytes => ⟨?_, ?_⟩
    · rintro ⟨size, _, rest, rfl, ⟨bounds, rfl⟩, body⟩
      by_cases none : size = -1
      · rw [if_pos none] at body
        obtain ⟨rfl, rfl⟩ := body
        rw [none, List.append_nil]
        exact .none old
      · rw [if_neg none] at body
        obtain ⟨rfl, rfl, headed, magic⟩ := body
        exact .gzip old headed (by rw [int16Max]; omega) magic
    · intro isNbt
      cases isNbt with
      | none old => exact ⟨-1, _, [], (List.append_nil _).symm, ⟨by omega, rfl⟩, rfl, rfl⟩
      | @gzip nbt old headed small magic =>
          rw [int16Max] at small
          refine ⟨nbt.length, _, nbt, rfl, ⟨by omega, rfl⟩, ?_⟩
          rw [if_neg (by omega)]
          exact ⟨rfl, rfl, headed, magic⟩
      | plain root later => omega
  · simp only [if_neg old]
    refine Accepts.congr (.bind (accepts_nbt true) fun nbt => .pure _) fun nbt bytes => ⟨?_, ?_⟩
    · rintro ⟨_, _, _, rfl, ⟨rfl, root, rfl⟩, rfl, rfl⟩
      rw [List.append_nil]
      exact .plain root (by omega)
    · intro isNbt
      cases isNbt with
      | none now => exact absurd now old
      | gzip now => exact absurd now old
      | plain root later =>
          exact ⟨_, _, [], (List.append_nil _).symm, ⟨rfl, root, rfl⟩, rfl, rfl⟩

/-- The front of an item, up to its data. -/
theorem accepts_legacyFront {program : Prog McReader Nat} {wireId : Nat}
    (damages : Accepts mode program fun damage bytes =>
      damage < 2 ^ 16 ∧ bytes = BigEndian.bytes 2 damage) :
    Accepts mode (do
      (require (wireId ≠ 0 ∧ wireId ≤ int16Max)).run
      let count ← mcReaderU8.run
      (require (count ≠ 0 ∧ count ≤ 127)).run
      let damage ← program
      pure (count, damage) : Prog McReader (UInt8 × Nat)) fun front bytes =>
        (wireId ≠ 0 ∧ wireId ≤ int16Max) ∧ (front.1 ≠ 0 ∧ front.1 ≤ 127) ∧ front.2 < 2 ^ 16 ∧
          bytes = front.1 :: BigEndian.bytes 2 front.2 := by
  refine Accepts.congr (.guarded accepts_require (.bind accepts_u8 fun count =>
    .guarded accepts_require (.bind damages fun damage => .pure _))) fun front bytes => ⟨?_, ?_⟩
  · rintro ⟨id, count, _, _, rfl, rfl, some, damage, _, _, rfl, ⟨short, rfl⟩, rfl, rfl⟩
    exact ⟨id, some, short, by simp⟩
  · rintro ⟨id, some, short, rfl⟩
    exact ⟨id, front.1, _, _, rfl, rfl, some, front.2, _, [], (List.append_nil _).symm,
      ⟨short, rfl⟩, rfl, rfl⟩

theorem accepts_typedReadLegacyItem :
    Accepts mode (typedReadLegacyItem protocol).run (IsLegacyItem (IsLegacyNbt protocol)) := by
  refine Accepts.congr (.bind accepts_u16 fun wireId => .either (.pure _)
    (.bind (accepts_orReject (accepts_legacyFront accepts_u16) 0) fun front =>
      .bind accepts_readLegacyNbt fun nbt => .pure _)) fun item bytes => ⟨?_, ?_⟩
  · rintro ⟨wireId, _, _, rfl, ⟨-, rfl⟩, body⟩
    by_cases absent : wireId = uint16Max
    · rw [if_pos absent] at body
      obtain ⟨rfl, rfl⟩ := body
      rw [absent, List.append_nil]
      exact .absent
    · rw [if_neg absent] at body
      obtain ⟨⟨count, damage⟩, _, _, rfl, ⟨⟨present, small⟩, ⟨some, few⟩, short, rfl⟩, nbt, data, _,
        rfl, isNbt, rfl, rfl⟩ := body
      rw [List.append_nil]
      exact .stack present small some few short isNbt
  · intro isItem
    cases isItem with
    | absent =>
        exact ⟨uint16Max, _, [], (List.append_nil _).symm, ⟨by decide, rfl⟩, rfl, rfl⟩
    | @stack id damage count nbt data present small some few short isNbt =>
        rw [int16Max] at small
        refine ⟨id, _, _, rfl, ⟨by omega, rfl⟩, ?_⟩
        rw [if_neg (by rw [uint16Max]; omega)]
        exact ⟨(count, damage), _, data, rfl, ⟨⟨present, by rw [int16Max]; omega⟩, ⟨some, few⟩,
          short, rfl⟩, nbt, data, [], (List.append_nil _).symm, isNbt, rfl, rfl⟩

/-- Data that passes validation where it is compressed. -/
def IsValidNbt (zlib : Zlib) (protocol : Int) (nbt : Buffer × Bool) (bytes : List UInt8) : Prop :=
  IsLegacyNbt protocol nbt bytes ∧ (nbt.2 = true → ValidGzipNbt zlib nbt.1.content)

/-- The data of an item, which is compressed up to 5. -/
def asLegacyNbt (protocol : Int) : Option (List UInt8) → Buffer × Bool
  | none => (.null 0, false)
  | some nbt => (.bytes nbt, decide (protocol ≤ 5))

theorem IsLegacyNbt.exists_data {nbt : Buffer × Bool} {bytes : List UInt8}
    (isNbt : IsLegacyNbt protocol nbt bytes) : ∃ data, nbt = asLegacyNbt protocol data := by
  cases isNbt with
  | none => exact ⟨Option.none, rfl⟩
  | gzip old => exact ⟨some _, by rw [asLegacyNbt, decide_eq_true old]⟩
  | plain root later => exact ⟨some _, by rw [asLegacyNbt, decide_eq_false (by omega)]⟩

/-- A reported stack as an item. -/
def LegacyItem.view (item : LegacyItem) (wireKind : McItemWireKind) : McItemStackView :=
  { McItemStackView.absent wireKind with
    present := decide (item.itemId ≠ 0)
    nbtCompressed := item.compressed
    itemId := item.itemId
    count := item.count
    damage := item.damage
    nbt := item.nbt.content }

variable (validators : Validators)

theorem accepts_readGzipNbt (old : protocol ≤ 5) :
    Accepts mode (validators.readGzipNbt protocol).run fun nbt bytes =>
      IsValidNbt validators.zlib protocol (asLegacyNbt protocol nbt) bytes := by
  refine Accepts.congr (.bind accepts_i16 fun size => .guarded accepts_typedRequire (.either
    (.bind (accepts_bytes _) fun nbt => .guarded (accepts_typedValidateGzipNbt _ _ _) (.pure _))
    (.pure _))) fun nbt bytes => ⟨?_, ?_⟩
  · rintro ⟨size, _, _, rfl, ⟨bounds, rfl⟩, ⟨low, nonzero⟩, body⟩
    by_cases positive : 0 < size
    · rw [if_pos positive] at body
      obtain ⟨_, member, _, rfl, ⟨length, rfl⟩, valid, rfl, rfl⟩ := body
      have size_eq : (member.length : Int) = size := by omega
      rw [List.append_nil, ← size_eq]
      rw [asLegacyNbt, decide_eq_true old]
      exact ⟨.gzip old valid.1.1 (by rw [int16Max]; omega) valid.1.2.2, fun _ => valid⟩
    · rw [if_neg positive] at body
      obtain ⟨rfl, rfl⟩ := body
      obtain rfl : size = -1 := by omega
      rw [List.append_nil]
      exact ⟨.none old, nofun⟩
  · intro ⟨isNbt, valid⟩
    cases nbt with
    | none =>
        cases isNbt with
        | none => exact ⟨-1, _, [], (List.append_nil _).symm, ⟨by omega, rfl⟩, by omega, rfl, rfl⟩
    | some member =>
        rw [asLegacyNbt, decide_eq_true old] at isNbt valid
        cases isNbt with
        | @gzip member _ headed small magic =>
            rw [int16Max] at small
            refine ⟨member.length, _, member, rfl, ⟨by omega, rfl⟩, by omega, ?_⟩
            rw [if_pos (by omega)]
            exact ⟨member, member, [], (List.append_nil _).symm, ⟨by omega, rfl⟩, valid rfl, rfl,
              rfl⟩

theorem accepts_shortNbt :
    Accepts mode (if protocol ≤ 5 then validators.readGzipNbt protocol else do
      let nbt ← mcReaderNbt true
      pure (some nbt) : DecodeM protocol (Option (List UInt8))).run fun nbt bytes =>
        IsValidNbt validators.zlib protocol (asLegacyNbt protocol nbt) bytes := by
  by_cases old : protocol ≤ 5
  · simp only [if_pos old]
    exact accepts_readGzipNbt validators old
  · simp only [if_neg old]
    refine Accepts.congr (.bind (accepts_nbt true) fun nbt => .pure _) fun nbt bytes => ⟨?_, ?_⟩
    · rintro ⟨_, _, _, rfl, ⟨rfl, root, rfl⟩, rfl, rfl⟩
      rw [List.append_nil, asLegacyNbt, decide_eq_false old]
      exact ⟨.plain root (by omega), nofun⟩
    · intro ⟨isNbt, _⟩
      cases nbt with
      | none =>
          cases isNbt with
          | none now => exact absurd now old
      | some document =>
          rw [asLegacyNbt, decide_eq_false old] at isNbt
          cases isNbt with
          | plain root later =>
              exact ⟨_, _, [], (List.append_nil _).symm, ⟨rfl, root, rfl⟩, rfl, rfl⟩

theorem accepts_readShortItem (old : protocol ≤ 47) (wireKind : McItemWireKind) :
    Accepts mode (validators.readShortItem protocol wireKind).run fun view bytes =>
      ∃ item, IsLegacyItem (IsValidNbt validators.zlib protocol) item bytes ∧
        view = item.view wireKind := by
  have damages : Accepts mode (if protocol ≤ 340 then mcReaderU16 else pure 0 :
      DecodeM protocol Nat).run fun damage bytes => damage < 2 ^ 16 ∧ bytes = BigEndian.bytes 2 damage := by
    have damaged : protocol ≤ 340 := by omega
    simp only [if_pos damaged]
    exact accepts_u16
  refine Accepts.congr (.bind accepts_u16 fun wireId => .either (.pure _)
    (.bind (.rescue (accepts_legacyFront damages) _) fun front =>
      .bind (accepts_shortNbt validators) fun nbt => .pure _)) fun view bytes => ⟨?_, ?_⟩
  · rintro ⟨wireId, _, _, rfl, ⟨-, rfl⟩, body⟩
    by_cases absent : wireId = uint16Max
    · rw [if_pos absent] at body
      obtain ⟨rfl, rfl⟩ := body
      rw [absent, List.append_nil]
      exact ⟨_, .absent, rfl⟩
    · rw [if_neg absent] at body
      obtain ⟨⟨count, damage⟩, _, _, rfl, ⟨⟨present, small⟩, ⟨some, few⟩, short, rfl⟩, nbt, data, _,
        rfl, isNbt, rfl, rfl⟩ := body
      rw [List.append_nil]
      refine ⟨_, .stack present small some few short isNbt, ?_⟩
      cases nbt with
      | none => simp [LegacyItem.view, asLegacyNbt, Buffer.content, present]
      | some nbt => simp [LegacyItem.view, asLegacyNbt, Buffer.content, present]
  · rintro ⟨item, isItem, rfl⟩
    cases isItem with
    | absent =>
        exact ⟨uint16Max, _, [], (List.append_nil _).symm, ⟨by decide, rfl⟩, rfl, rfl⟩
    | @stack id damage count _ data present small some few short isNbt =>
        obtain ⟨nbt, rfl⟩ := isNbt.1.exists_data
        rw [int16Max] at small
        refine ⟨id, _, _, rfl, ⟨by omega, rfl⟩, ?_⟩
        rw [if_neg (by rw [uint16Max]; omega)]
        refine ⟨(count, damage), _, data, rfl, ⟨⟨present, by rw [int16Max]; omega⟩, ⟨some, few⟩,
          short, rfl⟩, nbt, data, [], (List.append_nil _).symm, isNbt, ?_, rfl⟩
        cases nbt with
        | none => simp [LegacyItem.view, asLegacyNbt, Buffer.content, present]
        | some nbt => simp [LegacyItem.view, asLegacyNbt, Buffer.content, present]

/-- `mc_reader_item_stack` up to 47. -/
theorem accepts_legacyItemStack (supported : mcProtocolSupported protocol = true)
    (old : protocol ≤ 47) :
    Accepts mode (validators.mcReaderItemStack protocol .full).run fun view bytes =>
      ∃ item, IsLegacyItem (IsValidNbt validators.zlib protocol) item bytes ∧
        view = { item.view .full with encoded := bytes } := by
  have known : ¬ mcProtocolSupported protocol = false := by simp [supported]
  have layout : Accepts mode (if McItemWireKind.full = .hashed then
        validators.readHashedItem protocol
      else if protocol ≤ 401 then validators.readShortItem protocol .full
      else if protocol < 766 then readFlaggedItem protocol .full
      else validators.readComponentItem protocol .full).run fun view bytes =>
        ∃ item, IsLegacyItem (IsValidNbt validators.zlib protocol) item bytes ∧
          view = item.view .full := by
    have short : protocol ≤ 401 := by omega
    simp only [reduceCtorEq, if_false, if_pos short]
    exact accepts_readShortItem validators old .full
  unfold Validators.mcReaderItemStack
  simp only [if_neg known]
  refine Accepts.congr (.bind accepts_refuseFailed fun _ =>
    layout.slicedWith (f := fun item encoded => { item with encoded := encoded }))
      fun view bytes => ⟨?_, ?_⟩
  · rintro ⟨_, _, _, rfl, rfl, _, ⟨item, isItem, rfl⟩, rfl⟩
    exact ⟨item, isItem, rfl⟩
  · rintro ⟨item, isItem, rfl⟩
    exact ⟨(), [], bytes, rfl, rfl, _, ⟨item, isItem, rfl⟩, rfl⟩

end accepts

/-- What both report of an item. -/
structure LegacyItemsAgree (item : LegacyItem) (view : McItemStackView) : Prop where
  itemId : view.itemId = item.itemId
  count : view.count = item.count
  damage : view.damage = item.damage
  nbt : view.nbt = item.nbt.content
  compressed : view.nbtCompressed = item.compressed

/-- Both accept, read as much and report the same, or both refuse. -/
def LegacyDecodersAgree (validators : Validators) (protocol : Int) (reader : McReader) : Prop :=
  match (typedReadLegacyItem protocol).run reader,
    (validators.mcReaderItemStack protocol .full).run reader with
  | (some item, after), (some view, last) =>
      last.offset = after.offset ∧ LegacyItemsAgree item view
  | (none, _), (none, _) => True
  | _, _ => False

theorem isLegacyItem_valid_iff {zlib : Zlib} {protocol : Int} {item : LegacyItem}
    {bytes : List UInt8} :
    IsLegacyItem (IsValidNbt zlib protocol) item bytes ↔
      IsLegacyItem (IsLegacyNbt protocol) item bytes ∧
        (item.compressed = true → ValidGzipNbt zlib item.nbt.content) := by
  constructor
  · intro isItem
    cases isItem with
    | absent => exact ⟨.absent, nofun⟩
    | stack present small some few short data =>
        exact ⟨.stack present small some few short data.1, data.2⟩
  · intro ⟨isItem, valid⟩
    cases isItem with
    | absent => exact .absent
    | stack present small some few short data =>
        exact .stack present small some few short ⟨data, valid⟩

/-- The decoders agree on a reader exactly when the item in front of it, if there is one whose
compressed data has the header of a gzip member, has data that passes validation. -/
theorem legacyItem_decoders_agree_iff (validators : Validators) (protocol : Int)
    (supported : mcProtocolSupported protocol = true) (old : protocol ≤ 47) (reader : McReader)
    (data : List UInt8) (before : reader.Before data) :
    LegacyDecodersAgree validators protocol reader ↔
      ∀ item bytes rest, data = bytes ++ rest →
        IsLegacyItem (IsLegacyNbt protocol) item bytes → item.compressed = true →
          ValidGzipNbt validators.zlib item.nbt.content := by
  have left : Accepts reader.mode (typedReadLegacyItem protocol).run _ :=
    accepts_typedReadLegacyItem
  have right : Accepts reader.mode (validators.mcReaderItemStack protocol .full).run _ :=
    accepts_legacyItemStack validators supported old
  unfold LegacyDecodersAgree
  by_cases derived : ∃ item bytes rest, data = bytes ++ rest ∧
      IsLegacyItem (IsLegacyNbt protocol) item bytes
  · obtain ⟨item, bytes, rest, rfl, isItem⟩ := derived
    have read := left.complete isItem reader rest rfl before
    -- there is no other item in front of the reader
    have only : ∀ other taken tail, bytes ++ rest = taken ++ tail →
        IsLegacyItem (IsLegacyNbt protocol) other taken → other = item := by
      intro other taken tail same isOther
      have again := left.complete isOther reader tail rfl (same ▸ before)
      rw [read] at again
      exact (Option.some.inj (congrArg Prod.fst again)).symm
    rw [read]
    by_cases valid : item.compressed = true → ValidGzipNbt validators.zlib item.nbt.content
    · have viewed := right.complete ⟨item, isLegacyItem_valid_iff.mpr ⟨isItem, valid⟩, rfl⟩ reader
        rest rfl before
      rw [viewed]
      refine ⟨fun _ other taken tail same isOther => ?_, fun _ => ⟨rfl, rfl, rfl, rfl, rfl, rfl⟩⟩
      rw [only other taken tail same isOther]
      exact valid
    · refine ⟨fun agree => absurd ?_ valid, fun all => absurd (all item bytes rest rfl isItem) valid⟩
      rcases run : (validators.mcReaderItemStack protocol .full).run reader with ⟨_ | view, after⟩
      · rw [run] at agree
        exact agree.elim
      · obtain ⟨taken, tail, same, ⟨other, isOther, -⟩, -⟩ := right.sound rfl before run
        obtain ⟨isOther, valid⟩ := isLegacyItem_valid_iff.mp isOther
        rwa [only other taken tail same isOther] at valid
  · have refused : ((typedReadLegacyItem protocol).run reader).1 = none := by
      rcases run : (typedReadLegacyItem protocol).run reader with ⟨_ | item, after⟩
      · rfl
      · obtain ⟨bytes, rest, same, isItem, -⟩ := left.sound rfl before run
        exact absurd ⟨item, bytes, rest, same, isItem⟩ derived
    have unviewed : ((validators.mcReaderItemStack protocol .full).run reader).1 = none := by
      rcases run : (validators.mcReaderItemStack protocol .full).run reader with ⟨_ | view, after⟩
      · rfl
      · obtain ⟨bytes, rest, same, ⟨item, isItem, -⟩, -⟩ := right.sound rfl before run
        exact absurd ⟨item, bytes, rest, same, (isLegacyItem_valid_iff.mp isItem).1⟩ derived
    rcases leftRun : (typedReadLegacyItem protocol).run reader with ⟨item, after⟩
    rcases rightRun : (validators.mcReaderItemStack protocol .full).run reader with ⟨view, last⟩
    rw [leftRun] at refused
    rw [rightRun] at unviewed
    cases refused
    cases unviewed
    exact ⟨fun _ item bytes rest same isItem => absurd ⟨item, bytes, rest, same, isItem⟩ derived,
      fun _ => trivial⟩

/-- Ten bytes that begin as a gzip member does, with flags that no member has. -/
def flaggedMember : List UInt8 := [31, 139, 8, 224, 0, 0, 0, 0, 0, 0]

/-- They pass for data in the one decoder and not in the other. -/
theorem legacyItem_decoders_agree_flagged :
    let validators := Validators.gunzipping [10, 0, 0, 0] emptyCompoundMember
    ¬ LegacyDecodersAgree validators 5 (mcReaderInitMode (gzipItem flaggedMember) .strict none) := by
  intro validators agree
  have read : ((typedReadLegacyItem 5).run
      (mcReaderInitMode (gzipItem flaggedMember) .strict none)).1 =
        some ⟨1, 1, 0, .bytes flaggedMember, true⟩ := by decide +kernel
  have refused : ((validators.mcReaderItemStack 5 .full).run
      (mcReaderInitMode (gzipItem flaggedMember) .strict none)).1 = none := by decide +kernel
  unfold LegacyDecodersAgree at agree
  rcases left : (typedReadLegacyItem 5).run
    (mcReaderInitMode (gzipItem flaggedMember) .strict none) with ⟨item, after⟩
  rcases right : (validators.mcReaderItemStack 5 .full).run
    (mcReaderInitMode (gzipItem flaggedMember) .strict none) with ⟨view, last⟩
  rw [left] at read
  rw [right] at refused
  cases read
  cases refused
  rw [left, right] at agree
  exact agree

/-- The member of an empty compound. -/
theorem legacyItem_decoders_agree_compound :
    LegacyDecodersAgree (Validators.gunzipping [10, 0, 0, 0] emptyCompoundMember) 5
      (mcReaderInitMode (gzipItem emptyCompoundMember) .strict none) := by
  have before := mcReaderInitMode_before (gzipItem emptyCompoundMember) .strict none
  refine (legacyItem_decoders_agree_iff (.gunzipping [10, 0, 0, 0] emptyCompoundMember) 5 rfl
    (by decide) _ _ before).mpr fun item bytes rest same isItem _ => ?_
  rw [same] at before
  have read := accepts_typedReadLegacyItem.complete isItem _ rest rfl before
  have found : ((typedReadLegacyItem 5).run
      (mcReaderInitMode (gzipItem emptyCompoundMember) .strict none)).1 =
        some ⟨1, 1, 0, .bytes emptyCompoundMember, true⟩ := by decide +kernel
  rw [same, read] at found
  obtain rfl := Option.some.inj found
  exact ⟨⟨by decide, by decide, by decide⟩, 4, by decide +kernel, by decide⟩

end McProtocol
