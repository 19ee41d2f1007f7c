import McProtocol.Typed.Bodies
import McProtocol.Typed.ItemGrammar

/-! # Entity metadata and its iterator

The decoder walks the entries up to the terminator, the iterator reads them again one at a time.
Both skip a value by the same function, so all that is needed of the values is that their bytes
alone say where they end.
-/

namespace McProtocol

open Iteration (Takes)

/-- What the generated validators return depends on the bytes they take and on nothing else. -/
structure Validators.IsLocal (validators : Validators) (protocol : Int) : Prop where
  component : Local .strict (validators.skipSlotComponent protocol 0).run
  componentType : Local .strict (validators.skipSlotComponentType protocol 0).run
  profile : Local .strict (validators.resolvableProfile protocol 0).run

namespace Local

section plain

variable {mode : McDecodeMode} {protocol : Int}

theorem nonnegative : Local mode skipNonnegative.run := .orReject (.bind .varint fun _ => .require) 0

theorem skipVarint : Local mode McProtocol.skipVarint.run := .bind .varint fun _ => .pure ()

theorem skipBool : Local mode McProtocol.skipBool.run := .bind .bool fun _ => .pure ()

theorem skipI32 : Local mode McProtocol.skipI32.run := .bind .i32 fun _ => .pure ()

theorem skipNbt (namedRoot : Bool) : Local mode (McProtocol.skipNbt namedRoot).run :=
  .bind (.nbt namedRoot) fun _ => .pure ()

theorem floats (count : Nat) : Local mode (typedSkipFloats count).run :=
  .iterate (fun _ => .bind .float fun _ => .rejectWhen 0) count ()

theorem stringValue : Local mode typedSkipStringValue.run :=
  .bind (.stringBounded 32767) fun _ => .pure ()

theorem uuidValue : Local mode typedSkipUuidValue.run := .bind .uuid fun _ => .pure ()

theorem threeNonnegative : Local mode skipThreeNonnegative.run :=
  .iterate (fun _ => .nonnegative) 3 ()

theorem positionValue : Local mode (typedSkipPositionValue : DecodeM protocol Unit).run :=
  .bind (.position protocol) fun _ => .pure ()

theorem optional {payload : DecodeM protocol Unit} (isLocal : Local mode payload.run) :
    Local mode (typedSkipOptional payload).run :=
  .bind .bool fun _ => .when isLocal

theorem painting : Local mode (typedSkipRegistryHolderPainting : DecodeM protocol Unit).run :=
  .orInvalid (.bind .varint fun _ => .bind .require fun _ => .when (.bind .i32 fun _ =>
    .bind .i32 fun _ => .bind .require fun _ => .bind (.readNonempty 32767) fun _ =>
      .bind (.optional (.skipNbt false)) fun _ => .optional (.skipNbt false)))

end plain

section values

variable {validators : Validators} {protocol : Int}

variable (generated : validators.IsLocal protocol)

include generated

theorem itemStack (wireKind : McItemWireKind) :
    Local .strict (validators.mcReaderItemStack protocol wireKind).run := by
  obtain ⟨C, reads⟩ := generated.component
  obtain ⟨T, readsType⟩ := generated.componentType
  obtain ⟨G, accepts, -⟩ := accepts_itemStack wireKind (T := T ()) (C := C ()) readsType reads
  exact accepts.isLocal

theorem skipItem : Local .strict (McProtocol.skipItem validators protocol).run :=
  .bind (.itemStack generated .full) fun _ => .pure ()

omit generated in
theorem vibrationEntity : Local .strict (skipVibrationEntity protocol).run :=
  .orReject (.bind .varint fun _ => .bind .require fun _ => .when (.bind .skipVarint fun _ =>
    .bind .varint fun _ => .require)) 0

omit generated in
theorem oldVibration : Local .strict (skipOldVibration protocol).run :=
  .bind (.when .positionValue) fun _ => .bind (.stringBounded 64) fun _ =>
    .bind (.ite .positionValue (.ite .vibrationEntity (.reject _ 0))) fun _ => .nonnegative

theorem oldParticle : Local .strict (typedSkipOldParticle validators protocol).run :=
  .bind .varint fun _ => .bind (.rejectWhen 0) fun _ => .ite .nonnegative (.ite (.floats 4)
    (.ite (.floats 7) (.ite (.floats 1) (.ite (.skipItem generated) (.ite .oldVibration
      (.pure ()))))))

omit generated in
theorem dust (colours : Nat) : Local .strict (skipDust protocol colours).run :=
  .ite (.floats _) (.bind (.iterate (fun _ => .skipI32) colours ()) fun _ => .floats 1)

omit generated in
theorem modernVibration : Local .strict (skipModernVibration protocol).run :=
  .bind (.orInvalid (.bind .varint fun _ => .bind .require fun _ => .pure _)) fun _ =>
    .bind (.ite .positionValue (.orInvalid (.bind .nonnegative fun _ => .floats 1))) fun _ =>
      .nonnegative

omit generated in
theorem trail : Local .strict skipTrail.run :=
  .bind (.iterate (fun _ => .orReject (.bind .double fun _ => .require) 0) 3 ()) fun _ =>
    .bind .u8 fun _ => .pure ()

theorem modernParticle : Local .strict (typedSkipModernParticle validators protocol).run :=
  .bind .varint fun _ => .bind (.rejectWhen 0) fun _ => .ite .nonnegative (.ite (.dust 1)
    (.ite (.dust 2) (.ite .skipI32 (.ite (.skipItem generated) (.ite (.floats 1)
      (.ite (.bind .skipI32 fun _ => .floats 1) (.ite .modernVibration (.ite .trail
        (.pure ())))))))))

theorem particles : Local .strict (skipParticles validators protocol).run :=
  .bind .varint fun count => .bind (.rejectWhen 0) fun _ =>
    .iterate (fun _ => .modernParticle generated) count.toNat ()

theorem value47 (type : Int) : Local .strict (skipValue47 validators protocol type).run :=
  .ite (.skip 1) (.ite (.skip 2) (.ite (.skip 4) (.ite (.floats 1) (.ite .stringValue
    (.ite (.skipItem generated) (.ite (.skip 12) (.ite (.floats 3) (.reject _ 0))))))))

theorem value340 (type : Int) : Local .strict (skipValue340 validators protocol type).run :=
  .ite (.skip 1) (.ite .skipVarint (.ite (.floats 1) (.ite .stringValue
    (.ite (.skipItem generated) (.ite .skipBool (.ite (.floats 3) (.ite .positionValue
      (.ite (.optional .positionValue) (.ite (.optional .uuidValue) (.ite (.skipNbt true)
        (.reject _ 0)))))))))))

theorem value760 (type : Int) : Local .strict (skipValue760 validators protocol type).run :=
  .ite (.skip 1) (.ite .skipVarint (.ite (.floats 1) (.ite .stringValue
    (.ite (.optional .stringValue) (.ite (.skipItem generated) (.ite .skipBool (.ite (.floats 3)
      (.ite .positionValue (.ite (.optional .positionValue) (.ite .skipVarint
        (.ite (.optional .uuidValue) (.ite (.skipNbt true) (.ite (.oldParticle generated)
          (.ite .threeNonnegative (.ite (.optional .stringValue) (.reject _ 0))))))))))))))))

theorem value761 (type : Int) : Local .strict (skipValue761 validators protocol type).run :=
  .ite .nonnegative (.ite (.skipNbt true) (.ite (.oldParticle generated) (.ite .threeNonnegative
    (.ite .skipVarint (.ite (.optional .stringValue) (.reject _ 0))))))

theorem valueLate (type : Int) : Local .strict (skipValueLate validators protocol type).run :=
  .ite .skipVarint (.ite (.ite (.modernParticle generated) (.skipNbt _))
    (.ite (.ite (.particles generated) (.ite (.modernParticle generated) (.ite .nonnegative
      (.oldParticle generated)))) (.ite (.particles generated) (.reject _ 0))))

theorem value (type : Int) : Local .strict (skipValue validators protocol type).run :=
  .ite (.skip 1) (.ite .skipVarint (.ite (.bind .varlong fun _ => .pure ()) (.ite (.floats 1)
    (.ite .stringValue (.ite (.ite (.skipNbt false) .stringValue)
      (.ite (.optional (.ite (.skipNbt false) .stringValue)) (.ite (.skipItem generated)
        (.ite .skipBool (.ite (.floats 3) (.ite .positionValue (.ite (.optional .positionValue)
          (.ite (.optional .uuidValue) (.ite (.value761 generated type)
            (.valueLate generated type))))))))))))))

theorem metadataValue (type : Int) :
    Local .strict (typedSkipMetadataValue validators protocol type).run :=
  .ite (.value47 generated type) (.ite (.value340 generated type) (.ite (.value760 generated type)
    (.value generated type)))

theorem namedMetadataValue (type : Int) :
    Local .strict (typedSkipNamedMetadataValue validators protocol type).run :=
  .ite (.metadataValue generated type) (.ite (.particles generated) (.ite .threeNonnegative
    (.ite .nonnegative (.ite (.optional (.bind .stringValue fun _ => .when .positionValue))
      (.ite (.ite .painting .nonnegative) (.ite (.floats 3) (.ite (.floats 4)
        (.ite generated.profile (.ite .nonnegative (.ite .nonnegative (.reject _ 0)))))))))))

/-- Whatever its serializer, the bytes of a value say where it ends. -/
theorem skipMetadataValue (type : Int) :
    Local .strict (McProtocol.skipMetadataValue validators protocol type).run :=
  .ite (.namedMetadataValue generated type) (.metadataValue generated type)

end values

end Local

structure McEntityMetadataEntry where
  index : UInt8
  serializer : Int
  value : List UInt8
  deriving Repr, DecidableEq

structure McEntityMetadataIterator where
  reader : McReader
  protocol : Int
  remaining : Nat

section iterator

variable (validators : Validators)

/-- The end of the list, with nothing behind it. -/
def atTerminator (protocol : Int) (reader : McReader) : Option McReader :=
  match mcReaderU8.run reader with
  | (some terminator, after) =>
      if terminator = metadataTerminator protocol ∧ mcReaderRemaining after = 0 then some after
      else none
  | (none, _) => none

/-- The slice of a decoded packet is never null. -/
def mcEntityMetadataIterator (packet : McEntityMetadataPacket) (protocol : Int) :
    Option McEntityMetadataIterator :=
  if mcProtocolSupported protocol = false ∨ packet.terminated = false
      ∨ mcMaxEntityMetadataEntries < packet.entryCount ∨ packet.entries = [] then none
  else if packet.entryCount = 0 then
    (atTerminator protocol (sliceReader packet.entries)).map fun reader => ⟨reader, protocol, 0⟩
  else some ⟨sliceReader packet.entries, protocol, packet.entryCount⟩

/-- One entry: up to 47 its index is the bottom of the key. -/
def readMetadataEntry (protocol : Int) : DecodeM protocol McEntityMetadataEntry := do
  let header ← mcReaderU8
  typedRequire (header ≠ metadataTerminator protocol)
  let serializer ← readSerializer protocol header
  let valueStart ← mcReaderOffset
  skipMetadataValue validators protocol serializer
  let value ← readSince valueStart
  pure ⟨if protocol ≤ 47 then header &&& 0x1f else header, serializer, value⟩

/-- Behind the last entry nothing may stand but the terminator. -/
def mcEntityMetadataIteratorNext (iterator : McEntityMetadataIterator) :
    Option McEntityMetadataEntry × McEntityMetadataIterator :=
  if iterator.remaining = 0 then (none, iterator)
  else
    match (readMetadataEntry validators iterator.protocol).run iterator.reader with
    | (none, reader) => (none, { iterator with reader := reader })
    | (some entry, reader) =>
        let iterator := { iterator with reader := reader, remaining := iterator.remaining - 1 }
        if iterator.remaining = 0 then
          match atTerminator iterator.protocol reader with
          | none =>
              let reader := (mcReaderU8.run reader).2
              (none, { iterator with reader := reader.fail .invalidPacketBody reader.offset })
          | some reader => (some entry, { iterator with reader := reader })
        else (some entry, iterator)

end iterator

section grammar

variable {validators : Validators} {protocol : Int} {V : Int → List UInt8 → Prop}

/-- The header of an entry: one byte for both up to 47. -/
def IsEntryHeader (protocol : Int) (index : UInt8) (serializer : Int) (header : List UInt8) : Prop :=
  if protocol ≤ 47 then
    ∃ key ≠ metadataTerminator protocol, header = [key] ∧ index = key &&& 0x1f ∧
      serializer = (key >>> 5).toNat
  else index ≠ metadataTerminator protocol ∧ 0 ≤ serializer ∧
    ∃ code, header = index :: code ∧ IsVarint .strict serializer code

/-- A header and the value behind it, of a serializer whose values are those of `V`. -/
structure IsMetadataEntry (V : Int → List UInt8 → Prop) (protocol : Int)
    (entry : McEntityMetadataEntry) (bytes : List UInt8) : Prop where
  exists_header : ∃ header, IsEntryHeader protocol entry.index entry.serializer header ∧
    bytes = header ++ entry.value
  value : V entry.serializer entry.value

theorem accepts_readSerializer (key : UInt8) :
    Accepts .strict (readSerializer protocol key).run fun serializer code =>
      if protocol ≤ 47 then serializer = (key >>> 5).toNat ∧ code = []
      else 0 ≤ serializer ∧ IsVarint .strict serializer code := by
  refine Accepts.congr (.either (.pure _) (accepts_orReject (.bind accepts_varint fun serializer =>
    .guarded accepts_require (.pure serializer)) 0)) fun serializer code => ?_
  by_cases old : protocol ≤ 47
  · simp only [if_pos old]
  · simp only [if_neg old]
    constructor
    · rintro ⟨_, _, _, rfl, isVarint, natural, rfl, rfl⟩
      rw [List.append_nil]
      exact ⟨natural, isVarint⟩
    · rintro ⟨natural, isVarint⟩
      exact ⟨serializer, code, [], (List.append_nil _).symm, isVarint, natural, rfl, rfl⟩

/-- The index that a key stands for. -/
def entryIndex (protocol : Int) (key : UInt8) : UInt8 := if protocol ≤ 47 then key &&& 0x1f else key

/-- A key that is not the terminator, and its serializer. -/
theorem isEntryHeader_iff {index : UInt8} {serializer : Int} {header : List UInt8} :
    IsEntryHeader protocol index serializer header ↔
      ∃ key code, header = key :: code ∧ key ≠ metadataTerminator protocol ∧
        index = entryIndex protocol key ∧
        if protocol ≤ 47 then serializer = (key >>> 5).toNat ∧ code = []
        else 0 ≤ serializer ∧ IsVarint .strict serializer code := by
  unfold IsEntryHeader entryIndex
  by_cases old : protocol ≤ 47
  · simp only [if_pos old]
    constructor
    · rintro ⟨key, other, rfl, same, type⟩
      exact ⟨key, [], rfl, other, same, type, rfl⟩
    · rintro ⟨key, _, rfl, other, same, type, rfl⟩
      exact ⟨key, other, rfl, same, type⟩
  · simp only [if_neg old]
    constructor
    · rintro ⟨other, natural, code, rfl, isVarint⟩
      exact ⟨index, code, rfl, other, rfl, natural, isVarint⟩
    · rintro ⟨key, code, rfl, other, rfl, natural, isVarint⟩
      exact ⟨other, natural, code, rfl, isVarint⟩

section values

variable (values : ∀ type, Accepts .strict (skipMetadataValue validators protocol type).run
  fun _ bytes => V type bytes)

include values

theorem accepts_readMetadataEntry :
    Accepts .strict (readMetadataEntry validators protocol).run (IsMetadataEntry V protocol) := by
  refine Accepts.congr (.bind accepts_u8 fun key => .guarded (accepts_rejectWhen 0)
    (.bind (accepts_readSerializer key) fun serializer => (values serializer).slicedWith
      (f := fun _ value => (⟨entryIndex protocol key, serializer, value⟩ : McEntityMetadataEntry))))
        fun entry bytes => ⟨?_, ?_⟩
  · rintro ⟨key, _, _, rfl, rfl, other, serializer, code, value, rfl, isSerializer, _, valid, rfl⟩
    exact ⟨⟨key :: code, isEntryHeader_iff.mpr
      ⟨key, code, rfl, not_not.mp other, rfl, isSerializer⟩, rfl⟩, valid⟩
  · rintro ⟨⟨_, isHeader, rfl⟩, valid⟩
    obtain ⟨key, code, rfl, other, same, isSerializer⟩ := isEntryHeader_iff.mp isHeader
    exact ⟨key, [key], code ++ entry.value, rfl, rfl, not_not.mpr other, entry.serializer, code, _,
      rfl, isSerializer, (), valid, by rw [← same]⟩

/-- The decoder walks over entries and stops at the terminator. -/
theorem accepts_skipMetadataEntries (left count : Nat) :
    Accepts .strict (skipMetadataEntries validators protocol left count).run fun total bytes =>
      ∃ records : List (McEntityMetadataEntry × List UInt8), records.length ≤ left ∧
        (∀ record ∈ records, IsMetadataEntry V protocol record.1 record.2) ∧
        total = count + records.length ∧
        bytes = (records.map Prod.snd).flatten ++ [metadataTerminator protocol] := by
  induction left generalizing count with
  | zero =>
      refine Accepts.congr (.bind accepts_u8 fun key => .either (.pure count) (accepts_reject 0))
        fun total bytes => ⟨?_, ?_⟩
      · rintro ⟨key, _, rest, rfl, rfl, derived⟩
        by_cases last : key = metadataTerminator protocol
        · rw [if_pos last] at derived
          obtain ⟨rfl, rfl⟩ := derived
          exact ⟨[], Nat.le_refl 0, nofun, rfl, by rw [last]; rfl⟩
        · rw [if_neg last] at derived
          exact derived.elim
      · rintro ⟨records, few, -, rfl, rfl⟩
        obtain rfl := List.length_eq_zero_iff.mp (Nat.le_zero.mp few)
        exact ⟨metadataTerminator protocol, _, [], rfl, rfl, by rw [if_pos rfl]; exact ⟨rfl, rfl⟩⟩
  | succ left ih =>
      refine Accepts.congr (.bind accepts_u8 fun key => .either (.pure count)
        (.bind (accepts_readSerializer key) fun serializer => .bind (values serializer) fun _ =>
          ih (count + 1))) fun total bytes => ⟨?_, ?_⟩
      · rintro ⟨key, _, rest, rfl, rfl, derived⟩
        by_cases last : key = metadataTerminator protocol
        · rw [if_pos last] at derived
          obtain ⟨rfl, rfl⟩ := derived
          exact ⟨[], Nat.zero_le _, nofun, rfl, by rw [last]; rfl⟩
        · rw [if_neg last] at derived
          obtain ⟨serializer, code, _, rfl, isSerializer, _, value, _, rfl, valid, records, few, each,
            rfl, rfl⟩ := derived
          let entry : McEntityMetadataEntry := ⟨entryIndex protocol key, serializer, value⟩
          have isEntry : IsMetadataEntry V protocol entry (key :: code ++ value) :=
            ⟨⟨key :: code, isEntryHeader_iff.mpr ⟨key, code, rfl, last, rfl, isSerializer⟩, rfl⟩,
              valid⟩
          refine ⟨(entry, key :: code ++ value) :: records, Nat.succ_le_succ few, ?_, ?_, ?_⟩
          · intro record mem
            cases mem with
            | head => exact isEntry
            | tail _ mem => exact each record mem
          · rw [List.length_cons]
            omega
          · simp
      · rintro ⟨records, few, each, rfl, rfl⟩
        cases records with
        | nil =>
            exact ⟨metadataTerminator protocol, _, [], rfl, rfl,
              by rw [if_pos rfl]; exact ⟨rfl, rfl⟩⟩
        | cons record records =>
            obtain ⟨entry, part⟩ := record
            obtain ⟨⟨_, isHeader, same⟩, valid⟩ := each _ List.mem_cons_self
            obtain ⟨key, code, rfl, other, -, isSerializer⟩ := isEntryHeader_iff.mp isHeader
            obtain rfl : part = key :: code ++ entry.value := same
            refine ⟨key, [key], _, by simp; rfl, rfl, ?_⟩
            rw [if_neg other]
            refine ⟨entry.serializer, code, _, rfl, isSerializer, (), entry.value, _, rfl, valid,
              records, Nat.le_of_succ_le_succ few, fun record mem =>
                each record (List.mem_cons_of_mem _ mem), ?_, rfl⟩
            rw [List.length_cons]
            omega

/-- What a decoded packet says of its entries and of the bytes of each. -/
structure McEntityMetadataPacket.Holds (V : Int → List UInt8 → Prop) (protocol : Int)
    (packet : McEntityMetadataPacket) (records : List (McEntityMetadataEntry × List UInt8)) :
    Prop where
  each : ∀ record ∈ records, IsMetadataEntry V protocol record.1 record.2
  count : packet.entryCount = records.length
  few : records.length ≤ mcMaxEntityMetadataEntries
  entries : packet.entries = (records.map Prod.snd).flatten ++ [metadataTerminator protocol]
  terminated : packet.terminated = true

theorem returns_typedDecodeMetadata :
    Returns .strict (typedDecodeMetadata validators protocol).run fun packet =>
      ∃ records, packet.Holds V protocol records := by
  have entity : Local .strict (readEntityId protocol).run := .ite .i32 .varint
  refine entity.returns.bind fun entityId _ => .orInvalid (Returns.require.bind fun _ _ => ?_)
  have entries := (accepts_skipMetadataEntries values mcMaxEntityMetadataEntries 0).slicedWith
    (f := fun count entries => (entries, count))
  refine (entries.returns (P := fun scanned => ∃ records, (⟨entityId, scanned.2, scanned.1, true⟩ :
    McEntityMetadataPacket).Holds V protocol records) ?_).bind fun scanned holds => .pure holds
  rintro _ _ ⟨count, ⟨records, few, each, rfl, rfl⟩, rfl⟩
  exact ⟨records, each, Nat.zero_add _, few, rfl, rfl⟩

end values

/-- What lies in front of the terminator and is not read yet. -/
def McEntityMetadataIterator.unread (iterator : McEntityMetadataIterator) : List UInt8 :=
  if iterator.remaining = 0 then [] else iterator.reader.unread.dropLast

/-- The terminator is read together with the last entry. -/
def withTerminator (protocol : Int) :
    List (McEntityMetadataEntry × List UInt8) → List (List UInt8)
  | [] => []
  | record :: rest => record.2 :: (rest.map Prod.snd ++ [[metadataTerminator protocol]])

/-- The iterator stands in front of entries that the decoder has accepted. -/
structure McEntityMetadataIterator.Ahead (iterator : McEntityMetadataIterator)
    (V : Int → List UInt8 → Prop) (protocol : Int)
    (records : List (McEntityMetadataEntry × List UInt8)) : Prop where
  protocol_eq : iterator.protocol = protocol
  reader : iterator.reader.Ahead (withTerminator protocol records)
  remaining : iterator.remaining = records.length
  each : ∀ record ∈ records, IsMetadataEntry V protocol record.1 record.2

section calls

variable {iterator : McEntityMetadataIterator} {entry : McEntityMetadataEntry} {part : List UInt8}
variable {records rest : List (McEntityMetadataEntry × List UInt8)}

theorem McEntityMetadataIterator.Ahead.unread_eq (ahead : iterator.Ahead V protocol records) :
    iterator.unread = (records.map Prod.snd).flatten := by
  unfold McEntityMetadataIterator.unread
  rw [ahead.remaining]
  cases records with
  | nil => rfl
  | cons record rest =>
      rw [List.length_cons, if_neg (Nat.succ_ne_zero _), ahead.reader.unread, withTerminator, List.flatten_cons,
        List.flatten_append, List.flatten_singleton, ← List.append_assoc, List.dropLast_concat,
        List.map_cons, List.flatten_cons]

theorem atTerminator_eq_some {reader : McReader}
    (ahead : reader.Ahead [[metadataTerminator protocol]]) :
    atTerminator protocol reader = some (reader.advance 1) := by
  have run := ahead.reads (.u8 (metadataTerminator protocol))
  unfold atTerminator
  rw [run]
  exact if_pos ⟨rfl, ahead.advance.finished⟩

theorem mcEntityMetadataIteratorNext_stop (ahead : iterator.Ahead V protocol []) :
    mcEntityMetadataIteratorNext validators iterator = (none, iterator) :=
  if_pos ahead.remaining

theorem mcEntityMetadataIteratorNext_part
    (values : ∀ type, Accepts .strict (skipMetadataValue validators protocol type).run
      fun _ bytes => V type bytes)
    (ahead : iterator.Ahead V protocol ((entry, part) :: rest)) :
    ∃ next, mcEntityMetadataIteratorNext validators iterator = (some entry, next) ∧
      iterator.unread = part ++ next.unread ∧ next.Ahead V protocol rest := by
  have unread := ahead.unread_eq
  obtain ⟨rfl, reader, remaining, each⟩ := ahead
  have run := reader.reads ((accepts_readMetadataEntry values).complete (each _ List.mem_cons_self))
  have behind := reader.advance
  have some : iterator.remaining ≠ 0 := by
    rw [remaining]
    exact Nat.succ_ne_zero _
  have each' := fun record mem => each record (List.mem_cons_of_mem _ mem)
  cases rest with
  | nil =>
      let next : McEntityMetadataIterator :=
        ⟨(iterator.reader.advance part.length).advance 1, iterator.protocol, 0⟩
      have last : iterator.remaining - 1 = 0 := by
        rw [remaining]
        rfl
      have ahead : next.Ahead V iterator.protocol [] := ⟨rfl, behind.advance, rfl, nofun⟩
      refine ⟨next, ?_, ?_, ahead⟩
      · unfold mcEntityMetadataIteratorNext
        rw [if_neg some, run]
        dsimp only
        rw [if_pos last, atTerminator_eq_some behind, last]
      · rw [unread, ahead.unread_eq]
        rfl
  | cons record rest =>
      let next : McEntityMetadataIterator :=
        ⟨iterator.reader.advance part.length, iterator.protocol, iterator.remaining - 1⟩
      have going : iterator.remaining - 1 ≠ 0 := by
        rw [remaining]
        exact Nat.succ_ne_zero _
      have left : iterator.remaining - 1 = (record :: rest).length := by
        rw [remaining]
        rfl
      have ahead : next.Ahead V iterator.protocol (record :: rest) := ⟨rfl, behind, left, each'⟩
      refine ⟨next, ?_, ?_, ahead⟩
      · unfold mcEntityMetadataIteratorNext
        rw [if_neg some, run]
        exact if_neg going
      · rw [unread, ahead.unread_eq]
        rfl

end calls

/-- The iterator returns the entries: with the terminator behind them their bytes are the slice of
the packet. It reads the slice up to its end and returns no more. -/
structure McEntityMetadataPacket.Iterates (validators : Validators) (V : Int → List UInt8 → Prop)
    (protocol : Int) (packet : McEntityMetadataPacket) (iterator last : McEntityMetadataIterator)
    (records : List (McEntityMetadataEntry × List UInt8)) : Prop where
  made : mcEntityMetadataIterator packet protocol = some iterator
  start : packet.entries = iterator.unread ++ [metadataTerminator protocol]
  takes : Takes (mcEntityMetadataIteratorNext validators) McEntityMetadataIterator.unread iterator
    records last
  each : ∀ record ∈ records, IsMetadataEntry V protocol record.1 record.2
  count : records.length = packet.entryCount
  finish : last.unread = [] ∧ last.reader.unread = []
  stops : mcEntityMetadataIteratorNext validators last = (none, last)

theorem McEntityMetadataPacket.Holds.iterates {packet : McEntityMetadataPacket}
    {records : List (McEntityMetadataEntry × List UInt8)}
    (supported : mcProtocolSupported protocol = true)
    (values : ∀ type, Accepts .strict (skipMetadataValue validators protocol type).run
      fun _ bytes => V type bytes)
    (holds : packet.Holds V protocol records) :
    ∃ iterator last, packet.Iterates validators V protocol iterator last records := by
  obtain ⟨each, count, few, entries, terminated⟩ := holds
  have good : ¬ (mcProtocolSupported protocol = false ∨ packet.terminated = false
      ∨ mcMaxEntityMetadataEntries < packet.entryCount ∨ packet.entries = []) := by
    rw [supported, terminated, entries]
    rintro (unknown | open_ | many | nothing)
    · cases unknown
    · cases open_
    · omega
    · simp at nothing
  obtain ⟨iterator, made, ahead⟩ : ∃ iterator, mcEntityMetadataIterator packet protocol =
      some iterator ∧ iterator.Ahead V protocol records := by
    unfold mcEntityMetadataIterator
    rw [if_neg good]
    cases records with
    | nil =>
        have whole : (sliceReader packet.entries).Ahead [[metadataTerminator protocol]] := by
          rw [entries]
          exact sliceReader_ahead [[metadataTerminator protocol]]
        have none : packet.entryCount = 0 := count
        rw [if_pos none, atTerminator_eq_some whole]
        exact ⟨_, rfl, rfl, whole.advance, rfl, nofun⟩
    | cons record rest =>
        have whole : (sliceReader packet.entries).Ahead (withTerminator protocol (record :: rest)) := by
          have same : packet.entries = (withTerminator protocol (record :: rest)).flatten := by
            rw [entries, withTerminator]
            simp
          rw [same]
          exact sliceReader_ahead _
        rw [if_neg (by rw [count]; exact Nat.succ_ne_zero _)]
        exact ⟨_, rfl, rfl, whole, count, each⟩
  obtain ⟨last, takes, stop⟩ := Iteration.takes_of_parts
    (fun records (iterator : McEntityMetadataIterator) => iterator.Ahead V protocol records)
    (fun entry part rest iterator ahead => mcEntityMetadataIteratorNext_part values ahead) ahead
  refine ⟨iterator, last, made, ?_, takes, each, count.symm, ⟨stop.unread_eq, stop.reader.unread⟩,
    mcEntityMetadataIteratorNext_stop stop⟩
  rw [ahead.unread_eq]
  exact entries

end grammar

/-- Whatever strict mode accepts the iterator goes through: it returns as many entries as the packet
counts, they lie in the slice one after the other, the terminator is all that follows the last, and
there the iterator stops. -/
theorem metadataIterator_agrees (library : PacketLibrary) (arguments : McDecodeArguments)
    (error : Option McError) (generated : library.validators.IsLocal arguments.protocol)
    (packet : McEntityMetadataPacket)
    (accepted : (mcDecodePacket library { arguments with mode := 1 } error).packet =
      some (.metadata packet)) :
    ∃ V, (∀ type, Accepts .strict (skipMetadataValue library.validators arguments.protocol type).run
        fun _ bytes => V type bytes) ∧
      ∃ iterator last records,
        packet.Iterates library.validators V arguments.protocol iterator last records := by
  obtain ⟨after, accepted⟩ := mcDecodePacket_accepted accepted
  have exists_grammar (type : Int) : ∃ G : Unit → List UInt8 → Prop,
      Accepts .strict (skipMetadataValue library.validators arguments.protocol type).run G :=
    Local.skipMetadataValue generated type
  choose V values using exists_grammar
  have values (type : Int) : Accepts .strict (skipMetadataValue library.validators
    arguments.protocol type).run fun _ bytes => V type () bytes := values type
  obtain ⟨G, accepts, holds⟩ := returns_typedDecodeMetadata values
  have decoded := accepted.decoded
  dsimp only [McTypedPacket.DecodedBy] at decoded
  have derived := accepts.payload (show _ = McDecodeMode.strict from rfl) decoded accepted.whole
  obtain ⟨records, holds⟩ := holds _ _ derived
  obtain ⟨iterator, last, iterates⟩ := holds.iterates accepted.supported values
  exact ⟨fun type => V type (), values, iterator, last, records, iterates⟩

/-- A short and an empty item, in the metadata of 1.8. -/
theorem metadataIterator_agrees_item :
    let library := plainLibrary ["entity_metadata"] 40 (by decide)
    ∃ V, (∀ type, Accepts .strict (skipMetadataValue library.validators 47 type).run
        fun _ bytes => V type bytes) ∧
      ∃ iterator last records,
        (⟨5, 2, [0x21, 0, 7, 0xaa, 255, 255, 0x7f], true⟩ : McEntityMetadataPacket).Iterates
          library.validators V 47 iterator last records :=
  metadataIterator_agrees (plainLibrary ["entity_metadata"] 40 (by decide))
    (playArguments 47 1 0 1 [5, 0x21, 0, 7, 0xaa, 255, 255, 0x7f] 40) none
    ⟨.refused fun _ => rfl, .refused fun _ => rfl, .refused fun _ => rfl⟩ _ (by decide +kernel)

end McProtocol
