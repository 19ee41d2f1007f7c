import McProtocol.Locality
import McProtocol.RoundTrip
import McProtocol.Typed.Item

/-! # Items on the wire

What strict mode reads as an item. The generated validators of components are other code: all
that is used of them is what their bytes look like.
-/

namespace McProtocol

namespace Local

variable {mode : McDecodeMode}

theorem uuid : Local mode mcReaderUuid.run := by
  refine refuseFailed.bind fun _ => (bytes 16).bind fun taken => ?_
  beta_reduce
  split_ifs
  · exact pure _
  · exact refused fun _ => rfl

theorem position (protocol : Int) : Local mode (mcReaderPosition protocol).run :=
  refuseFailed.bind fun _ => ite readerFailProtocol (u64.bind fun _ => ite (pure _) (pure _))

theorem readNonempty (maxSize : Nat) : Local mode (McProtocol.readNonempty maxSize).run :=
  (stringBounded maxSize).bind fun _ => require.bind fun _ => pure _

theorem orVerdict {α : Type} (verdict : Except McErrorCode α) :
    Local mode (McProtocol.orVerdict verdict).run := by
  cases verdict with
  | ok value => exact pure value
  | error code => exact reject code 0

theorem typedValidateGzipNbt (zlib : Zlib) (compressed : List UInt8) :
    Local mode (McProtocol.typedValidateGzipNbt zlib compressed).run :=
  (rejectWhen 0).bind fun _ => (orVerdict _).bind fun _ => rejectWhen 0

end Local

section layouts

variable {mode : McDecodeMode} (validators : Validators) (protocol : Int)

theorem Local.readGzipNbt : Local mode (validators.readGzipNbt protocol).run :=
  .bind .i16 fun size => .bind (.rejectWhen 0) fun _ =>
    .ite (.bind (.bytes size.toNat) fun nbt => .bind (.typedValidateGzipNbt _ nbt) fun _ => .pure _)
      (.pure _)

theorem Local.readShortItem (wireKind : McItemWireKind) :
    Local mode (validators.readShortItem protocol wireKind).run :=
  .bind .u16 fun _ => .ite (.pure _) (.bind (.orInvalid (.bind .require fun _ => .bind .u8 fun _ =>
    .bind .require fun _ => .bind (.ite .u16 (.pure _)) fun _ => .pure _)) fun _ =>
      .bind (.ite (.readGzipNbt validators protocol) (.bind (.nbt true) fun _ => .pure _)) fun _ =>
        .pure _)

theorem Local.readFlaggedItem (wireKind : McItemWireKind) :
    Local mode (McProtocol.readFlaggedItem protocol wireKind).run :=
  .bind .bool fun _ => .ite (.pure _) (.bind (.orInvalid (.bind .varint fun _ => .bind .u8 fun _ =>
    .bind .require fun _ => .bind (.nbt _) fun _ => .pure _)) fun _ => .pure _)

end layouts

/-- An entry with a value behind its length. -/
def IsPrefixed (T : List UInt8 → Prop) (entry : List UInt8) : Prop :=
  ∃ type value, T type ∧ value.length ≤ int32Max ∧
    entry = type ++ (encodeVarint value.length ++ value)

/-- An entry of the added components: an untrusted value is read by its length. -/
def IsAdded (T C : List UInt8 → Prop) (wireKind : McItemWireKind) (entry : List UInt8) : Prop :=
  if wireKind = .untrusted then IsPrefixed T entry else C entry

/-- The component patch of an item: the types `T` and the components `C` of the release, first
what is added, then what is removed. -/
structure IsPatch (T C : List UInt8 → Prop) (wireKind : McItemWireKind) (item : McItemStackView)
    (added removed : List (List UInt8)) : Prop where
  added_length : added.length = item.addedComponentCount
  removed_length : removed.length = item.removedComponentCount
  few : added.length + removed.length ≤ mcMaxItemComponentCount
  each_added : ∀ entry ∈ added, IsAdded T C wireKind entry
  each_removed : ∀ entry ∈ removed, T entry
  components_eq : item.components = (added ++ removed).flatten
  wireKind_eq : item.wireKind = wireKind
  prefixed_eq : item.componentValuesLengthPrefixed = decide (wireKind = .untrusted)

section patches

variable {validators : Validators} {protocol : Int} {T C : List UInt8 → Prop}

theorem accepts_readRemoved
    (types : Accepts .strict (validators.typedReadComponentType protocol).run fun _ bytes => T bytes)
    (count : Int) :
    Accepts .strict (validators.readRemoved protocol count).run fun _ bytes =>
      ∃ entries : List (List UInt8), entries.length = count.toNat ∧ (∀ entry ∈ entries, T entry) ∧
        bytes = entries.flatten :=
  (types.iterate count.toNat).rescue _

theorem accepts_readAdded (wireKind : McItemWireKind)
    (types : Accepts .strict (validators.typedReadComponentType protocol).run fun _ bytes => T bytes)
    (components : Accepts .strict (validators.skipSlotComponent protocol 0).run fun _ bytes => C bytes)
    (count : Int) :
    Accepts .strict (validators.readAdded protocol wireKind count).run fun _ bytes =>
      ∃ entries : List (List UInt8), entries.length = count.toNat ∧
        (∀ entry ∈ entries, IsAdded T C wireKind entry) ∧ bytes = entries.flatten := by
  by_cases untrusted : wireKind = .untrusted
  · simp only [Validators.readAdded, IsAdded, if_pos untrusted]
    refine ((types.bind fun _ => accepts_bufferVarint.bind fun _ => .pure ()).congr
      fun _ bytes => ⟨?_, ?_⟩).iterate count.toNat |>.rescue _
    · rintro ⟨_, type, _, rfl, known, value, _, _, rfl, ⟨short, rfl⟩, -, rfl⟩
      exact ⟨type, value, known, short, by rw [List.append_nil]⟩
    · rintro ⟨type, value, known, short, rfl⟩
      exact ⟨(), type, _, rfl, known, value, _, [], (List.append_nil _).symm, ⟨short, rfl⟩, rfl, rfl⟩
  · simp only [Validators.readAdded, IsAdded, if_neg untrusted]
    exact components.iterate count.toNat

/-- An item with a patch. -/
def patchedItem (wireKind : McItemWireKind) (itemId count added removed : Int)
    (components : List UInt8) : McItemStackView :=
  { McItemStackView.absent wireKind with
    present := true
    componentValuesLengthPrefixed := decide (wireKind = .untrusted)
    itemId := itemId
    count := count
    addedComponentCount := added.toNat
    removedComponentCount := removed.toNat
    components := components }

/-- What stands behind the counts of an item. -/
theorem returns_patch (wireKind : McItemWireKind)
    (types : Accepts .strict (validators.typedReadComponentType protocol).run fun _ bytes => T bytes)
    (components : Accepts .strict (validators.skipSlotComponent protocol 0).run fun _ bytes => C bytes)
    {added removed : Int} (natural : 0 ≤ added ∧ 0 ≤ removed)
    (few : added + removed ≤ mcMaxItemComponentCount) (itemId count : Int) :
    Returns .strict (mcReaderOffset.run >>= fun start =>
        (validators.readAdded protocol wireKind added).run >>= fun _ =>
          (validators.readRemoved protocol removed).run >>= fun _ =>
            (readSince start).run >>= fun components => Pure.pure
              (patchedItem wireKind itemId count added removed components))
      fun item => ∃ addedEntries removedEntries,
        IsPatch T C wireKind item addedEntries removedEntries := by
  have sliced := Accepts.slicedWith
    (f := fun (_ : Unit) slice => patchedItem wireKind itemId count added removed slice)
    ((accepts_readAdded wireKind types components added).bind fun _ =>
      accepts_readRemoved types removed)
  simp only [Prog.bind_assoc] at sliced
  refine ⟨_, sliced, ?_⟩
  rintro item _ ⟨-, ⟨-, _, _, rfl, ⟨addedEntries, addedLength, eachAdded, rfl⟩, removedEntries,
    removedLength, eachRemoved, rfl⟩, rfl⟩
  exact ⟨addedEntries, removedEntries, addedLength, removedLength, by omega, eachAdded, eachRemoved,
    List.flatten_append.symm, rfl, rfl⟩

theorem returns_readComponentItem (wireKind : McItemWireKind)
    (types : Accepts .strict (validators.typedReadComponentType protocol).run fun _ bytes => T bytes)
    (components : Accepts .strict (validators.skipSlotComponent protocol 0).run
      fun _ bytes => C bytes) :
    Returns .strict (validators.readComponentItem protocol wireKind).run fun item =>
      item.present = true → ∃ added removed, IsPatch T C wireKind item added removed := by
  refine Returns.bind (Local.returns (.ite .i8 .varint)) fun count _ => ?_
  refine (Returns.rejectWhen 0).bind fun _ _ => ?_
  refine .ite (fun _ => .pure (a := McItemStackView.absent wireKind) nofun) fun _ => ?_
  refine Returns.bind (P := fun counts : Int × Int × Int => (0 ≤ counts.2.1 ∧ 0 ≤ counts.2.2) ∧
    counts.2.1 + counts.2.2 ≤ mcMaxItemComponentCount) (.orInvalid ?_) ?_
  · refine Local.varint.returns.bind fun itemId _ => Local.varint.returns.bind fun added _ =>
      Local.varint.returns.bind fun removed _ => Returns.require.bind fun _ _ =>
        (Returns.rejectWhen 0).bind fun _ small => (Returns.rejectWhen 0).bind fun _ small' =>
          Returns.require.bind fun _ few => .pure ?_
    rw [not_or, not_lt, not_lt] at small small'
    exact ⟨⟨small.1, small'.1⟩, few⟩
  · rintro ⟨itemId, added, removed⟩ ⟨natural, few⟩
    obtain ⟨G, accepts, holds⟩ := returns_patch wireKind types components natural few itemId count
    exact ⟨G, accepts, fun item bytes derived _ => holds item bytes derived⟩

/-- A count of at most 127 is one byte. -/
theorem encodeVarint_count {count : Int} (few : 0 ≤ count ∧ count ≤ 127) :
    encodeVarint count = [toByte count] := by
  have byte := toNat_toByte few.1 (by omega)
  have small : (toByte count).toNat < 128 := by omega
  have code : IsVarint .strict (toByte count).toNat [toByte count] := isVarint_byte small
  have single := code.strict
  rw [byte] at single
  exact single.symm

theorem reads_readRemoved {mode : McDecodeMode} {entries : List (List UInt8)}
    (each : ∀ entry ∈ entries, Reads mode (validators.typedReadComponentType protocol).run () entry) :
    Reads mode (validators.readRemoved protocol entries.length).run () entries.flatten :=
  Reads.rescue (Reads.iterate each)

/-- An item with a patch, whose entries are those that are announced. -/
theorem reads_readComponentItem {mode : McDecodeMode} {wireKind : McItemWireKind}
    {itemId count added removed : Int} {addedBytes removedBytes : List UInt8}
    (few : 0 < count ∧ count ≤ 127) (int : IsInt32 itemId) (named : 0 < itemId)
    (natural : 0 ≤ added ∧ 0 ≤ removed) (together : added + removed ≤ mcMaxItemComponentCount)
    (adds : Reads mode (validators.readAdded protocol wireKind added).run () addedBytes)
    (removes : Reads mode (validators.readRemoved protocol removed).run () removedBytes) :
    Reads mode (validators.readComponentItem protocol wireKind).run
      (patchedItem wireKind itemId count added removed (addedBytes ++ removedBytes))
      (encodeVarint count ++ (encodeVarint itemId ++ (encodeVarint added ++ (encodeVarint removed ++
        (addedBytes ++ removedBytes))))) := by
  have few' : 0 ≤ count ∧ count ≤ 127 := by omega
  have there : ¬ count = 0 := by omega
  have small : (mcMaxItemComponentCount : Int) = 256 := rfl
  have counted : Reads mode (if wireKind = .full ∧ protocol = 766 then mcReaderI8
      else mcReaderVarint : DecodeM protocol Int).run count (encodeVarint count) := by
    split_ifs
    · rw [encodeVarint_count few']
      exact .i8 (by omega) (by omega)
    · exact .varint ⟨by omega, by omega⟩
  have both : Reads mode ((validators.readAdded protocol wireKind added).run >>= fun _ =>
      (validators.readRemoved protocol removed).run) () (addedBytes ++ removedBytes) :=
    adds.bind removes
  have patch := both.slicedWith
    (f := fun (_ : Unit) slice => patchedItem wireKind itemId count added removed slice)
  simp only [Prog.bind_assoc] at patch
  unfold Validators.readComponentItem
  refine .bind counted (.after (.typedRequire few') ?_)
  simp only [if_neg there]
  have header : Reads mode (DecodeM.orInvalid (do
      let itemId ← mcReaderVarint
      let added ← mcReaderVarint
      let removed ← mcReaderVarint
      require (0 < itemId)
      typedCount added mcMaxItemComponentCount
      typedCount removed mcMaxItemComponentCount
      require (added + removed ≤ mcMaxItemComponentCount)
      pure (itemId, added, removed) : DecodeM protocol (Int × Int × Int))).run
      (itemId, added, removed)
      (encodeVarint itemId ++ (encodeVarint added ++ encodeVarint removed)) :=
    .rescue (.bind (.varint int) (.bind (.varint ⟨by omega, by omega⟩)
      (.thenPure (.varint ⟨by omega, by omega⟩) (.after (.require named)
        (.after (.typedCount natural.1 (by omega)) (.after (.typedCount natural.2 (by omega))
          (.after (.require together) (.pure _))))))))
  refine Reads.of_eq (.bind header patch) ?_
  simp only [List.append_assoc]

theorem Local.readRemoved
    (types : Local .strict (validators.typedReadComponentType protocol).run) (count : Int) :
    Local .strict (validators.readRemoved protocol count).run :=
  .orInvalid (.iterate (fun _ => types) count.toNat ())

theorem returns_readHashedItem
    (types : Local .strict (validators.typedReadComponentType protocol).run) :
    Returns .strict (validators.readHashedItem protocol).run fun item => item.wireKind = .hashed := by
  refine Returns.bind Local.bool.returns fun _ _ => .ite
    (fun _ => .pure (a := McItemStackView.absent .hashed) rfl) fun _ =>
      Returns.bind (Local.returns (.orInvalid (.bind .varint fun itemId => .bind .varint fun count =>
        .bind .varint fun added => .bind .require fun _ => .bind (.rejectWhen 0) fun _ =>
          .pure _))) ?_
  rintro ⟨itemId, count, added⟩ -
  have hashes : Local .strict (DecodeM.orInvalid (.iterate (fun _ => do
      validators.typedReadComponentType protocol
      let _ ← mcReaderI32) added.toNat () : DecodeM protocol Unit)).run :=
    .orInvalid (.iterate (fun _ => types.bind fun _ => .bind .i32 fun _ => .pure ()) added.toNat ())
  have counted : Local .strict (DecodeM.orInvalid (do
      let removed ← mcReaderVarint
      typedCount removed mcMaxItemComponentCount
      McProtocol.require (added + removed ≤ mcMaxItemComponentCount)
      Pure.pure removed : DecodeM protocol Int)).run :=
    .orInvalid (.bind .varint fun _ => .bind (.rejectWhen 0) fun _ => .bind .require fun _ =>
      .pure _)
  obtain ⟨G, accepts⟩ := hashes.bind fun _ => counted.bind fun removed =>
    .bind (.readRemoved types removed) fun _ => .pure removed
  have sliced := accepts.slicedWith
    (f := fun (removed : Int) components =>
      { McItemStackView.absent .hashed with
        present := true
        itemId := itemId
        count := count
        addedComponentCount := added.toNat
        removedComponentCount := removed.toNat
        components := components })
  simp only [Prog.bind_assoc, Prog.pure_bind] at sliced
  refine ⟨_, sliced, ?_⟩
  rintro item _ ⟨removed, -, rfl⟩
  rfl

/-- What strict mode reads as an item: the item says which bytes it was, and from 766 on its
patch is the one of its bytes. -/
theorem accepts_itemStack (wireKind : McItemWireKind)
    (types : Accepts .strict (validators.typedReadComponentType protocol).run fun _ bytes => T bytes)
    (components : Accepts .strict (validators.skipSlotComponent protocol 0).run
      fun _ bytes => C bytes) :
    ∃ G : McItemStackView → List UInt8 → Prop,
      Accepts .strict (validators.mcReaderItemStack protocol wireKind).run G ∧
      ∀ item bytes, G item bytes → item.encoded = bytes ∧
        (wireKind = .hashed → item.wireKind = .hashed) ∧
        (wireKind ≠ .hashed → 766 ≤ protocol → item.present = true →
          ∃ added removed, IsPatch T C wireKind item added removed) := by
  obtain ⟨L, layout, patched⟩ : Returns .strict (if wireKind = .hashed then
        validators.readHashedItem protocol
      else if protocol ≤ 401 then validators.readShortItem protocol wireKind
      else if protocol < 766 then readFlaggedItem protocol wireKind
      else validators.readComponentItem protocol wireKind).run fun item =>
        (wireKind = .hashed → item.wireKind = .hashed) ∧
        (wireKind ≠ .hashed → 766 ≤ protocol → item.present = true →
          ∃ added removed, IsPatch T C wireKind item added removed) := by
    split_ifs with hashed short flagged
    · obtain ⟨G, accepts, holds⟩ := returns_readHashedItem types.isLocal
      exact ⟨G, accepts, fun item bytes derived =>
        ⟨fun _ => holds item bytes derived, fun other => absurd hashed other⟩⟩
    · obtain ⟨G, accepts⟩ : Local .strict (validators.readShortItem protocol wireKind).run :=
        Local.readShortItem validators protocol wireKind
      exact ⟨G, accepts, fun _ _ _ => ⟨fun now => absurd now hashed, fun _ late => by omega⟩⟩
    · obtain ⟨G, accepts⟩ : Local .strict (readFlaggedItem protocol wireKind).run :=
        Local.readFlaggedItem protocol wireKind
      exact ⟨G, accepts, fun _ _ _ => ⟨fun now => absurd now hashed, fun _ late => by omega⟩⟩
    · obtain ⟨G, accepts, holds⟩ := returns_readComponentItem wireKind types components
      exact ⟨G, accepts, fun item bytes derived =>
        ⟨fun now => absurd now hashed, fun _ _ => holds item bytes derived⟩⟩
  unfold Validators.mcReaderItemStack
  by_cases supported : mcProtocolSupported protocol = false
  · simp only [if_pos supported]
    refine ⟨_, accepts_refuseFailed.bind fun _ => .refused fun _ => rfl, ?_⟩
    rintro item _ ⟨_, _, _, -, -, impossible⟩
    exact impossible.elim
  · simp only [if_neg supported]
    refine ⟨_, accepts_refuseFailed.bind fun _ =>
      layout.slicedWith (f := fun item encoded => { item with encoded := encoded }), ?_⟩
    rintro item _ ⟨_, _, tail, rfl, rfl, decoded, derived, rfl⟩
    obtain ⟨kind, patched⟩ := patched decoded tail derived
    refine ⟨rfl, kind, fun other late present => ?_⟩
    obtain ⟨added, removed, patch⟩ := patched other late present
    exact ⟨added, removed, patch.added_length, patch.removed_length, patch.few, patch.each_added,
      patch.each_removed, patch.components_eq, patch.wireKind_eq, patch.prefixed_eq⟩

end patches

end McProtocol
