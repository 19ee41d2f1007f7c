import McProtocol.Typed.ItemViews
import McProtocol.Typed.PlainItems

/-! # Untrusted items, built and read

A player sends an item with its components, each with the length of its value in front. The builder,
the parser and the iterator are compared on the records of the patch: a component and the bytes that
stand for it.
-/

namespace McProtocol

open Iteration (Yields call)

/-- Writes with one argument each, which is checked. -/
theorem Emits.writeEach {α : Type} {write : α → WriteM Unit} {P : α → Prop}
    {code : α → List UInt8} (each : ∀ item, Emits (write item) fun bytes => P item ∧ bytes = code item)
    (items : List α) :
    Emits (McProtocol.writeEach write items) fun bytes =>
      (∀ item ∈ items, P item) ∧ bytes = (items.map code).flatten := by
  induction items with
  | nil =>
      refine Emits.congr .pure fun bytes => ⟨?_, And.right⟩
      rintro rfl
      exact ⟨nofun, rfl⟩
  | cons item items ih =>
      refine Emits.congr (.bind (each item) ih) fun bytes => ⟨?_, ?_⟩
      · rintro ⟨_, _, rfl, ⟨valid, rfl⟩, all, rfl⟩
        exact ⟨List.forall_mem_cons.mpr ⟨valid, all⟩, rfl⟩
      · rintro ⟨all, rfl⟩
        obtain ⟨valid, all⟩ := List.forall_mem_cons.mp all
        exact ⟨_, _, rfl, ⟨valid, rfl⟩, all, rfl⟩

/-- A component that is added, as the iterator shows it, and its bytes. -/
def McItemComponentPatch.record (patch : McItemComponentPatch) :
    McItemComponentView × List UInt8 :=
  (⟨patch.typeId, patch.data.content, false⟩,
    encodeVarint patch.typeId ++
      (encodeVarint patch.data.content.length ++ patch.data.content))

/-- A component that is removed, and its bytes. -/
def removedRecord (typeId : Int) : McItemComponentView × List UInt8 :=
  (⟨typeId, [], true⟩, encodeVarint typeId)

theorem Buffer.size_eq {data : Buffer} (there : ¬ data.Missing) : data.size = data.content.length := by
  cases data with
  | null size => exact not_not.mp there
  | bytes content => rfl

theorem emits_packetAddedComponent (patch : McItemComponentPatch) :
    Emits (packetAddedComponent patch) fun bytes =>
      (0 ≤ patch.typeId ∧ patch.data.content.length ≤ int32Max ∧ ¬ patch.data.Missing) ∧
        bytes = patch.record.2 := by
  refine Emits.congr (.checked (.bind (.varint _) (.sized (.varint _) patch.data)))
    fun bytes => ⟨?_, ?_⟩
  · rintro ⟨good, _, _, rfl, rfl, short, there, rfl⟩
    rw [not_or, not_lt] at good
    have size := Buffer.size_eq there
    rw [size] at short
    refine ⟨⟨good.1, short, there⟩, ?_⟩
    rw [size]
    rfl
  · rintro ⟨⟨natural, short, there⟩, rfl⟩
    have size := Buffer.size_eq there
    rw [← size] at short
    refine ⟨?_, _, _, rfl, rfl, short, there, by rw [size]⟩
    rintro (negative | long | missing)
    · omega
    · omega
    · exact there missing

theorem emits_packetRemovedComponent (typeId : Int) :
    Emits (packetRemovedComponent typeId) fun bytes =>
      0 ≤ typeId ∧ bytes = (removedRecord typeId).2 :=
  Emits.congr (.checked (.varint typeId)) fun _ => by
    rw [not_lt]
    rfl

section built

variable {protocol itemId count : Int} {added : Items McItemComponentPatch} {removed : Items Int}

theorem Items.count_eq {α : Type} {items : Items α} (there : ¬ items.Missing) :
    items.count = items.items.length := by
  cases items with
  | null count => exact not_not.mp there
  | list items => rfl

/-- The bytes of all entries. -/
def patchBytes (added : List McItemComponentPatch) (removed : List Int) : List UInt8 :=
  ((added.map McItemComponentPatch.record ++ removed.map removedRecord).map Prod.snd).flatten

/-- The bytes of an item with a patch. -/
def untrustedItemBytes (itemId count : Int) (added : List McItemComponentPatch)
    (removed : List Int) : List UInt8 :=
  encodeVarint count ++ (encodeVarint itemId ++ (encodeVarint added.length ++
    (encodeVarint removed.length ++ patchBytes added removed)))

/-- What the builder writes where there is an item. -/
theorem emits_untrustedComponentItem (some : count ≠ 0) :
    Emits (mcPacketUntrustedComponentItem protocol itemId count added removed) fun bytes =>
      mcProtocolSupported protocol = true ∧ 770 ≤ protocol ∧ (0 ≤ count ∧ count ≤ 127) ∧
        0 < itemId ∧ (added.count ≤ int32Max ∧ removed.count ≤ int32Max) ∧
        (¬ added.Missing ∧ ¬ removed.Missing) ∧
        (∀ patch ∈ added.items, 0 ≤ patch.typeId ∧ patch.data.content.length ≤ int32Max ∧
          ¬ patch.data.Missing) ∧
        (∀ typeId ∈ removed.items, 0 ≤ typeId) ∧
        bytes = untrustedItemBytes itemId count added.items removed.items := by
  refine Emits.congr (.checked (.bind (.varint count) (.when (.bind (.varint itemId)
    (.bind (.varint _) (.bind (.varint _) (.bind
      (.writeEach emits_packetAddedComponent added.items)
      (.writeEach emits_packetRemovedComponent removed.items)))))))) fun bytes => ⟨?_, ?_⟩
  · simp only [if_pos some]
    rintro ⟨good, _, _, rfl, rfl, _, _, rfl, rfl, _, _, rfl, rfl, _, _, rfl, rfl, _, _, rfl,
      ⟨eachAdded, rfl⟩, eachRemoved, rfl⟩
    simp only [not_or, not_and, not_lt, not_le, Bool.not_eq_false] at good
    obtain ⟨supported, late, natural, few, named, short, short', there, there'⟩ := good
    refine ⟨supported, late, ⟨natural, few⟩, named some, ⟨short, short'⟩, ⟨there, there'⟩, eachAdded,
      eachRemoved, ?_⟩
    rw [untrustedItemBytes, patchBytes, Items.count_eq there, Items.count_eq there']
    simp only [List.map_append, List.map_map, List.flatten_append]
    rfl
  · simp only [if_pos some]
    rintro ⟨supported, late, ⟨natural, few⟩, named, ⟨short, short'⟩, ⟨there, there'⟩, eachAdded,
      eachRemoved, rfl⟩
    refine ⟨?_, _, _, rfl, rfl, _, _, rfl, rfl, _, _, rfl, ?_, _, _, rfl, ?_, _, _, ?_,
      ⟨eachAdded, rfl⟩, eachRemoved, rfl⟩
    · simp only [not_or, not_and, not_lt, not_le, Bool.not_eq_false]
      exact ⟨supported, late, natural, few, fun _ => named, short, short', there, there'⟩
    · rw [Items.count_eq there]
    · rw [Items.count_eq there']
    · rw [patchBytes]
      simp only [List.map_append, List.map_map, List.flatten_append]
      rfl

end built

section read

variable {validators : Validators} {protocol : Int} {known : Int → Prop}
variable {added : List McItemComponentPatch} {removed : List Int}

/-- A type id that the release knows. -/
def IsKnown (known : Int → Prop) (typeId : Int) : Prop := IsInt32 typeId ∧ known typeId

instance {known : Int → Prop} [DecidablePred known] : DecidablePred (IsKnown known) := fun _ =>
  inferInstanceAs (Decidable (_ ∧ _))

theorem McItemComponentPatch.record_isComponent {patch : McItemComponentPatch}
    {value : Int → List UInt8 → Prop} (isKnown : IsKnown known patch.typeId)
    (short : patch.data.content.length ≤ int32Max) :
    IsComponent known value true patch.record.1 patch.record.2 :=
  .sized rfl isKnown.2 (isVarint_strict.mpr ⟨isKnown.1, rfl⟩) short

theorem removedRecord_isComponent {typeId : Int} {value : Int → List UInt8 → Prop}
    {lengths : Bool} (isKnown : IsKnown known typeId) :
    IsComponent known value lengths (removedRecord typeId).1 (removedRecord typeId).2 :=
  .removed isKnown.2 (isVarint_strict.mpr ⟨isKnown.1, rfl⟩)

section types

variable (types : Accepts .strict (validators.skipSlotComponentType protocol 0).run
  fun _ bytes => IsType known bytes)

include types

theorem reads_knownType {typeId : Int} (isKnown : IsKnown known typeId) :
    Reads .strict (validators.typedReadComponentType protocol).run () (encodeVarint typeId) :=
  types.complete ⟨typeId, isKnown.2, isVarint_strict.mpr ⟨isKnown.1, rfl⟩⟩

theorem reads_addedRecords (isKnown : ∀ patch ∈ added, IsKnown known patch.typeId)
    (short : ∀ patch ∈ added, patch.data.content.length ≤ int32Max) :
    Reads .strict (validators.readAdded protocol .untrusted added.length).run ()
      (added.map fun patch => patch.record.2).flatten := by
  have rounds : Reads .strict (Prog.iterate (fun _ => (do
      validators.typedReadComponentType protocol
      let _ ← mcReaderBufferVarint : DecodeM protocol Unit).run)
      (added.map fun patch => patch.record.2).length ()) ()
      (added.map fun patch => patch.record.2).flatten := by
    refine .iterate fun part mem => ?_
    obtain ⟨patch, found, rfl⟩ := List.mem_map.mp mem
    exact .bind (reads_knownType types (isKnown patch found))
      (.thenPure (accepts_bufferVarint.complete ⟨short patch found, rfl⟩) (.pure ()))
  rw [List.length_map] at rounds
  exact rounds.rescue

theorem reads_removedRecords (isKnown : ∀ typeId ∈ removed, IsKnown known typeId) :
    Reads .strict (validators.readRemoved protocol removed.length).run ()
      (removed.map fun typeId => (removedRecord typeId).2).flatten := by
  have rounds : Reads .strict (validators.readRemoved protocol
      (removed.map fun typeId => (removedRecord typeId).2).length).run ()
      (removed.map fun typeId => (removedRecord typeId).2).flatten := by
    refine reads_readRemoved fun part mem => ?_
    obtain ⟨typeId, found, rfl⟩ := List.mem_map.mp mem
    exact reads_knownType types (isKnown typeId found)
  rw [List.length_map] at rounds
  exact rounds

end types

/-- The item that is read from the bytes of a patch. -/
def untrustedItem (itemId count : Int) (added : List McItemComponentPatch)
    (removed : List Int) : McItemStackView :=
  { patchedItem .untrusted itemId count added.length removed.length (patchBytes added removed) with
    encoded := untrustedItemBytes itemId count added removed }

theorem reads_untrustedItem
    (types : Accepts .strict (validators.skipSlotComponentType protocol 0).run
      fun _ bytes => IsType known bytes) {itemId count : Int}
    (supported : mcProtocolSupported protocol = true) (late : 770 ≤ protocol)
    (some : 0 < count ∧ count ≤ 127) (int : IsInt32 itemId) (named : 0 < itemId)
    (addedKnown : ∀ patch ∈ added, IsKnown known patch.typeId)
    (removedKnown : ∀ typeId ∈ removed, IsKnown known typeId)
    (short : ∀ patch ∈ added, patch.data.content.length ≤ int32Max)
    (together : added.length + removed.length ≤ mcMaxItemComponentCount) :
    Reads .strict (validators.mcReaderItemStack protocol .untrusted).run
      (untrustedItem itemId count added removed)
      (untrustedItemBytes itemId count added removed) := by
  have patch : Reads .strict (validators.readComponentItem protocol .untrusted).run _ _ :=
    reads_readComponentItem some int named
      ⟨Int.natCast_nonneg added.length, Int.natCast_nonneg removed.length⟩ (by omega)
      (reads_addedRecords types addedKnown short) (reads_removedRecords types removedKnown)
  have same : (added.map fun patch => patch.record.2).flatten ++
      (removed.map fun typeId => (removedRecord typeId).2).flatten = patchBytes added removed := by
    rw [patchBytes, List.map_append, List.map_map, List.map_map, List.flatten_append]
    rfl
  rw [same] at patch
  refine Reads.itemStack supported ?_
  simp only [if_neg (show ¬ McItemWireKind.untrusted = .hashed from nofun),
    if_neg (show ¬ protocol ≤ 401 by omega), if_neg (show ¬ protocol < 766 by omega)]
  exact patch

/-- The entries of the item are the records of the patch. -/
theorem untrustedItem_holds {itemId count : Int} {value : Int → List UInt8 → Prop}
    (addedKnown : ∀ patch ∈ added, IsKnown known patch.typeId)
    (removedKnown : ∀ typeId ∈ removed, IsKnown known typeId)
    (short : ∀ patch ∈ added, patch.data.content.length ≤ int32Max)
    (together : added.length + removed.length ≤ mcMaxItemComponentCount) :
    (untrustedItem itemId count added removed).Holds known value
      (added.map McItemComponentPatch.record) (removed.map removedRecord) := by
  refine ⟨List.length_map _, List.length_map _, ?_, rfl, ?_, ?_, ?_⟩
  · rw [List.length_map, List.length_map]
    exact together
  · intro record mem
    obtain ⟨patch, -, rfl⟩ := List.mem_map.mp mem
    rfl
  · intro record mem
    obtain ⟨typeId, -, rfl⟩ := List.mem_map.mp mem
    rfl
  · intro record mem
    cases List.mem_append.mp mem with
    | inl mem =>
        obtain ⟨patch, found, rfl⟩ := List.mem_map.mp mem
        exact patch.record_isComponent (addedKnown patch found) (short patch found)
    | inr mem =>
        obtain ⟨typeId, found, rfl⟩ := List.mem_map.mp mem
        exact removedRecord_isComponent (removedKnown typeId found)

end read

/-- The item that strict mode reads from the bytes, whatever follows them, has the id, the count
and the components that were built: the iterator returns what was added, then what was removed,
and no more. -/
structure McItemStackView.ReadsBack (item : McItemStackView) (validators : Validators)
    (protocol itemId count : Int) (added : List McItemComponentPatch) (removed : List Int)
    (bytes : List UInt8) : Prop where
  reads : Reads .strict (validators.mcReaderItemStack protocol .untrusted).run item bytes
  present : item.present = true
  itemId_eq : item.itemId = itemId
  count_eq : item.count = count
  added_count : item.addedComponentCount = added.length
  removed_count : item.removedComponentCount = removed.length
  encoded : item.encoded = bytes
  components : ∃ iterator last, mcItemComponentsIterator item protocol = some iterator ∧
    Yields validators.mcItemComponentIteratorNext iterator
      ((added.map fun patch => ⟨patch.typeId, patch.data.content, false⟩) ++
        removed.map fun typeId => ⟨typeId, [], true⟩) last ∧
    ∀ output, call validators.mcItemComponentIteratorNext last output = (false, last, output)

/-- Whatever the builder wrote is read back. -/
theorem untrustedComponentItem_roundTrip (validators : Validators) (known : Int → Prop)
    (protocol itemId count : Int) (added : Items McItemComponentPatch) (removed : Items Int)
    (packet after : McPacket)
    (types : Accepts .strict (validators.skipSlotComponentType protocol 0).run
      fun _ bytes => IsType known bytes)
    (some : 0 < count) (int : IsInt32 itemId)
    (addedKnown : ∀ patch ∈ added.items, IsKnown known patch.typeId)
    (removedKnown : ∀ typeId ∈ removed.items, IsKnown known typeId)
    (together : added.items.length + removed.items.length ≤ mcMaxItemComponentCount)
    (inside : packet.length ≤ packet.capacity)
    (built : (mcPacketUntrustedComponentItem protocol itemId count added removed).run packet =
      (.some (), after)) :
    ∃ bytes item, after = packet.append bytes ∧
      McItemStackView.ReadsBack item validators protocol itemId count added.items removed.items
        bytes := by
  obtain ⟨bytes, ⟨supported, late, ⟨-, few⟩, named, -, -, eachAdded, -, rfl⟩, -, rfl⟩ :=
    (emits_untrustedComponentItem (ne_of_gt some)).sound inside built
  have short := fun patch mem => (eachAdded patch mem).2.1
  have reads := reads_untrustedItem types supported late ⟨some, few⟩ int named addedKnown
    removedKnown short together
  have holds : (untrustedItem itemId count added.items removed.items).Holds known
      (fun _ _ => False) (added.items.map McItemComponentPatch.record)
      (removed.items.map removedRecord) :=
    untrustedItem_holds addedKnown removedKnown short together
  have parse : validators.Parse protocol true known fun _ _ => False := ⟨types, nofun⟩
  obtain ⟨iterator, last, iterates⟩ :=
    holds.iterates supported ⟨by omega, .inr ⟨rfl, late⟩, rfl⟩ parse
  have yields := iterates.takes.yields
  rw [List.map_append, List.map_map, List.map_map] at yields
  exact ⟨_, _, rfl, reads, rfl, rfl, rfl, rfl, rfl, rfl, iterator, last, iterates.made, yields,
    iterates.stops⟩

/-- A component with a value, one without, and one that is removed. -/
theorem untrustedComponentItem_roundTrip_stackSize :
    let added := [⟨1, .bytes [64]⟩, ⟨1, .bytes []⟩]
    let build := mcPacketUntrustedComponentItem 770 5 1 (.list added) (.list [1])
    ∃ bytes item, (buildPacket 32 build).2 =
        (mcPacketInit (.bytes (List.replicate 32 0))).append bytes ∧
      McItemStackView.ReadsBack item stackSizeValidators 770 5 1 added [1] bytes :=
  untrustedComponentItem_roundTrip stackSizeValidators (· = 1) 770 5 1
    (.list [⟨1, .bytes [64]⟩, ⟨1, .bytes []⟩]) (.list [1]) _ _
    (stackSizeValidators_understand 770).types (by decide) (by decide)
    (List.forall_mem_cons.mpr ⟨by decide, List.forall_mem_singleton.mpr (by decide)⟩)
    (List.forall_mem_singleton.mpr (by decide)) (by decide) (by decide)
    (Prod.ext (by decide +kernel) rfl)

end McProtocol
