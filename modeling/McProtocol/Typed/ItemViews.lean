import McProtocol.Typed.Bodies
import McProtocol.Typed.ItemGrammar

/-! # Items, components and their iterators

The items of a window and the components of an item are kept as slices. One iterator reads the
items again, the other the entries of a patch: it looks ahead for the type of an entry before it has
the validators of the release take the entry off.
-/

namespace McProtocol

open Iteration (Takes call)

structure McItemComponentView where
  typeId : Int
  data : List UInt8
  removed : Bool
  deriving Repr, DecidableEq

structure McItemComponentIterator where
  reader : McReader
  protocol : Int
  remainingAdded : Nat
  remainingRemoved : Nat
  valuesLengthPrefixed : Bool

/-- The slice of an item is never null. -/
def mcItemComponentsIterator (item : McItemStackView) (protocol : Int) :
    Option McItemComponentIterator :=
  if protocol < 766 ∨ mcProtocolSupported protocol = false
      ∨ item.wireKind ≠ .full ∧ item.wireKind ≠ .untrusted
      ∨ item.wireKind = .untrusted ∧ protocol < 770
      ∨ mcMaxItemComponentCount < item.addedComponentCount
      ∨ mcMaxItemComponentCount < item.removedComponentCount
      ∨ mcMaxItemComponentCount < item.addedComponentCount + item.removedComponentCount
      ∨ item.addedComponentCount = 0 ∧ item.removedComponentCount = 0 ∧ item.components ≠ []
      ∨ item.wireKind = .full ∧ item.componentValuesLengthPrefixed = true
      ∨ item.wireKind = .untrusted ∧ item.addedComponentCount ≠ 0
        ∧ item.componentValuesLengthPrefixed = false then none
  else some ⟨sliceReader item.components, protocol, item.addedComponentCount,
    item.removedComponentCount, item.componentValuesLengthPrefixed⟩

namespace Validators

variable (validators : Validators)

/-- A type, and behind it a value where the entry has one with its length. -/
def readTypedEntry (protocol : Int) (removed : Bool) : DecodeM protocol (List UInt8) := do
  validators.typedReadComponentType protocol
  if removed then pure [] else mcReaderBufferVarint

/-- The next entry: a copy of the reader looks ahead for its type. -/
def readComponent (iterator : McItemComponentIterator) : Option McItemComponentView × McReader :=
  let removed := decide (iterator.remainingAdded = 0)
  match mcReaderVarint.run iterator.reader with
  | (none, type) => (none, type)
  | (some typeId, type) =>
      if removed || iterator.valuesLengthPrefixed then
        match (validators.readTypedEntry iterator.protocol removed).run iterator.reader with
        | (none, reader) => (none, reader)
        | (some data, reader) => (some ⟨typeId, data, removed⟩, reader)
      else
        match (validators.skipSlotComponent iterator.protocol 0).run iterator.reader with
        | (none, reader) => (none, reader)
        | (some _, reader) => (some ⟨typeId, reader.since type.offset, removed⟩, reader)

def mcItemComponentIteratorNext (iterator : McItemComponentIterator) :
    Option McItemComponentView × McItemComponentIterator :=
  if iterator.reader.failed = true
      ∨ iterator.remainingAdded = 0 ∧ iterator.remainingRemoved = 0 then (none, iterator)
  else
    match validators.readComponent iterator with
    | (none, reader) => (none, { iterator with reader := reader })
    | (some component, reader) =>
        if iterator.remainingAdded + iterator.remainingRemoved = 1
            ∧ mcReaderRemaining reader ≠ 0 then
          (none, { iterator with reader := reader.fail .invalidPacketBody reader.offset })
        else if component.removed then
          (some component, { iterator with
            reader := reader
            remainingRemoved := iterator.remainingRemoved - 1 })
        else
          (some component, { iterator with
            reader := reader
            remainingAdded := iterator.remainingAdded - 1 })

end Validators

/-- What strict mode takes for a type of a component and for a component: first of all the id of the
type, of those that the release knows. -/
structure Validators.Understand (validators : Validators) (protocol : Int) (known : Int → Prop)
    (value : Int → List UInt8 → Prop) : Prop where
  types : Accepts .strict (validators.skipSlotComponentType protocol 0).run fun _ bytes =>
    ∃ id, known id ∧ IsVarint .strict id bytes
  components : Accepts .strict (validators.skipSlotComponent protocol 0).run fun _ bytes =>
    ∃ id head tail, bytes = head ++ tail ∧ IsVarint .strict id head ∧ value id tail

/-- What of it the entries of an item need: values with their lengths are not read. -/
structure Validators.Parse (validators : Validators) (protocol : Int) (lengths : Bool)
    (known : Int → Prop) (value : Int → List UInt8 → Prop) : Prop where
  types : Accepts .strict (validators.skipSlotComponentType protocol 0).run fun _ bytes =>
    ∃ id, known id ∧ IsVarint .strict id bytes
  components : lengths = false →
    Accepts .strict (validators.skipSlotComponent protocol 0).run fun _ bytes =>
      ∃ id head tail, bytes = head ++ tail ∧ IsVarint .strict id head ∧ value id tail

section entries

variable {validators : Validators} {protocol : Int} {known : Int → Prop}
variable {value : Int → List UInt8 → Prop}

/-- An entry of a patch: its type, and the value behind it if it is added. -/
inductive IsComponent (known : Int → Prop) (value : Int → List UInt8 → Prop) (lengths : Bool) :
    McItemComponentView → List UInt8 → Prop where
  | bare {id : Int} {head tail : List UInt8} (without : lengths = false)
      (isVarint : IsVarint .strict id head) (valid : value id tail) :
      IsComponent known value lengths ⟨id, tail, false⟩ (head ++ tail)
  | sized {id : Int} {code data : List UInt8} (with_ : lengths = true) (isKnown : known id)
      (isVarint : IsVarint .strict id code) (short : data.length ≤ int32Max) :
      IsComponent known value lengths ⟨id, data, false⟩
        (code ++ (encodeVarint data.length ++ data))
  | removed {id : Int} {code : List UInt8} (isKnown : known id)
      (isVarint : IsVarint .strict id code) : IsComponent known value lengths ⟨id, [], true⟩ code

/-- The iterator stands in front of entries: what is added comes first. -/
structure McItemComponentIterator.Ahead (iterator : McItemComponentIterator) (protocol : Int)
    (known : Int → Prop) (value : Int → List UInt8 → Prop) (lengths : Bool)
    (added removed : List (McItemComponentView × List UInt8)) : Prop where
  protocol_eq : iterator.protocol = protocol
  lengths_eq : iterator.valuesLengthPrefixed = lengths
  reader : iterator.reader.Ahead ((added ++ removed).map Prod.snd)
  added_length : iterator.remainingAdded = added.length
  removed_length : iterator.remainingRemoved = removed.length
  each_added : ∀ record ∈ added, record.1.removed = false
  each_removed : ∀ record ∈ removed, record.1.removed = true
  each : ∀ record ∈ added ++ removed, IsComponent known value lengths record.1 record.2

def McItemComponentIterator.unread (iterator : McItemComponentIterator) : List UInt8 :=
  iterator.reader.unread

section calls

variable {iterator : McItemComponentIterator} {lengths : Bool}
variable {component : McItemComponentView} {part : List UInt8}
variable {added removed rest : List (McItemComponentView × List UInt8)}

theorem mcItemComponentIteratorNext_stop
    (ahead : iterator.Ahead protocol known value lengths [] []) :
    validators.mcItemComponentIteratorNext iterator = (none, iterator) :=
  if_pos (.inr ⟨ahead.added_length, ahead.removed_length⟩)

theorem Validators.Parse.reads_type (parse : validators.Parse protocol lengths known value)
    {id : Int} {code : List UInt8} (isKnown : known id) (isVarint : IsVarint .strict id code) :
    Reads .strict (validators.typedReadComponentType protocol).run () code :=
  parse.types.complete ⟨id, isKnown, isVarint⟩

theorem reads_readTypedEntry (parse : validators.Parse protocol lengths known value) {id : Int}
    {code data : List UInt8} (isKnown : known id) (isVarint : IsVarint .strict id code)
    (short : data.length ≤ int32Max) :
    Reads .strict (validators.readTypedEntry protocol false).run data
      (code ++ (encodeVarint data.length ++ data)) :=
  .bind (parse.reads_type isKnown isVarint) (accepts_bufferVarint.complete ⟨short, rfl⟩)

theorem reads_readTypedEntry_removed (parse : validators.Parse protocol lengths known value)
    {id : Int} {code : List UInt8} (isKnown : known id) (isVarint : IsVarint .strict id code) :
    Reads .strict (validators.readTypedEntry protocol true).run [] code :=
  .thenPure (parse.reads_type isKnown isVarint) (.pure [])

/-- The entry in front of the reader is the one that is read. -/
theorem readComponent_eq
    (parse : validators.Parse protocol iterator.valuesLengthPrefixed known value)
    (protocol_eq : iterator.protocol = protocol) {behind : List (List UInt8)}
    (ahead : iterator.reader.Ahead (part :: behind))
    (isComponent : IsComponent known value iterator.valuesLengthPrefixed component part)
    (front : component.removed = decide (iterator.remainingAdded = 0)) :
    validators.readComponent iterator = (some component, iterator.reader.advance part.length) := by
  subst protocol_eq
  have before : iterator.reader.Before (part ++ behind.flatten) := ahead.before
  unfold Validators.readComponent
  dsimp only
  rw [← front]
  cases isComponent with
  | @bare id head tail without isVarint valid =>
      have type := accepts_varint.complete isVarint iterator.reader (tail ++ behind.flatten)
        ahead.strict (by rwa [← List.append_assoc])
      have ran := ahead.reads (a := ()) ((parse.components without).complete
        ⟨id, head, tail, rfl, isVarint, valid⟩)
      have same : (iterator.reader.advance (head ++ tail).length).since
          (iterator.reader.advance head.length).offset = tail := by
        have inner : (iterator.reader.advance head.length).Before (tail ++ behind.flatten) := by
          rw [List.append_assoc] at before
          exact before.advance
        have taken := inner.since
        rwa [McReader.advance_advance, ← List.length_append] at taken
      rw [type]
      dsimp only
      rw [without, if_neg (by decide), ran]
      dsimp only
      rw [same]
  | @sized id code data with_ isKnown isVarint short =>
      have type := accepts_varint.complete isVarint iterator.reader _ ahead.strict
        (by rwa [← List.append_assoc])
      rw [type]
      dsimp only
      rw [with_, if_pos (by decide), ahead.reads (reads_readTypedEntry parse isKnown isVarint
        short)]
  | @removed id code isKnown isVarint =>
      have type := accepts_varint.complete isVarint iterator.reader _ ahead.strict before
      rw [type]
      dsimp only
      rw [if_pos (Bool.true_or _), ahead.reads (reads_readTypedEntry_removed parse isKnown
        isVarint)]

theorem mcItemComponentIteratorNext_part (parse : validators.Parse protocol lengths known value)
    (ahead : iterator.Ahead protocol known value lengths added removed)
    (front : added ++ removed = (component, part) :: rest) :
    ∃ next, validators.mcItemComponentIteratorNext iterator = (some component, next) ∧
      iterator.unread = part ++ next.unread ∧
      ∃ added removed, rest = added ++ removed ∧
        next.Ahead protocol known value lengths added removed := by
  obtain ⟨protocol_eq, lengths_eq, reader, addedLength, removedLength, eachAdded, eachRemoved,
    each⟩ := ahead
  rw [front, List.map_cons] at reader
  rw [front] at each
  have isComponent := each _ List.mem_cons_self
  have rest' := fun record mem => each record (List.mem_cons_of_mem _ mem)
  have behind := reader.advance
  have total := congrArg List.length front
  rw [List.length_append, List.length_cons, ← addedLength, ← removedLength] at total
  have going : ¬ (iterator.reader.failed = true ∨
      iterator.remainingAdded = 0 ∧ iterator.remainingRemoved = 0) := by
    rintro (failed | ⟨none, none'⟩)
    · rw [reader.before.clean] at failed
      cases failed
    · omega
  have finished : ¬ (iterator.remainingAdded + iterator.remainingRemoved = 1 ∧
      mcReaderRemaining (iterator.reader.advance part.length) ≠ 0) := by
    rintro ⟨last, left⟩
    obtain rfl : rest = [] := List.length_eq_zero_iff.mp (by omega)
    exact left behind.finished
  have unread : iterator.unread = part ++ (iterator.reader.advance part.length).unread :=
    reader.unread.trans (congrArg (part ++ ·) behind.unread.symm)
  rw [← lengths_eq] at isComponent parse
  cases added with
  | nil =>
      obtain rfl : removed = (component, part) :: rest := front
      have isRemoved := eachRemoved _ List.mem_cons_self
      have run := readComponent_eq parse protocol_eq reader isComponent
        (by rw [isRemoved, addedLength]; rfl)
      refine ⟨{ iterator with
        reader := iterator.reader.advance part.length
        remainingRemoved := iterator.remainingRemoved - 1 }, ?_, unread, [], rest, rfl,
        protocol_eq, lengths_eq, behind, addedLength, ?_, nofun,
        fun record mem => eachRemoved record (List.mem_cons_of_mem _ mem), rest'⟩
      · unfold Validators.mcItemComponentIteratorNext
        rw [if_neg going, run]
        dsimp only
        rw [if_neg finished, if_pos isRemoved]
      · change iterator.remainingRemoved - 1 = _
        rw [removedLength]
        rfl
  | cons record added =>
      obtain ⟨rfl, same⟩ := List.cons.inj front
      change added ++ removed = rest at same
      have isAdded := eachAdded _ List.mem_cons_self
      have run := readComponent_eq parse protocol_eq reader isComponent
        (by rw [isAdded, addedLength]; rfl)
      refine ⟨{ iterator with
        reader := iterator.reader.advance part.length
        remainingAdded := iterator.remainingAdded - 1 }, ?_, unread, added, removed, same.symm,
        protocol_eq, lengths_eq, ?_, ?_, removedLength,
        fun record mem => eachAdded record (List.mem_cons_of_mem _ mem), eachRemoved, ?_⟩
      · unfold Validators.mcItemComponentIteratorNext
        rw [if_neg going, run]
        dsimp only
        rw [if_neg finished, if_neg (by rw [isAdded]; decide)]
      · rw [← same] at behind
        exact behind
      · change iterator.remainingAdded - 1 = _
        rw [addedLength]
        rfl
      · rw [same]
        exact rest'

end calls

/-- The iterator returns the entries, first what is added, then what is removed; their bytes are the
components of the item. It returns no more. -/
structure McItemStackView.Iterates (item : McItemStackView) (validators : Validators)
    (protocol : Int) (known : Int → Prop) (value : Int → List UInt8 → Prop)
    (iterator last : McItemComponentIterator)
    (added removed : List (McItemComponentView × List UInt8)) : Prop where
  made : mcItemComponentsIterator item protocol = some iterator
  start : iterator.unread = item.components
  takes : Takes validators.mcItemComponentIteratorNext McItemComponentIterator.unread iterator
    (added ++ removed) last
  added_length : added.length = item.addedComponentCount
  removed_length : removed.length = item.removedComponentCount
  each_added : ∀ record ∈ added, record.1.removed = false
  each_removed : ∀ record ∈ removed, record.1.removed = true
  each : ∀ record ∈ added ++ removed,
    IsComponent known value item.componentValuesLengthPrefixed record.1 record.2
  finish : last.unread = []
  stops : ∀ output, call validators.mcItemComponentIteratorNext last output = (false, last, output)

/-- An item whose components are the bytes of entries. -/
structure McItemStackView.Holds (item : McItemStackView) (known : Int → Prop)
    (value : Int → List UInt8 → Prop)
    (added removed : List (McItemComponentView × List UInt8)) : Prop where
  added_length : added.length = item.addedComponentCount
  removed_length : removed.length = item.removedComponentCount
  few : added.length + removed.length ≤ mcMaxItemComponentCount
  components_eq : item.components = ((added ++ removed).map Prod.snd).flatten
  each_added : ∀ record ∈ added, record.1.removed = false
  each_removed : ∀ record ∈ removed, record.1.removed = true
  each : ∀ record ∈ added ++ removed,
    IsComponent known value item.componentValuesLengthPrefixed record.1 record.2

/-- The kinds of items that have components, in the releases that know them. -/
structure McItemStackView.Patched (item : McItemStackView) (protocol : Int) : Prop where
  late : 766 ≤ protocol
  kind : item.wireKind = .full ∨ item.wireKind = .untrusted ∧ 770 ≤ protocol
  lengths : item.componentValuesLengthPrefixed = decide (item.wireKind = .untrusted)

theorem McItemStackView.Holds.iterates {item : McItemStackView}
    {added removed : List (McItemComponentView × List UInt8)}
    (supported : mcProtocolSupported protocol = true) (patched : item.Patched protocol)
    (parse : validators.Parse protocol item.componentValuesLengthPrefixed known value)
    (holds : item.Holds known value added removed) :
    ∃ iterator last, item.Iterates validators protocol known value iterator last added removed := by
  obtain ⟨late, kind, lengths⟩ := patched
  obtain ⟨addedLength, removedLength, few, components, eachAdded, eachRemoved, each⟩ := holds
  let iterator : McItemComponentIterator := ⟨sliceReader item.components, protocol,
    item.addedComponentCount, item.removedComponentCount, item.componentValuesLengthPrefixed⟩
  have made : mcItemComponentsIterator item protocol = some iterator := by
    refine if_neg ?_
    rintro (early | unknown | ⟨other, other'⟩ | ⟨untrusted, early⟩ | many | many | many |
      ⟨none, none', something⟩ | ⟨full, sized⟩ | ⟨untrusted, -, bare⟩)
    · omega
    · rw [supported] at unknown
      cases unknown
    · exact kind.elim other fun untrusted => other' untrusted.1
    · rcases kind with full | ⟨-, now⟩
      · rw [full] at untrusted
        cases untrusted
      · omega
    · omega
    · omega
    · omega
    · rw [none] at addedLength
      rw [none'] at removedLength
      rw [List.length_eq_zero_iff.mp addedLength, List.length_eq_zero_iff.mp removedLength]
        at components
      exact something components
    · rw [lengths, full] at sized
      cases sized
    · rw [lengths, untrusted] at bare
      cases bare
  have ahead : iterator.Ahead protocol known value item.componentValuesLengthPrefixed added
      removed := by
    refine ⟨rfl, rfl, ?_, addedLength.symm, removedLength.symm, eachAdded, eachRemoved, each⟩
    change (sliceReader item.components).Ahead _
    rw [components]
    exact sliceReader_ahead _
  obtain ⟨last, takes, stop⟩ := Iteration.takes_of_parts
    (fun records (iterator : McItemComponentIterator) => ∃ added removed,
      records = added ++ removed ∧
        iterator.Ahead protocol known value item.componentValuesLengthPrefixed added removed)
    (by
      rintro component part rest iterator ⟨added, removed, front, ahead⟩
      exact mcItemComponentIteratorNext_part parse ahead front.symm)
    ⟨added, removed, rfl, ahead⟩
  obtain ⟨added', removed', none, stop⟩ := stop
  obtain ⟨rfl, rfl⟩ := List.append_eq_nil_iff.mp none.symm
  refine ⟨iterator, last, made, ?_, takes, addedLength, removedLength, eachAdded, eachRemoved, each,
    stop.reader.unread,
    fun output => Iteration.call_of_none output (mcItemComponentIteratorNext_stop stop)⟩
  rw [components]
  exact ahead.reader.unread

/-- The type of a component. -/
def IsType (known : Int → Prop) (bytes : List UInt8) : Prop :=
  ∃ id, known id ∧ IsVarint .strict id bytes

/-- The type of a component and its value. -/
def IsTypedValue (value : Int → List UInt8 → Prop) (bytes : List UInt8) : Prop :=
  ∃ id head tail, bytes = head ++ tail ∧ IsVarint .strict id head ∧ value id tail

/-- Entries whose bytes are known. -/
theorem exists_records {P : McItemComponentView → List UInt8 → Prop} {entries : List (List UInt8)}
    (each : ∀ entry ∈ entries, ∃ component, P component entry) :
    ∃ records : List (McItemComponentView × List UInt8),
      (∀ record ∈ records, P record.1 record.2) ∧ entries = records.map Prod.snd :=
  exists_map_of_parts fun entry mem =>
    let ⟨component, holds⟩ := each entry mem
    ⟨(component, entry), holds, rfl⟩

theorem IsAdded.isComponent {wireKind : McItemWireKind} {entry : List UInt8}
    (isAdded : IsAdded (IsType known) (IsTypedValue value) wireKind entry) :
    ∃ component : McItemComponentView, component.removed = false ∧
      IsComponent known value (decide (wireKind = .untrusted)) component entry := by
  unfold IsAdded at isAdded
  by_cases untrusted : wireKind = .untrusted
  · rw [if_pos untrusted] at isAdded
    obtain ⟨code, data, ⟨id, isKnown, isVarint⟩, short, rfl⟩ := isAdded
    exact ⟨_, rfl, .sized (decide_eq_true untrusted) isKnown isVarint short⟩
  · rw [if_neg untrusted] at isAdded
    obtain ⟨id, head, tail, rfl, isVarint, valid⟩ := isAdded
    exact ⟨_, rfl, .bare (decide_eq_false untrusted) isVarint valid⟩

/-- The entries of a patch are those that the iterator returns. -/
theorem IsPatch.holds {wireKind : McItemWireKind} {item : McItemStackView}
    {addedEntries removedEntries : List (List UInt8)}
    (patch : IsPatch (IsType known) (IsTypedValue value) wireKind item addedEntries
      removedEntries) :
    ∃ added removed, item.Holds known value added removed := by
  obtain ⟨addedLength, removedLength, few, eachAdded, eachRemoved, components, -, sized⟩ := patch
  obtain ⟨added, allAdded, rfl⟩ := exists_records fun entry mem =>
    (eachAdded entry mem).isComponent
  obtain ⟨removed, allRemoved, rfl⟩ := exists_records
    (P := fun component entry => component.removed = true ∧
      IsComponent known value (decide (wireKind = .untrusted)) component entry)
    fun entry mem =>
      let ⟨id, isKnown, isVarint⟩ := eachRemoved entry mem
      ⟨⟨id, [], true⟩, rfl, .removed isKnown isVarint⟩
  rw [List.length_map] at addedLength removedLength
  rw [List.length_map, List.length_map] at few
  rw [← List.map_append] at components
  refine ⟨added, removed, addedLength, removedLength, few, components,
    fun record mem => (allAdded record mem).1, fun record mem => (allRemoved record mem).1, ?_⟩
  intro record mem
  rw [sized]
  rcases List.mem_append.mp mem with mem | mem
  · exact (allAdded record mem).2
  · exact (allRemoved record mem).2

/-- An item as strict mode has read it: a patch, where the release has patches, can be iterated. -/
def McItemStackView.Read (item : McItemStackView) (validators : Validators) (protocol : Int)
    (known : Int → Prop) (value : Int → List UInt8 → Prop) : Prop :=
  item.present = true → 766 ≤ protocol →
    item.wireKind = .full ∨ item.wireKind = .untrusted ∧ 770 ≤ protocol →
      ∃ iterator last added removed,
        item.Iterates validators protocol known value iterator last added removed

theorem returns_itemStack (understand : validators.Understand protocol known value)
    (supported : mcProtocolSupported protocol = true) (wireKind : McItemWireKind) :
    ∃ G : McItemStackView → List UInt8 → Prop,
      Accepts .strict (validators.mcReaderItemStack protocol wireKind).run G ∧
      ∀ item bytes, G item bytes → item.encoded = bytes ∧
        item.Read validators protocol known value := by
  obtain ⟨G, accepts, holds⟩ := accepts_itemStack (T := IsType known) (C := IsTypedValue value)
    wireKind understand.types understand.components
  refine ⟨G, accepts, fun item bytes derived => ?_⟩
  obtain ⟨encoded, hashed, patched⟩ := holds item bytes derived
  refine ⟨encoded, fun present late kind => ?_⟩
  have other : wireKind ≠ .hashed := by
    intro same
    rw [hashed same] at kind
    rcases kind with full | ⟨untrusted, -⟩
    · cases full
    · cases untrusted
  obtain ⟨addedEntries, removedEntries, patch⟩ := patched other late present
  obtain ⟨added, removed, components⟩ := patch.holds
  have lengths : item.componentValuesLengthPrefixed = decide (item.wireKind = .untrusted) := by
    rw [patch.wireKind_eq]
    exact patch.prefixed_eq
  obtain ⟨iterator, last, iterates⟩ :=
    components.iterates supported ⟨late, kind, lengths⟩
      ⟨understand.types, fun _ => understand.components⟩
  exact ⟨iterator, last, added, removed, iterates⟩

/-- An item with the bytes it was read from. -/
def McItemStackView.record (item : McItemStackView) : McItemStackView × List UInt8 :=
  (item, item.encoded)

def McItemIterator.unread (iterator : McItemIterator) : List UInt8 := iterator.reader.unread

/-- The iterator returns the items: their encodings are the slice of the packet. It returns no
more. -/
structure McWindowItemsPacket.Iterates (packet : McWindowItemsPacket) (validators : Validators)
    (protocol : Int) (iterator last : McItemIterator) (items : List McItemStackView) : Prop where
  made : mcWindowItemsIterator packet protocol = some iterator
  start : iterator.unread = packet.items
  takes : Takes validators.mcItemIteratorNext McItemIterator.unread iterator
    (items.map McItemStackView.record) last
  count : items.length = packet.itemCount
  encoded : (items.map McItemStackView.encoded).flatten = packet.items
  finish : last.unread = []
  stops : ∀ output, call validators.mcItemIteratorNext last output = (false, last, output)

section windows

variable {G : McItemStackView → List UInt8 → Prop}

/-- The iterator stands in front of items. -/
structure McItemIterator.Ahead (iterator : McItemIterator) (G : McItemStackView → List UInt8 → Prop)
    (protocol : Int) (records : List (McItemStackView × List UInt8)) : Prop where
  protocol_eq : iterator.protocol = protocol
  full : iterator.wireKind = .full
  reader : iterator.reader.Ahead (records.map Prod.snd)
  remaining : iterator.remaining = records.length
  each : ∀ record ∈ records, G record.1 record.2

theorem mcItemIteratorNext_stop {iterator : McItemIterator} (ahead : iterator.Ahead G protocol []) :
    validators.mcItemIteratorNext iterator = (none, iterator) :=
  if_pos ahead.remaining

theorem mcItemIteratorNext_part {iterator : McItemIterator} {item : McItemStackView}
    {part : List UInt8} {rest : List (McItemStackView × List UInt8)}
    (reads : ∀ {item bytes}, G item bytes →
      Reads .strict (validators.mcReaderItemStack protocol .full).run item bytes)
    (ahead : iterator.Ahead G protocol ((item, part) :: rest)) :
    ∃ next, validators.mcItemIteratorNext iterator = (some item, next) ∧
      iterator.unread = part ++ next.unread ∧ next.Ahead G protocol rest := by
  obtain ⟨rfl, full, reader, remaining, each⟩ := ahead
  have run := reader.reads (reads (each _ List.mem_cons_self))
  rw [← full] at run
  have behind := reader.advance
  let next : McItemIterator := { iterator with
    reader := iterator.reader.advance part.length
    remaining := iterator.remaining - 1 }
  have going : iterator.remaining ≠ 0 := by
    rw [remaining]
    exact Nat.succ_ne_zero _
  have left : iterator.remaining - 1 = rest.length := by
    rw [remaining]
    rfl
  have finished : ¬ (iterator.remaining - 1 = 0 ∧
      mcReaderRemaining (iterator.reader.advance part.length) ≠ 0) := by
    intro ⟨last, more⟩
    obtain rfl : rest = [] := List.length_eq_zero_iff.mp (left.symm.trans last)
    exact more behind.finished
  refine ⟨next, ?_, reader.unread.trans (congrArg (part ++ ·) behind.unread.symm), rfl, full, behind,
    left, fun record mem => each record (List.mem_cons_of_mem _ mem)⟩
  unfold Validators.mcItemIteratorNext
  rw [if_neg going, run]
  exact if_neg finished

/-- What a decoded packet says of its items. -/
structure McWindowItemsPacket.Holds (packet : McWindowItemsPacket)
    (G : McItemStackView → List UInt8 → Prop) (items : List McItemStackView) : Prop where
  full : packet.itemWireKind = .full
  few : items.length ≤ mcMaxContainerSlots
  count : packet.itemCount = items.length
  items_eq : packet.items = (items.map McItemStackView.encoded).flatten
  each : ∀ item ∈ items, G item item.encoded

theorem McWindowItemsPacket.Holds.iterates {packet : McWindowItemsPacket}
    {items : List McItemStackView} (supported : mcProtocolSupported protocol = true)
    (reads : ∀ {item bytes}, G item bytes →
      Reads .strict (validators.mcReaderItemStack protocol .full).run item bytes)
    (holds : packet.Holds G items) :
    ∃ iterator last, packet.Iterates validators protocol iterator last items := by
  obtain ⟨full, few, count, same, each⟩ := holds
  let iterator : McItemIterator :=
    ⟨sliceReader packet.items, protocol, packet.itemWireKind, packet.itemCount⟩
  have made : mcWindowItemsIterator packet protocol = some iterator := by
    refine if_neg ?_
    intro refused
    cases refused with
    | inl unknown =>
        rw [supported] at unknown
        cases unknown
    | inr many => omega
  have parts : (items.map McItemStackView.record).map Prod.snd =
      items.map McItemStackView.encoded :=
    List.map_map
  have ahead : iterator.Ahead G protocol (items.map McItemStackView.record) := by
    refine ⟨rfl, full, ?_, count.trans (List.length_map _).symm, ?_⟩
    · rw [parts]
      change (sliceReader packet.items).Ahead _
      rw [same]
      exact sliceReader_ahead _
    · intro record mem
      obtain ⟨item, found, rfl⟩ := List.mem_map.mp mem
      exact each item found
  obtain ⟨last, takes, stop⟩ := Iteration.takes_of_parts
    (fun records (iterator : McItemIterator) => iterator.Ahead G protocol records)
    (fun item part rest iterator ahead => mcItemIteratorNext_part reads ahead) ahead
  refine ⟨iterator, last, made, ?_, takes, count.symm, same.symm, stop.reader.unread,
    fun output => Iteration.call_of_none output (mcItemIteratorNext_stop stop)⟩
  rw [same, ← parts]
  exact ahead.reader.unread

theorem Local.containerId (signedLegacy : Bool) :
    Local .strict (typedReadContainerId protocol signedLegacy).run :=
  .ite .varint (.ite .i8 (.bind .u8 fun _ => .pure _))

theorem Local.stateId : Local .strict (readStateId protocol).run :=
  .ite (.orReject (.bind .varint fun _ => .bind .require fun _ => .pure _) 0) (.pure _)

theorem Local.windowItemCount : Local .strict (Validators.typedReadWindowItemCount protocol).run :=
  .ite .varint (.bind .u16 fun _ => .pure _)

theorem accepts_skipItemStack
    (accepts : Accepts .strict (validators.mcReaderItemStack protocol .full).run G) :
    Accepts .strict (validators.skipItemStack protocol .full).run fun _ bytes =>
      ∃ item, G item bytes := by
  refine Accepts.congr (.bind accepts fun _ => .pure ()) fun _ bytes => ⟨?_, ?_⟩
  · rintro ⟨item, head, _, rfl, derived, -, rfl⟩
    rw [List.append_nil]
    exact ⟨item, derived⟩
  · rintro ⟨item, derived⟩
    exact ⟨item, bytes, [], (List.append_nil _).symm, derived, rfl, rfl⟩

theorem returns_typedDecodeWindowItems {P : McItemStackView → Prop}
    (accepts : Accepts .strict (validators.mcReaderItemStack protocol .full).run G)
    (encoded : ∀ item bytes, G item bytes → item.encoded = bytes)
    (returned : ∀ item bytes, G item bytes → P item) (absent : P (.absent .full)) :
    Returns .strict (validators.typedDecodeWindowItems protocol).run fun packet =>
      (∃ items, packet.Holds G items) ∧ P packet.carriedItem := by
  refine (Local.containerId false).returns.bind fun windowId _ =>
    Local.stateId.returns.bind fun stateId _ => Local.windowItemCount.returns.bind fun count _ =>
      (Returns.rejectWhen 0).bind fun _ small => ?_
  rw [not_or, not_lt, not_lt] at small
  have slots : Returns .strict (mcReaderOffset.run >>= fun start =>
      (Program.iterate (fun _ => validators.skipItemStack protocol .full) count.toNat ()).run >>=
        fun _ => (readSince start).run >>= fun slice => Pure.pure slice) fun slice =>
          ∃ items : List McItemStackView, items.length = count.toNat ∧
            (∀ item ∈ items, G item item.encoded) ∧
            slice = (items.map McItemStackView.encoded).flatten := by
    refine ((accepts_skipItemStack accepts).iterate count.toNat).slicedWith.returns ?_
    rintro slice bytes ⟨-, ⟨parts, length, each, rfl⟩, rfl⟩
    obtain ⟨items, all, rfl⟩ : ∃ items : List McItemStackView,
        (∀ item ∈ items, G item item.encoded) ∧ parts = items.map McItemStackView.encoded :=
      exists_map_of_parts fun part mem => by
        obtain ⟨item, derived⟩ := each part mem
        have same := encoded item part derived
        exact ⟨item, same ▸ derived, same.symm⟩
    rw [List.length_map] at length
    exact ⟨items, length, all, rfl⟩
  have carried : Returns .strict (if 755 ≤ protocol then validators.mcReaderItemStack protocol .full
      else pure (.absent .full) : DecodeM protocol McItemStackView).run P :=
    .ite (fun _ => accepts.returns returned) fun _ => .pure absent
  have whole := slots.bind fun items holds => carried.bind fun carriedItem valid =>
    Returns.pure (P := fun packet : McWindowItemsPacket =>
      (∃ items, packet.Holds G items) ∧ P packet.carriedItem)
      (a := {
        windowId := windowId
        stateId := stateId
        itemCount := count.toNat
        items := items
        carriedItem := carriedItem
        itemWireKind := .full
        hasStateId := decide (756 ≤ protocol)
        hasCarriedItem := decide (755 ≤ protocol) }) (by
      obtain ⟨views, length, each, same⟩ := holds
      exact ⟨⟨views, rfl, by omega, length.symm, same, each⟩, valid⟩)
  simp only [Prog.bind_assoc, Prog.pure_bind] at whole
  exact whole

end windows

section items

variable {P : McItemStackView → Prop}

theorem returns_typedDecodeSetSlot
    (item : Returns .strict (validators.mcReaderItemStack protocol .full).run P) :
    Returns .strict (validators.typedDecodeSetSlot protocol).run fun packet => P packet.item :=
  (Local.containerId true).returns.bind fun _ _ => Local.stateId.returns.bind fun _ _ =>
    Local.i16.returns.bind fun _ _ => item.bind fun _ valid => .pure valid

variable (item : ∀ wireKind, Returns .strict (validators.mcReaderItemStack protocol wireKind).run P)

include item

theorem returns_typedDecodeSetCreativeSlot :
    Returns .strict (validators.typedDecodeSetCreativeSlot protocol).run fun packet =>
      P packet.item :=
  Local.i16.returns.bind fun _ _ => (item _).bind fun _ valid =>
    (Returns.rejectWhen 0).bind fun _ _ => .pure valid

theorem returns_readOldClick :
    Returns .strict (validators.readOldClick protocol).run fun tail => P tail.carriedItem :=
  Local.i16.returns.bind fun _ _ => Local.i8.returns.bind fun _ _ => (item .full).bind fun _ valid =>
    .pure valid

theorem Local.changedSlot : Local .strict (validators.skipChangedSlot protocol).run :=
  .orInvalid (.bind .i16 fun _ => .bind .require fun _ => .bind (item _).isLocal fun _ => .pure ())

theorem returns_readClick :
    Returns .strict (validators.readClick protocol).run fun tail => P tail.carriedItem := by
  refine Returns.bind (Local.returns (.ite .i8 .varint)) fun mode _ =>
    Local.varint.returns.bind fun changed _ => (Returns.rejectWhen 0).bind fun _ _ => ?_
  have slots := (Local.slicedWith (f := fun _ slice => slice)
    (Local.iterate (fun _ => Local.changedSlot item) changed.toNat ())).returns
  have whole := slots.bind fun changedSlots _ => (item (Validators.clickWireKind protocol)).bind
    fun carriedItem valid => Returns.pure (P := fun tail : Validators.ClickTail =>
      P tail.carriedItem) (a := ⟨0, mode, changed.toNat, changedSlots, carriedItem⟩) valid
  simp only [Prog.bind_assoc, Prog.pure_bind] at whole
  exact whole

theorem returns_typedDecodeWindowClick :
    Returns .strict (validators.typedDecodeWindowClick protocol).run fun packet =>
      P packet.carriedItem :=
  (Local.containerId _).returns.bind fun _ _ => Local.stateId.returns.bind fun _ _ =>
    Local.i16.returns.bind fun _ _ => Local.i8.returns.bind fun _ _ =>
      Returns.bind (.ite (fun _ => returns_readOldClick item) fun _ => returns_readClick item)
        fun _ valid => (Returns.rejectWhen 0).bind fun _ _ => .pure valid

end items

end entries

/-- The items that a packet shows. -/
def McTypedPacket.items : McTypedPacket → List McItemStackView
  | .windowClick value => [value.carriedItem]
  | .creativeSlot value => [value.item]
  | .setSlot value => [value.item]
  | .windowItems value => [value.carriedItem]
  | _ => []

section accepted

variable {library : PacketLibrary} {arguments : McDecodeArguments} {error : Option McError}
variable {packet : McTypedPacket} {after : McReader}

/-- What a decoder returned for a whole payload. -/
theorem Returns.payload {α : Type} {program : Prog McReader α} {P : α → Prop} {a : α}
    (returns : Returns .strict program P)
    (ran : program ({ arguments with mode := 1 }.bodyReader error) = (some a, after))
    (whole : after.offset = after.size) : P a := by
  obtain ⟨G, accepts, holds⟩ := returns
  exact holds a _ (accepts.payload (show _ = McDecodeMode.strict from rfl) ran whole)

theorem McTypedPacket.Accepted.items_hold {P : McItemStackView → Prop}
    (accepted : packet.Accepted library { arguments with mode := 1 } error after)
    (item : ∀ wireKind, Returns .strict
      (library.validators.mcReaderItemStack arguments.protocol wireKind).run P)
    (window : Returns .strict (library.validators.typedDecodeWindowItems arguments.protocol).run
      fun packet => P packet.carriedItem) :
    ∀ item ∈ packet.items, P item := by
  have decoded := accepted.decoded
  intro view mem
  cases packet with
  | windowClick value =>
      obtain rfl := List.mem_singleton.mp mem
      exact (returns_typedDecodeWindowClick item).payload decoded accepted.whole
  | creativeSlot value =>
      obtain rfl := List.mem_singleton.mp mem
      exact (returns_typedDecodeSetCreativeSlot item).payload decoded accepted.whole
  | setSlot value =>
      obtain rfl := List.mem_singleton.mp mem
      exact (returns_typedDecodeSetSlot (item .full)).payload decoded accepted.whole
  | windowItems value =>
      obtain rfl := List.mem_singleton.mp mem
      exact window.payload decoded accepted.whole
  | _ => cases mem

end accepted

/-- Whatever strict mode accepts the iterators go through. The items of a window are as many as it
counts, and their encodings are its slice. The components of an item, one of the window or one
that the packet shows, are as many as it counts, the added ones first, and their bytes lie in the
slice one after the other up to its end. Behind the last one the calls return false, and a call
that returns false leaves its output as it was. -/
theorem itemIterators_agree (library : PacketLibrary) (arguments : McDecodeArguments)
    (error : Option McError) (known : Int → Prop) (value : Int → List UInt8 → Prop)
    (understand : library.validators.Understand arguments.protocol known value)
    (packet : McTypedPacket)
    (accepted : (mcDecodePacket library { arguments with mode := 1 } error).packet =
      some packet) :
    (∀ window, packet = .windowItems window → ∃ iterator last items,
      window.Iterates library.validators arguments.protocol iterator last items ∧
        ∀ item ∈ items, item.Read library.validators arguments.protocol known value) ∧
    (∀ item ∈ packet.items, item.Read library.validators arguments.protocol known value) ∧
    (∀ iterator output, (call library.validators.mcItemIteratorNext iterator output).1 = false →
      (call library.validators.mcItemIteratorNext iterator output).2.2 = output) ∧
    (∀ iterator output,
      (call library.validators.mcItemComponentIteratorNext iterator output).1 = false →
        (call library.validators.mcItemComponentIteratorNext iterator output).2.2 = output) := by
  obtain ⟨after, accepted⟩ := mcDecodePacket_accepted accepted
  have supported : mcProtocolSupported arguments.protocol = true := accepted.supported
  have item (wireKind : McItemWireKind) : Returns .strict
      (library.validators.mcReaderItemStack arguments.protocol wireKind).run
      fun item => item.Read library.validators arguments.protocol known value := by
    obtain ⟨G, accepts, holds⟩ := returns_itemStack understand supported wireKind
    exact ⟨G, accepts, fun item bytes derived => (holds item bytes derived).2⟩
  obtain ⟨G, accepts, holds⟩ := returns_itemStack understand supported .full
  have windows := returns_typedDecodeWindowItems
    (P := fun item => item.Read library.validators arguments.protocol known value) accepts
    (fun item bytes derived => (holds item bytes derived).1)
    (fun item bytes derived => (holds item bytes derived).2) nofun
  refine ⟨?_, accepted.items_hold item ?_, fun _ _ => Iteration.call_unchanged,
    fun _ _ => Iteration.call_unchanged⟩
  · rintro window rfl
    have decoded := accepted.decoded
    dsimp only [McTypedPacket.DecodedBy] at decoded
    obtain ⟨⟨items, shows⟩, -⟩ := windows.payload decoded accepted.whole
    obtain ⟨iterator, last, iterates⟩ := shows.iterates supported accepts.complete
    exact ⟨iterator, last, items, iterates,
      fun item mem => (holds item _ (shows.each item mem)).2⟩
  · obtain ⟨W, reads, shown⟩ := windows
    exact ⟨W, reads, fun packet bytes derived => (shown packet bytes derived).2⟩

/-- Validators of one component, the greatest size of a stack: type 1, and a VarInt. -/
def stackSizeValidators : Validators where
  zlib := .knowing [] []
  skipSlotComponentType := fun _ _ => do
    let id ← mcReaderVarint
    require (id = 1)
  skipSlotComponent := fun _ _ => do
    let id ← mcReaderVarint
    require (id = 1)
    let _ ← mcReaderVarint
  resolvableProfile := fun _ _ => .refuse

theorem stackSizeValidators_understand (protocol : Int) :
    stackSizeValidators.Understand protocol (· = 1) fun id tail =>
      id = 1 ∧ ∃ size, IsVarint .strict size tail where
  types := by
    refine Accepts.congr (.bind accepts_varint fun _ => accepts_require) fun _ bytes => ⟨?_, ?_⟩
    · rintro ⟨id, head, _, rfl, isVarint, isKnown, rfl⟩
      rw [List.append_nil]
      exact ⟨id, isKnown, isVarint⟩
    · rintro ⟨id, isKnown, isVarint⟩
      exact ⟨id, bytes, [], (List.append_nil _).symm, isVarint, isKnown, rfl⟩
  components := by
    refine Accepts.congr (.bind accepts_varint fun _ => .guarded accepts_require
      (.bind accepts_varint fun _ => .pure ())) fun _ bytes => ⟨?_, ?_⟩
    · rintro ⟨id, head, _, rfl, isVarint, isKnown, size, tail, _, rfl, isSize, -, rfl⟩
      rw [List.append_nil]
      exact ⟨id, head, tail, rfl, isVarint, isKnown, size, isSize⟩
    · rintro ⟨id, head, tail, rfl, isVarint, isKnown, size, isSize⟩
      exact ⟨id, head, tail, rfl, isVarint, isKnown, size, tail, [], (List.append_nil _).symm,
        isSize, rfl, rfl⟩

/-- A window with one item, which has a component added and one removed. -/
theorem itemIterators_agree_stackSize :
    let item : McItemStackView :=
      { McItemStackView.absent .full with
        present := true
        itemId := 5
        count := 1
        addedComponentCount := 1
        removedComponentCount := 1
        components := [1, 64, 1]
        encoded := [1, 5, 1, 1, 1, 64, 1] }
    let carried : McItemStackView := { McItemStackView.absent .full with encoded := [0] }
    ∃ iterator last items,
      (⟨0, 7, 1, item.encoded, carried, .full, true, true⟩ : McWindowItemsPacket).Iterates
        stackSizeValidators 766 iterator last items ∧
      ∀ item ∈ items, item.Read stackSizeValidators 766 (· = 1) fun id tail =>
        id = 1 ∧ ∃ size, IsVarint .strict size tail :=
  (itemIterators_agree
    { plainLibrary ["window_items"] 120 (by decide) with validators := stackSizeValidators }
    (playArguments 766 1 0 1 [0, 7, 1, 1, 5, 1, 1, 1, 64, 1, 0] 120) none _ _
    (stackSizeValidators_understand 766) _ (by decide +kernel)).1 _ rfl

end McProtocol
