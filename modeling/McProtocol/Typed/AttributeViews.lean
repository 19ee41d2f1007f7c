import McProtocol.Typed.Bodies
import McProtocol.Typed.ItemGrammar

/-! # Attributes and their iterator

The decoder checks the attributes of an entity and counts their modifiers. The iterator reads them
again, one at a time, with the counts that the decoder has found as its limits.
-/

namespace McProtocol

open Iteration (Takes)

structure McAttributeView where
  key : List UInt8
  registryKey : Int
  registryKeyed : Bool
  baseValue : McDouble
  modifierCount : Nat
  modifiers : List UInt8
  deriving Repr, DecidableEq

structure McAttributeIterator where
  reader : McReader
  protocol : Int
  remaining : Nat
  remainingModifiers : Nat

/-- The slice of a decoded packet is never null. -/
def mcUpdateAttributesIterator (packet : McUpdateAttributesPacket) (protocol : Int) :
    Option McAttributeIterator :=
  if mcProtocolSupported protocol = false ∨ mcMaxAttributeCount < packet.attributeCount
      ∨ mcMaxAttributeModifierCount < packet.modifierCount
      ∨ packet.attributeCount = 0 ∧ (packet.modifierCount ≠ 0 ∨ packet.attributes ≠ [])
      ∨ packet.attributeCount ≠ 0 ∧ packet.attributes = [] then none
  else some ⟨sliceReader packet.attributes, protocol, packet.attributeCount, packet.modifierCount⟩

/-- The key of an attribute, by name or by registry id. -/
def readAttributeKey (protocol : Int) : ReadM (List UInt8 × Int) :=
  orReject .invalidPacketBody 0 do
    if 766 ≤ protocol then
      let registryKey ← mcReaderVarint
      require (0 ≤ registryKey)
      pure ([], registryKey)
    else
      let key ← readNonempty 256
      pure (key, 0)

/-- One attribute, with no more modifiers than are left. -/
def readAttributeView (protocol : Int) (remainingModifiers : Nat) : ReadM McAttributeView := do
  let (key, registryKey) ← readAttributeKey protocol
  let (base, modifierCount) ← orReject .invalidPacketBody 0 do
    let base ← mcReaderDouble
    require (base.isFinite = true)
    let modifierCount ← typedModifierCount protocol
    typedCount modifierCount mcMaxAttributeModifierCount
    require (modifierCount.toNat ≤ remainingModifiers)
    pure (base, modifierCount)
  let modifiersStart ← mcReaderOffset
  .iterate (fun _ => skipAttributeModifier protocol) modifierCount.toNat ()
  let modifiers ← readSince modifiersStart
  pure ⟨key, registryKey, decide (766 ≤ protocol), base, modifierCount.toNat, modifiers⟩

def mcAttributeIteratorNext (iterator : McAttributeIterator) :
    Option McAttributeView × McAttributeIterator :=
  if iterator.remaining = 0 then (none, iterator)
  else
    match (readAttributeView iterator.protocol iterator.remainingModifiers).run iterator.reader with
    | (none, reader) => (none, { iterator with reader := reader })
    | (some view, reader) =>
        let iterator := { iterator with
          reader := reader
          remaining := iterator.remaining - 1
          remainingModifiers := iterator.remainingModifiers - view.modifierCount }
        if iterator.remaining = 0
            ∧ (iterator.remainingModifiers ≠ 0 ∨ mcReaderRemaining reader ≠ 0) then
          (none, { iterator with reader := reader.fail .invalidPacketBody reader.offset })
        else (some view, iterator)

section grammar

variable {mode : McDecodeMode} {protocol : Int} {M : List UInt8 → Prop}

/-- A registry id from 766 on, a name before. -/
inductive IsAttributeKey (mode : McDecodeMode) (protocol : Int) :
    List UInt8 × Int → List UInt8 → Prop where
  | registered {key : Int} {code : List UInt8} (late : 766 ≤ protocol) (natural : 0 ≤ key)
      (isVarint : IsVarint mode key code) : IsAttributeKey mode protocol ([], key) code
  | named {name size : List UInt8} (early : ¬ 766 ≤ protocol) (short : name.length ≤ 256)
      (some : name ≠ []) (isVarint : IsVarint mode name.length size) :
      IsAttributeKey mode protocol (name, 0) (size ++ name)

/-- How many modifiers follow. -/
def IsModifierCount (mode : McDecodeMode) (protocol : Int) (count : Nat) (code : List UInt8) : Prop :=
  if 5 < protocol then IsVarint mode count code else count < 2 ^ 15 ∧ code = int16Bytes count

/-- An attribute, of whose modifiers `M` tells the bytes. -/
inductive IsAttribute (M : List UInt8 → Prop) (mode : McDecodeMode) (protocol : Int) :
    McAttributeView → List UInt8 → Prop where
  | mk {key : List UInt8 × Int} {base : McDouble} {head code : List UInt8}
      {modifiers : List (List UInt8)} (isKey : IsAttributeKey mode protocol key head)
      (finite : base.isFinite = true) (isCount : IsModifierCount mode protocol modifiers.length code)
      (few : modifiers.length ≤ mcMaxAttributeModifierCount) (each : ∀ modifier ∈ modifiers, M modifier) :
      IsAttribute M mode protocol
        ⟨key.1, key.2, decide (766 ≤ protocol), base, modifiers.length, modifiers.flatten⟩
        (head ++ (BigEndian.bytes 8 base.bits.toNat ++ (code ++ modifiers.flatten)))

theorem IsAttribute.ne_nil {view : McAttributeView} {bytes : List UInt8}
    (isAttribute : IsAttribute M mode protocol view bytes) : bytes ≠ [] := by
  cases isAttribute with
  | mk =>
      intro nothing
      have lengths := congrArg List.length nothing
      simp [BigEndian.length_bytes] at lengths

theorem accepts_readNonempty (maxSize : Nat) :
    Accepts mode (readNonempty maxSize).run fun text bytes =>
      text.length ≤ maxSize ∧ text ≠ [] ∧
        ∃ size, IsVarint mode text.length size ∧ bytes = size ++ text := by
  refine Accepts.congr (.bind (accepts_stringBounded maxSize) fun text =>
    .guarded accepts_require (.pure text)) fun text bytes => ⟨?_, ?_⟩
  · rintro ⟨_, _, _, rfl, ⟨short, size, isVarint, rfl⟩, some, rfl, rfl⟩
    exact ⟨short, some, size, isVarint, List.append_nil _⟩
  · rintro ⟨short, some, size, isVarint, rfl⟩
    exact ⟨text, _, [], (List.append_nil _).symm, ⟨short, size, isVarint, rfl⟩, some, rfl, rfl⟩

theorem accepts_readAttributeKey :
    Accepts mode (readAttributeKey protocol).run (IsAttributeKey mode protocol) := by
  refine Accepts.congr (accepts_orReject (.either (.bind accepts_varint fun key =>
    .guarded accepts_require (.pure (([], key) : List UInt8 × Int)))
      (.bind (accepts_readNonempty 256) fun name => .pure ((name, 0) : List UInt8 × Int))) 0)
        fun key bytes => ⟨?_, ?_⟩
  · intro derived
    by_cases late : 766 ≤ protocol
    · rw [if_pos late] at derived
      obtain ⟨key, _, _, rfl, isVarint, natural, rfl, rfl⟩ := derived
      rw [List.append_nil]
      exact .registered late natural isVarint
    · rw [if_neg late] at derived
      obtain ⟨name, _, _, rfl, ⟨short, some, size, isVarint, rfl⟩, rfl, rfl⟩ := derived
      rw [List.append_nil]
      exact .named late short some isVarint
  · intro isKey
    cases isKey with
    | @registered key _ late natural isVarint =>
        rw [if_pos late]
        exact ⟨key, bytes, [], (List.append_nil _).symm, isVarint, natural, rfl, rfl⟩
    | @named name size early short some isVarint =>
        rw [if_neg early]
        exact ⟨name, _, [], (List.append_nil _).symm, ⟨short, some, size, isVarint, rfl⟩, rfl, rfl⟩

/-- The decoder reads the same key, and drops it. -/
theorem accepts_skipAttributeKey :
    Accepts mode (skipAttributeKey protocol).run fun _ bytes =>
      ∃ key, IsAttributeKey mode protocol key bytes := by
  refine Accepts.congr (accepts_orReject (.either (.bind accepts_varint fun key => accepts_require)
    (.bind (accepts_readNonempty 256) fun name => .pure _)) 0) fun _ bytes => ⟨?_, ?_⟩
  · intro derived
    by_cases late : 766 ≤ protocol
    · rw [if_pos late] at derived
      obtain ⟨key, _, _, rfl, isVarint, natural, rfl⟩ := derived
      rw [List.append_nil]
      exact ⟨_, .registered late natural isVarint⟩
    · rw [if_neg late] at derived
      obtain ⟨name, _, _, rfl, ⟨short, some, size, isVarint, rfl⟩, -, rfl⟩ := derived
      rw [List.append_nil]
      exact ⟨_, .named late short some isVarint⟩
  · rintro ⟨_, isKey⟩
    cases isKey with
    | @registered key _ late natural isVarint =>
        rw [if_pos late]
        exact ⟨key, bytes, [], (List.append_nil _).symm, isVarint, natural, rfl⟩
    | @named name size early short some isVarint =>
        rw [if_neg early]
        exact ⟨name, _, [], (List.append_nil _).symm, ⟨short, some, size, isVarint, rfl⟩, rfl, rfl⟩

/-- What both read behind the key. -/
theorem accepts_attributeFront {β : Type} (limit : Nat) (f : McDouble → Int → β) :
    Accepts mode (do
        let base ← mcReaderDouble
        require (base.isFinite = true)
        let modifierCount ← typedModifierCount protocol
        typedCount modifierCount mcMaxAttributeModifierCount
        require (modifierCount.toNat ≤ limit)
        pure (f base modifierCount) : ReadM β).run fun b bytes =>
      ∃ (base : McDouble) (count : Nat) (code : List UInt8), base.isFinite = true ∧
        IsModifierCount mode protocol count code ∧ count ≤ mcMaxAttributeModifierCount ∧
        count ≤ limit ∧ b = f base count ∧
        bytes = BigEndian.bytes 8 base.bits.toNat ++ code := by
  have most : mcMaxAttributeModifierCount = 1024 := rfl
  refine Accepts.congr (.bind accepts_double fun base => .guarded accepts_require
    (.bind (.either accepts_varint accepts_i16) fun count => .guarded (accepts_rejectWhen 0)
      (.guarded accepts_require (.pure (f base count))))) fun b bytes => ⟨?_, ?_⟩
  · rintro ⟨base, _, _, rfl, rfl, finite, wire, code, _, rfl, isCount, bounds, room, rfl, rfl⟩
    rw [not_or, not_lt, not_lt] at bounds
    have natural : (wire.toNat : Int) = wire := Int.toNat_of_nonneg bounds.1
    refine ⟨base, wire.toNat, code, finite, ?_, by omega, room, by rw [natural], by
      rw [List.append_nil]⟩
    unfold IsModifierCount
    split_ifs at isCount ⊢
    · rwa [natural]
    · exact ⟨by omega, by rw [natural]; exact isCount.2⟩
  · rintro ⟨base, count, code, finite, isCount, few, room, rfl, rfl⟩
    refine ⟨base, _, code, rfl, rfl, finite, count, code, [], (List.append_nil _).symm, ?_, by omega,
      by omega, rfl, rfl⟩
    unfold IsModifierCount at isCount
    split_ifs at isCount ⊢
    · exact isCount
    · exact ⟨by omega, isCount.2⟩

section views

variable (modifiers : Accepts mode (skipAttributeModifier protocol).run fun _ bytes => M bytes)

include modifiers

theorem accepts_readAttribute (totalModifiers : Nat) :
    Accepts mode (readAttribute protocol totalModifiers).run fun total bytes =>
      ∃ view, IsAttribute M mode protocol view bytes ∧
        view.modifierCount ≤ mcMaxAttributeModifierCount - totalModifiers ∧
        total = totalModifiers + view.modifierCount := by
  refine Accepts.congr (.bind accepts_skipAttributeKey fun _ => .bind (accepts_orReject
    (accepts_attributeFront _ fun _ count => count) 0) fun count =>
      .bind (modifiers.iterate count.toNat) fun _ => .pure (totalModifiers + count.toNat))
        fun total bytes => ⟨?_, ?_⟩
  · rintro ⟨_, head, _, rfl, ⟨key, isKey⟩, _, _, _, rfl, ⟨base, count, code, finite, isCount, few,
      room, rfl, rfl⟩, _, _, _, rfl, ⟨parts, length, each, rfl⟩, rfl, rfl⟩
    rw [Int.toNat_natCast] at length ⊢
    rw [← length] at isCount few room
    rw [List.append_nil, List.append_assoc, ← length]
    exact ⟨_, .mk isKey finite isCount few each, room, rfl⟩
  · rintro ⟨view, isAttribute, room, rfl⟩
    cases isAttribute with
    | @mk key base head code parts isKey finite isCount few each =>
        refine ⟨(), head, _, rfl, ⟨key, isKey⟩, parts.length, _, parts.flatten, ?_,
          ⟨base, parts.length, code, finite, isCount, few, room, rfl, rfl⟩, (), _, [],
          (List.append_nil _).symm, ⟨parts, rfl, each, rfl⟩, rfl, rfl⟩
        rw [List.append_assoc]

theorem accepts_readAttributeView (remainingModifiers : Nat) :
    Accepts mode (readAttributeView protocol remainingModifiers).run fun view bytes =>
      IsAttribute M mode protocol view bytes ∧ view.modifierCount ≤ remainingModifiers := by
  refine Accepts.congr (.bind accepts_readAttributeKey fun key => .bind (accepts_orReject
    (accepts_attributeFront _ Prod.mk) 0) fun front =>
      (modifiers.iterate front.2.toNat).slicedWith (f := fun _ modifiers =>
        (⟨key.1, key.2, decide (766 ≤ protocol), front.1, front.2.toNat, modifiers⟩ :
          McAttributeView))) fun view bytes => ⟨?_, ?_⟩
  · rintro ⟨key, head, _, rfl, isKey, _, _, _, rfl, ⟨base, count, code, finite, isCount, few,
      room, rfl, rfl⟩, _, ⟨parts, length, each, rfl⟩, rfl⟩
    rw [Int.toNat_natCast] at length ⊢
    rw [← length] at isCount few room ⊢
    rw [List.append_assoc]
    exact ⟨.mk isKey finite isCount few each, room⟩
  · rintro ⟨isAttribute, room⟩
    cases isAttribute with
    | @mk key base head code parts isKey finite isCount few each =>
        refine ⟨key, head, _, rfl, isKey, (base, (parts.length : Int)), _, parts.flatten, ?_,
          ⟨base, parts.length, code, finite, isCount, few, room, rfl, rfl⟩, (),
          ⟨parts, rfl, each, rfl⟩, rfl⟩
        rw [List.append_assoc]

end views

/-- How many modifiers the attributes have together. -/
def modifierTotal (records : List (McAttributeView × List UInt8)) : Nat :=
  (records.map fun record => record.1.modifierCount).sum

/-- What a decoded packet says of its attributes and of the bytes of each. -/
structure McUpdateAttributesPacket.Holds (M : List UInt8 → Prop) (mode : McDecodeMode)
    (protocol : Int) (packet : McUpdateAttributesPacket)
    (records : List (McAttributeView × List UInt8)) : Prop where
  each : ∀ record ∈ records, IsAttribute M mode protocol record.1 record.2
  count : packet.attributeCount = records.length
  few : records.length ≤ mcMaxAttributeCount
  modifiers : packet.modifierCount = modifierTotal records
  room : packet.modifierCount ≤ mcMaxAttributeModifierCount
  attributes : packet.attributes = (records.map Prod.snd).flatten

theorem steps_attributes {start total : Nat} {parts : List (List UInt8)}
    (steps : Steps (fun total total' part => ∃ view, IsAttribute M mode protocol view part ∧
      view.modifierCount ≤ mcMaxAttributeModifierCount - total ∧
      total' = total + view.modifierCount) start parts total)
    (below : start ≤ mcMaxAttributeModifierCount) :
    ∃ records, (∀ record ∈ records, IsAttribute M mode protocol record.1 record.2) ∧
      records.map Prod.snd = parts ∧ total = start + modifierTotal records ∧
      total ≤ mcMaxAttributeModifierCount := by
  induction steps with
  | nil start => exact ⟨[], nofun, rfl, rfl, below⟩
  | @cons start middle total part parts first _ ih =>
      obtain ⟨view, isAttribute, room, rfl⟩ := first
      obtain ⟨records, each, same, sum, most⟩ := ih (by omega)
      refine ⟨(view, part) :: records, ?_, by rw [List.map_cons, same], ?_, most⟩
      · intro record mem
        cases mem with
        | head => exact isAttribute
        | tail _ mem => exact each record mem
      · rw [sum, modifierTotal, modifierTotal, List.map_cons, List.sum_cons, Nat.add_assoc]

theorem returns_typedDecodeAttributes
    (modifiers : Accepts mode (skipAttributeModifier protocol).run fun _ bytes => M bytes) :
    Returns mode (typedDecodeAttributes protocol).run fun packet =>
      ∃ records, packet.Holds M mode protocol records := by
  have entity : Local mode (readEntityId protocol).run := .ite .i32 .varint
  have counted : Local mode (typedAttributeCount protocol).run := .ite .varint .i32
  refine entity.returns.bind fun entityId _ => counted.returns.bind fun count _ =>
    (Returns.rejectWhen 0).bind fun _ bounds => ?_
  rw [not_or, not_lt, not_lt] at bounds
  have sliced := (Accepts.steps (accepts_readAttribute modifiers) count.toNat 0).slicedWith
    (f := fun total attributes =>
      (⟨entityId, count.toNat, total, attributes⟩ : McUpdateAttributesPacket))
  have list := sliced.returns
    (P := fun packet => ∃ records, packet.Holds M mode protocol records) (by
      rintro _ _ ⟨total, ⟨parts, length, steps, rfl⟩, rfl⟩
      obtain ⟨records, each, rfl, sum, most⟩ := steps_attributes steps (Nat.zero_le _)
      rw [Nat.zero_add] at sum
      rw [List.length_map] at length
      exact ⟨records, each, length.symm, by omega, sum, most, rfl⟩)
  have checked := list.bind
    (R := fun packet : McUpdateAttributesPacket => ∃ records, packet.Holds M mode protocol records)
    fun packet holds =>
    (Returns.rejectWhen 0 : Returns mode (typedRequire (0 ≤ entityId)).run _).bind fun _ _ =>
      .pure holds
  simp only [Prog.bind_assoc, Prog.pure_bind] at checked
  exact checked

/-- The iterator stands in front of attributes that the decoder has accepted. -/
structure McAttributeIterator.Ahead (iterator : McAttributeIterator) (M : List UInt8 → Prop)
    (protocol : Int) (records : List (McAttributeView × List UInt8)) : Prop where
  protocol_eq : iterator.protocol = protocol
  reader : iterator.reader.Ahead (records.map Prod.snd)
  remaining : iterator.remaining = records.length
  modifiers : iterator.remainingModifiers = modifierTotal records
  each : ∀ record ∈ records, IsAttribute M .strict protocol record.1 record.2

/-- What the iterator has not read yet. -/
def McAttributeIterator.unread (iterator : McAttributeIterator) : List UInt8 :=
  iterator.reader.unread

section calls

variable {iterator : McAttributeIterator} {view : McAttributeView} {part : List UInt8}
variable {rest : List (McAttributeView × List UInt8)}

theorem mcAttributeIteratorNext_stop (ahead : iterator.Ahead M protocol []) :
    mcAttributeIteratorNext iterator = (none, iterator) :=
  if_pos ahead.remaining

theorem mcAttributeIteratorNext_part
    (modifiers : Accepts .strict (skipAttributeModifier protocol).run fun _ bytes => M bytes)
    (ahead : iterator.Ahead M protocol ((view, part) :: rest)) :
    ∃ next, mcAttributeIteratorNext iterator = (some view, next) ∧
      iterator.unread = part ++ next.unread ∧ next.Ahead M protocol rest := by
  obtain ⟨rfl, reader, remaining, total, each⟩ := ahead
  have sum : iterator.remainingModifiers = view.modifierCount + modifierTotal rest := by
    rw [total, modifierTotal, List.map_cons, List.sum_cons]
    rfl
  have isAttribute := each _ List.mem_cons_self
  have run := reader.reads ((accepts_readAttributeView modifiers iterator.remainingModifiers).complete
    ⟨isAttribute, by rw [sum]; exact Nat.le_add_right _ _⟩)
  have behind := reader.advance
  have finished : ¬ (iterator.remaining - 1 = 0 ∧
      (iterator.remainingModifiers - view.modifierCount ≠ 0 ∨
        mcReaderRemaining (iterator.reader.advance part.length) ≠ 0)) := by
    rintro ⟨last, left⟩
    have none : rest = [] := by
      rw [remaining, List.length_cons] at last
      exact List.length_eq_zero_iff.mp (by omega)
    subst none
    rcases left with modifiers | bytes
    · exact modifiers (by rw [sum, Nat.add_sub_cancel_left]; rfl)
    · exact bytes behind.finished
  refine ⟨⟨iterator.reader.advance part.length, iterator.protocol, iterator.remaining - 1,
    iterator.remainingModifiers - view.modifierCount⟩, ?_, ?_, rfl, behind, ?_, ?_, ?_⟩
  · have some : iterator.remaining ≠ 0 := by
      rw [remaining]
      exact Nat.succ_ne_zero _
    unfold mcAttributeIteratorNext
    rw [if_neg some, run]
    exact if_neg finished
  · exact reader.unread.trans (congrArg (part ++ ·) behind.unread.symm)
  · rw [remaining, List.length_cons, Nat.add_sub_cancel]
  · rw [sum, Nat.add_sub_cancel_left]
  · exact fun record mem => each record (List.mem_cons_of_mem _ mem)

end calls

/-- The iterator returns the attributes, whose bytes are the slice of the packet, and no more. -/
structure McUpdateAttributesPacket.Iterates (M : List UInt8 → Prop) (protocol : Int)
    (packet : McUpdateAttributesPacket) (iterator last : McAttributeIterator)
    (records : List (McAttributeView × List UInt8)) : Prop where
  made : mcUpdateAttributesIterator packet protocol = some iterator
  start : iterator.unread = packet.attributes
  takes : Takes mcAttributeIteratorNext McAttributeIterator.unread iterator records last
  each : ∀ record ∈ records, IsAttribute M .strict protocol record.1 record.2
  count : records.length = packet.attributeCount
  modifiers : modifierTotal records = packet.modifierCount
  finish : last.unread = []
  stops : mcAttributeIteratorNext last = (none, last)

theorem McUpdateAttributesPacket.Holds.iterates {packet : McUpdateAttributesPacket}
    {records : List (McAttributeView × List UInt8)} (supported : mcProtocolSupported protocol = true)
    (modifiers : Accepts .strict (skipAttributeModifier protocol).run fun _ bytes => M bytes)
    (holds : packet.Holds M .strict protocol records) :
    ∃ iterator last, packet.Iterates M protocol iterator last records := by
  obtain ⟨each, count, few, sum, room, attributes⟩ := holds
  let iterator : McAttributeIterator :=
    ⟨sliceReader packet.attributes, protocol, packet.attributeCount, packet.modifierCount⟩
  have made : mcUpdateAttributesIterator packet protocol = some iterator := by
    have known : ¬ mcProtocolSupported protocol = false := by simp [supported]
    have empty : packet.attributeCount = 0 → packet.modifierCount = 0 ∧ packet.attributes = [] := by
      intro none
      rw [none] at count
      obtain rfl := List.length_eq_zero_iff.mp count.symm
      exact ⟨sum, attributes⟩
    have some : packet.attributeCount ≠ 0 → packet.attributes ≠ [] := by
      intro nonzero nothing
      cases records with
      | nil => exact nonzero count
      | cons record rest =>
          obtain ⟨view, part⟩ := record
          have isAttribute := each _ List.mem_cons_self
          rw [attributes, List.map_cons, List.flatten_cons, List.append_eq_nil_iff] at nothing
          exact isAttribute.ne_nil nothing.1
    refine if_neg ?_
    rintro (unknown | many | many | ⟨none, wrong⟩ | ⟨nonzero, nothing⟩)
    · exact known unknown
    · omega
    · omega
    · obtain ⟨zero, nothing⟩ := empty none
      exact wrong.elim (fun nonzero => nonzero zero) fun something => something nothing
    · exact some nonzero nothing
  have ahead : iterator.Ahead M protocol records := by
    refine ⟨rfl, ?_, count, sum, each⟩
    change (sliceReader packet.attributes).Ahead _
    rw [attributes]
    exact sliceReader_ahead _
  obtain ⟨last, takes, stop⟩ := Iteration.takes_of_parts
    (fun records (iterator : McAttributeIterator) => iterator.Ahead M protocol records)
    (fun view part rest iterator ahead => mcAttributeIteratorNext_part modifiers ahead) ahead
  refine ⟨iterator, last, made, ?_, takes, each, count.symm, sum.symm, stop.reader.unread,
    mcAttributeIteratorNext_stop stop⟩
  rw [attributes]
  exact ahead.reader.unread

end grammar

/-- What a modifier is is a matter of its bytes alone. -/
theorem Local.skipAttributeModifier {mode : McDecodeMode} (protocol : Int) :
    Local mode (McProtocol.skipAttributeModifier protocol).run := by
  have amount : Local mode (McProtocol.orReject .invalidPacketBody 0 (do
      let amount ← mcReaderDouble
      McProtocol.require (amount.isFinite = true)
      let operation ← mcReaderI8
      McProtocol.require (0 ≤ operation ∧ operation ≤ 2) : ReadM Unit)).run :=
    .orReject (.bind .double fun _ => .bind .require fun _ => .bind .i8 fun _ => .require) 0
  exact .ite (.bind (.orReject (.bind (.readNonempty 256) fun _ => .pure ()) 0) fun _ => amount)
    (.bind .uuid fun _ => amount)

/-- Whatever strict mode accepts the iterator goes through: it returns as many attributes as the
packet counts, with as many modifiers together, the attributes lie in the slice one after the
other up to its end, and there the iterator stops. -/
theorem attributeIterator_agrees (library : PacketLibrary) (arguments : McDecodeArguments)
    (error : Option McError) (packet : McUpdateAttributesPacket)
    (accepted : (mcDecodePacket library { arguments with mode := 1 } error).packet =
      some (.attributes packet)) :
    ∃ M, Accepts .strict (skipAttributeModifier arguments.protocol).run (fun _ bytes => M bytes) ∧
      ∃ iterator last records, packet.Iterates M arguments.protocol iterator last records := by
  obtain ⟨after, accepted⟩ := mcDecodePacket_accepted accepted
  obtain ⟨M, reads⟩ : ∃ M : Unit → List UInt8 → Prop,
      Accepts .strict (skipAttributeModifier arguments.protocol).run M :=
    Local.skipAttributeModifier arguments.protocol
  obtain ⟨G, accepts, holds⟩ := returns_typedDecodeAttributes (M := M ()) reads
  have derived := accepts.payload (show _ = McDecodeMode.strict from rfl) accepted.decoded
    accepted.whole
  obtain ⟨records, holds⟩ := holds _ _ derived
  obtain ⟨iterator, last, iterates⟩ := holds.iterates accepted.supported reads
  exact ⟨M (), reads, iterator, last, records, iterates⟩

/-- Two attributes of 1.8: one with a modifier, and one without. -/
theorem attributeIterator_agrees_modified :
    let attributes : List UInt8 := [1, 97, 63, 240, 0, 0, 0, 0, 0, 0, 1, 0, 0, 0, 0, 0, 0, 0, 0, 0, 0, 0,
      0, 0, 0, 0, 7, 63, 224, 0, 0, 0, 0, 0, 0, 2, 2, 98, 99, 64, 0, 0, 0, 0, 0, 0, 0, 0]
    ∃ M, Accepts .strict (skipAttributeModifier 47).run (fun _ bytes => M bytes) ∧
      ∃ iterator last records,
        (⟨5, 2, 1, attributes⟩ : McUpdateAttributesPacket).Iterates M 47 iterator last records :=
  attributeIterator_agrees (plainLibrary ["update_attributes"] 60 (by decide))
    (playArguments 47 1 0 1 [5, 0, 0, 0, 2, 1, 97, 63, 240, 0, 0, 0, 0, 0, 0, 1, 0, 0, 0, 0, 0, 0, 0, 0,
      0, 0, 0, 0, 0, 0, 0, 7, 63, 224, 0, 0, 0, 0, 0, 0, 2, 2, 98, 99, 64, 0, 0, 0, 0, 0, 0, 0, 0] 60)
    none _ (by decide +kernel)

end McProtocol
