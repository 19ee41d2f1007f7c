import McProtocol.Direct.PlayerInfo
import McProtocol.Typed.World

/-! # Lists that a default reader accepts

The decoders of removed entities, of player info and of the time say how many entries they have
walked over, in the mode of their reader. A reader that is made without a mode is lenient, the
iterators are not.
-/

namespace McProtocol

open McCountedIterator (Drained)

structure McClientboundRemoveEntities where
  entityCount : Nat
  entityIds : List UInt8
  fixedI32Ids : Bool
  deriving Repr, DecidableEq

/-- The count: a byte up to 5, and none in 755, whose list has one id. -/
def readEntityCount (protocol : Int) : ReadM Nat := do
  let count ← (if protocol ≤ 5 then do
      let legacyCount ← mcReaderU8
      pure (legacyCount.toNat : Int)
    else if protocol = 755 then pure 1
    else mcReaderVarint)
  typedRequire (0 ≤ count ∧ count ≤ mcMaxPacketArrayCount)
  pure count.toNat

def readListedEntity (fixedI32Ids : Bool) : ReadM Int := orReject .invalidPacketBody 0 do
  let entityId ← (if fixedI32Ids = true then mcReaderI32 else mcReaderVarint)
  require (0 ≤ entityId)
  pure entityId

def skipListedEntity (fixedI32Ids : Bool) : ReadM Unit := do
  let _ ← readListedEntity fixedI32Ids

/-- An unsupported release fails without a code. -/
def mcReaderClientboundRemoveEntities (protocol : Int) :
    DecodeM protocol McClientboundRemoveEntities :=
  if mcProtocolSupported protocol = false then .orFailed .refuse
  else do
    let entityCount ← readEntityCount protocol
    let start ← mcReaderOffset
    (.iterate (fun _ => skipListedEntity (decide (protocol ≤ 5))) entityCount () : ReadM Unit)
    let entityIds ← readSince start
    pure ⟨entityCount, entityIds, decide (protocol ≤ 5)⟩

abbrev McEntityIdIterator := McCountedIterator Bool

/-- The slice of a decoded packet is never null. -/
def mcRemoveEntitiesIterator (packet : McClientboundRemoveEntities) : Option McEntityIdIterator :=
  if mcMaxPacketArrayCount < packet.entityCount then none
  else some ⟨sliceReader packet.entityIds, packet.entityCount, packet.fixedI32Ids⟩

def mcEntityIdIteratorNext : McEntityIdIterator → Option Int × McEntityIdIterator :=
  McCountedIterator.next readListedEntity

/-- The iterator returns as many ids as the packet counts, and then no more. -/
def McClientboundRemoveEntities.Iterates (packet : McClientboundRemoveEntities) : Prop :=
  ∃ iterator, mcRemoveEntitiesIterator packet = some iterator ∧
    iterator.remaining = packet.entityCount ∧ iterator.Drained mcEntityIdIteratorNext

abbrev McClockUpdateIterator := McCountedIterator Unit

def mcTimeUpdateIterator (packet : McTimeUpdatePacket) : Option McClockUpdateIterator :=
  if packet.hasClockUpdates = false ∨ packet.hasTimeOfDay = true ∨ packet.hasTickDayTime = true
      ∨ mcMaxClockUpdateCount < packet.clockUpdateCount
      ∨ packet.clockUpdateCount = 0 ∧ packet.clockUpdates ≠ []
      ∨ packet.clockUpdateCount ≠ 0 ∧ packet.clockUpdates = [] then none
  else some ⟨sliceReader packet.clockUpdates, packet.clockUpdateCount, ()⟩

def mcTimeUpdateIteratorNext :
    McClockUpdateIterator → Option McClockUpdate × McClockUpdateIterator :=
  McCountedIterator.next fun _ => readerClockUpdate

/-- The iterator returns as many clocks as the packet counts, and then no more. -/
def McTimeUpdatePacket.Iterates (packet : McTimeUpdatePacket) : Prop :=
  ∃ iterator, mcTimeUpdateIterator packet = some iterator ∧
    iterator.remaining = packet.clockUpdateCount ∧ iterator.Drained mcTimeUpdateIteratorNext

/-- The entry that a call returns. -/
def nextPlayerInfo (iterator : McPlayerInfoIterator) :
    Option McPlayerInfoEntry × McPlayerInfoIterator :=
  match mcPlayerInfoIteratorNext iterator (.initial 0) with
  | (true, after, entry) => (some entry, after)
  | (false, after, _) => (none, after)

theorem nextPlayerInfo_eq : nextPlayerInfo = McCountedIterator.next readerPlayerInfoEntry := by
  funext iterator
  obtain ⟨reader, remaining, layout⟩ := iterator
  unfold nextPlayerInfo mcPlayerInfoIteratorNext McCountedIterator.next nextCounted
  dsimp only
  split_ifs with done
  · rw [done]
  · rcases (readerPlayerInfoEntry layout).run reader with ⟨_ | entry, after⟩
    · rfl
    · dsimp only
      split_ifs <;> rfl

/-- The iterator returns as many players as the packet counts, and then no more. -/
def McClientboundPlayerInfo.Iterates (packet : McClientboundPlayerInfo) (protocol : Int) : Prop :=
  ∃ iterator, mcPlayerInfoIterator packet protocol = some iterator ∧
    iterator.remaining = packet.entryCount ∧ iterator.Drained nextPlayerInfo

section languages

variable (mode : McDecodeMode) (protocol : Int)

def IsEntityCount (count : Nat) (bytes : List UInt8) : Prop :=
  count ≤ mcMaxPacketArrayCount ∧
    if protocol ≤ 5 then ∃ byte : UInt8, byte.toNat = count ∧ bytes = [byte]
    else if protocol = 755 then count = 1 ∧ bytes = []
    else IsVarint mode count bytes

def IsListedEntity (fixedI32Ids : Bool) (bytes : List UInt8) : Prop :=
  if fixedI32Ids = true then ∃ id : Int, 0 ≤ id ∧ IsInt32 id ∧ bytes = int32Bytes id
  else IsVarintIn mode (0 ≤ ·) bytes

/-- The age of the world, and the count of the clocks. -/
def IsClockHeader (header : Int × Nat) : List UInt8 → Prop :=
  Then (fun bytes => IsInt64 header.1 ∧ bytes = BigEndian.bytes 8 (toUnsigned 64 header.1))
    fun bytes => header.2 ≤ mcMaxClockUpdateCount ∧ IsVarint mode header.2 bytes

def IsFiniteFloat (bytes : List UInt8) : Prop :=
  ∃ value : McFloat, value.isFinite = true ∧ bytes = BigEndian.bytes 4 value.bits.toNat

def IsClockUpdate : List UInt8 → Prop :=
  Then (IsVarintIn mode (0 ≤ ·)) (Then (fun bytes => ∃ ticks, IsVarlong mode ticks bytes)
    (Then IsFiniteFloat IsFiniteFloat))

/-- The action or the mask of a message, and its count. -/
def IsPlayerInfoHeader (header : Nat × PlayerInfoLayout) (bytes : List UInt8) : Prop :=
  header.1 ≤ mcMaxPacketArrayCount ∧
    if protocol ≤ 5 then header = (1, ⟨protocol, 0, -1, true, false⟩) ∧ bytes = []
    else if protocol ≤ 760 then ∃ action fields, playerInfoFieldsFromAction action = some fields ∧
      header.2 = ⟨protocol, fields, action, false, false⟩ ∧
      Then (IsVarint mode action) (IsVarint mode header.1) bytes
    else ∃ mask fields, playerInfoFieldsFromMask protocol mask = some fields ∧ fields ≠ 0 ∧
      header.2 = ⟨protocol, fields, -1, false, true⟩ ∧
      Then (· = [mask]) (IsVarint mode header.1) bytes

end languages

section accepted

variable {mode : McDecodeMode} {protocol : Int}

theorem accepts_readEntityCount :
    Accepts mode (readEntityCount protocol).run (IsEntityCount mode protocol) := by
  refine Accepts.congr (.bind (.either (.bind accepts_u8 fun count => .pure (count.toNat : Int))
    (.either (.pure 1) accepts_varint)) fun count =>
      .guarded accepts_typedRequire (.pure count.toNat)) fun count bytes => ?_
  unfold IsEntityCount
  by_cases old : protocol ≤ 5
  · simp only [if_pos old]
    constructor
    · rintro ⟨_, _, _, rfl, ⟨byte, _, _, rfl, rfl, rfl, rfl⟩, small, rfl, rfl⟩
      exact ⟨by omega, byte, rfl, rfl⟩
    · rintro ⟨few, byte, rfl, rfl⟩
      exact ⟨byte.toNat, [byte], [], rfl, ⟨byte, [byte], [], rfl, rfl, rfl, rfl⟩, by omega, rfl, rfl⟩
  by_cases single : protocol = 755
  · simp only [if_neg old, if_pos single]
    constructor
    · rintro ⟨_, _, _, rfl, ⟨rfl, rfl⟩, -, rfl, rfl⟩
      exact ⟨by decide, rfl, rfl⟩
    · rintro ⟨-, rfl, rfl⟩
      exact ⟨1, [], [], rfl, ⟨rfl, rfl⟩, by decide, rfl, rfl⟩
  · simp only [if_neg old, if_neg single]
    constructor
    · rintro ⟨value, head, _, rfl, isVarint, ⟨natural, few⟩, rfl, rfl⟩
      rw [List.append_nil, Int.toNat_of_nonneg natural]
      exact ⟨by omega, isVarint⟩
    · rintro ⟨few, isVarint⟩
      exact ⟨count, bytes, [], (List.append_nil _).symm, isVarint, by omega, rfl, rfl⟩

theorem Spans.listedEntity (fixedI32Ids : Bool) :
    Spans mode (readListedEntity fixedI32Ids).run (IsListedEntity mode fixedI32Ids) := by
  refine Spans.rescue (Spans.congr (.bindWith (.either accepts_i32 accepts_varint) fun id =>
    .guarded accepts_require (.pure id)) fun bytes => ?_) _
  unfold IsListedEntity
  by_cases fixed : fixedI32Ids = true
  · simp only [if_pos fixed]
    constructor
    · rintro ⟨id, _, _, rfl, ⟨int, rfl⟩, natural, rfl⟩
      exact ⟨id, natural, int, List.append_nil _⟩
    · rintro ⟨id, natural, int, rfl⟩
      exact ⟨id, _, [], (List.append_nil _).symm, ⟨int, rfl⟩, natural, rfl⟩
  · simp only [if_neg fixed]
    constructor
    · rintro ⟨id, _, _, rfl, isVarint, natural, rfl⟩
      rw [List.append_nil]
      exact ⟨id, natural, isVarint⟩
    · rintro ⟨id, natural, isVarint⟩
      exact ⟨id, bytes, [], (List.append_nil _).symm, isVarint, natural, rfl⟩

theorem Spans.clockUpdate : Spans mode readerClockUpdate.run (IsClockUpdate mode) := by
  have finished (id totalTicks : Int) (partialTick rate : McFloat) : Spans mode (do
      require (partialTick.isFinite = true ∧ rate.isFinite = true)
      Pure.pure ⟨id, totalTicks, partialTick, rate⟩ : ReadM McClockUpdate).run
      fun bytes => (partialTick.isFinite = true ∧ rate.isFinite = true) ∧ bytes = [] :=
    .guarded accepts_require (.pure _)
  refine Spans.rescue (Spans.congr (.bindWith accepts_varint fun id =>
    .guarded accepts_require (.bind accepts_varlong.spans fun totalTicks =>
      .bindWith accepts_float fun partialTick => .bindWith accepts_float fun rate =>
        finished id totalTicks partialTick rate)) fun bytes => ⟨?_, ?_⟩) _
  · rintro ⟨id, code, _, rfl, isVarint, natural, ticks, _, rfl, isTicks, first, _, _, rfl, rfl,
      second, _, _, rfl, rfl, ⟨finite, finite'⟩, rfl⟩
    rw [List.append_nil]
    exact ⟨code, _, rfl, ⟨id, natural, isVarint⟩, ticks, _, rfl, isTicks, _, _, rfl,
      ⟨first, finite, rfl⟩, second, finite', rfl⟩
  · rintro ⟨code, _, rfl, ⟨id, natural, isVarint⟩, ticks, _, rfl, isTicks, _, _, rfl,
      ⟨first, finite, rfl⟩, second, finite', rfl⟩
    exact ⟨id, code, _, rfl, isVarint, natural, ticks, _, rfl, isTicks, first, _, _, rfl, rfl,
      second, _, [], (List.append_nil _).symm, rfl, ⟨finite, finite'⟩, rfl⟩

theorem accepts_readDefined {α : Type} (value : Option α) :
    Accepts mode (readDefined value).run fun a bytes => value = some a ∧ bytes = [] := by
  cases value with
  | none => exact Accepts.congr (.refused fun _ => rfl) fun _ _ => ⟨False.elim, nofun⟩
  | some a =>
      refine Accepts.congr (.pure a) fun b bytes => ?_
      rw [Option.some.injEq, eq_comm]

theorem accepts_readPlayerInfoHeader :
    Accepts mode (readPlayerInfoHeader protocol).run (IsPlayerInfoHeader mode protocol) := by
  unfold readPlayerInfoHeader IsPlayerInfoHeader
  by_cases old : protocol ≤ 5
  · simp only [if_pos old]
    refine Accepts.congr (.pure _) fun header bytes => ⟨?_, And.right⟩
    rintro ⟨rfl, rfl⟩
    exact ⟨show 1 ≤ mcMaxPacketArrayCount by decide, rfl, rfl⟩
  by_cases action : protocol ≤ 760
  · simp only [if_neg old, if_pos action]
    refine Accepts.congr (accepts_orReject (.bind accepts_varint fun action =>
      .bind (accepts_readDefined _) fun fields => .bind accepts_varint fun count =>
        .guarded accepts_require
          (.pure (count.toNat, (⟨protocol, fields, action, false, false⟩ : PlayerInfoLayout)))) 0)
      fun header bytes => ⟨?_, ?_⟩
    · rintro ⟨action, _, _, rfl, isAction, fields, _, _, rfl, ⟨known, rfl⟩, count, _, _, rfl,
        isCount, ⟨natural, few⟩, rfl, rfl⟩
      rw [List.append_nil, List.nil_append]
      rw [← Int.toNat_of_nonneg natural] at isCount
      exact ⟨by omega, action, fields, known, rfl, _, _, rfl, isAction, isCount⟩
    · obtain ⟨count, layout⟩ := header
      rintro ⟨few, action, fields, known, rfl, _, code, rfl, isAction, isCount⟩
      exact ⟨action, _, _, rfl, isAction, fields, [], _, rfl, ⟨known, rfl⟩, count, code, [],
        (List.append_nil _).symm, isCount, by omega, rfl, rfl⟩
  · simp only [if_neg old, if_neg action]
    refine Accepts.congr (accepts_orReject (.bind accepts_u8 fun mask =>
      .bind (accepts_readDefined _) fun fields => .guarded accepts_require (.bind accepts_varint
        fun count => .guarded accepts_require
          (.pure (count.toNat, (⟨protocol, fields, -1, false, true⟩ : PlayerInfoLayout))))) 0)
      fun header bytes => ⟨?_, ?_⟩
    · rintro ⟨mask, _, _, rfl, rfl, fields, _, _, rfl, ⟨known, rfl⟩, some, count, _, _, rfl,
        isCount, ⟨natural, few⟩, rfl, rfl⟩
      rw [List.append_nil, List.nil_append]
      rw [← Int.toNat_of_nonneg natural] at isCount
      exact ⟨by omega, mask, fields, known, some, rfl, _, _, rfl, rfl, isCount⟩
    · obtain ⟨count, layout⟩ := header
      rintro ⟨few, mask, fields, known, some, rfl, _, code, rfl, rfl, isCount⟩
      exact ⟨mask, _, _, rfl, rfl, fields, [], _, rfl, ⟨known, rfl⟩, some, count, code, [],
        (List.append_nil _).symm, isCount, by omega, rfl, rfl⟩

end accepted

/-- An iterator that is made is the one that is meant. -/
theorem exists_some_iff {σ : Type} {made : σ} {P : σ → Prop} :
    (∃ iterator, some made = some iterator ∧ P iterator) ↔ P made := by
  simp

section bodies

variable {protocol : Int} {body : List UInt8} {after : McReader}

theorem Spans.skipListedEntity {mode : McDecodeMode} (fixedI32Ids : Bool) :
    Spans mode (McProtocol.skipListedEntity fixedI32Ids).run (IsListedEntity mode fixedI32Ids) :=
  .last (.listedEntity fixedI32Ids) fun _ => .pure ()

/-- The ids of a body whose numbers are no longer than they have to be. -/
def HasShortEntityIds (protocol : Int) : List UInt8 → Prop :=
  HasEntries (IsEntityCount .vanillaCompat protocol) id
    fun _ => IsListedEntity .strict (decide (protocol ≤ 5))

theorem removeEntities_iterates_iff {packet : McClientboundRemoveEntities}
    (ran : (mcReaderClientboundRemoveEntities protocol).run (mcReaderInit body) =
      (some packet, after)) :
    packet.Iterates ↔ HasShortEntityIds protocol body := by
  unfold mcReaderClientboundRemoveEntities at ran
  by_cases supported : mcProtocolSupported protocol = false
  · rw [if_pos supported] at ran
    cases ran
  rw [if_neg supported] at ran
  obtain ⟨count, head, parts, rest, -, isCount, length, each, rfl, rfl, -⟩ :=
    listed_sound (P := fun _ _ => True) accepts_readEntityCount
      (fun count => .iterate (fun _ => .skipListedEntity (decide (protocol ≤ 5))) count ())
      (fun _ _ _ _ _ => trivial) rfl (mcReaderInit_before _) ran
  have made : mcRemoveEntitiesIterator ⟨count, parts.flatten, decide (protocol ≤ 5)⟩ =
      some ⟨sliceReader parts.flatten, count, decide (protocol ≤ 5)⟩ :=
    if_neg (not_lt.mpr isCount.1)
  rw [McClientboundRemoveEntities.Iterates, made, exists_some_iff]
  have drained : (⟨sliceReader parts.flatten, parts.length, decide (protocol ≤ 5)⟩ :
      McEntityIdIterator).Drained mcEntityIdIteratorNext ↔
        ∀ part ∈ parts, IsListedEntity .strict (decide (protocol ≤ 5)) part :=
    McCountedIterator.drained_iff (.listedEntity _) (.listedEntity _) each
  have shown : HasShortEntityIds protocol (head ++ (parts.flatten ++ rest)) ↔
      ∀ part ∈ parts, IsListedEntity .strict (decide (protocol ≤ 5)) part :=
    hasEntries_iff accepts_readEntityCount (fun _ => .listedEntity _) (fun _ => .listedEntity _)
      isCount length each
  rw [length] at drained
  exact (and_iff_right rfl).trans (drained.trans shown.symm)

/-- The clocks of a body whose numbers are no longer than they have to be. -/
def HasShortClocks : List UInt8 → Prop :=
  HasEntries (IsClockHeader .vanillaCompat) Prod.snd fun _ => IsClockUpdate .strict

theorem accepts_clockHeader {mode : McDecodeMode} : Accepts mode (do
    let age ← mcReaderI64
    let count ← mcReaderVarint
    typedCount count mcMaxClockUpdateCount
    pure (age, count.toNat) : ReadM (Int × Nat)).run (IsClockHeader mode) := by
  refine Accepts.congr (.bind accepts_i64 fun age => .bind accepts_varint fun count =>
    .guarded (accepts_rejectWhen 0) (.pure (age, count.toNat))) fun header bytes => ⟨?_, ?_⟩
  · rintro ⟨age, head, _, rfl, isAge, count, code, _, rfl, isVarint, small, rfl, rfl⟩
    have natural : 0 ≤ count := by omega
    rw [List.append_nil]
    rw [← Int.toNat_of_nonneg natural] at isVarint
    exact ⟨head, code, rfl, isAge, show count.toNat ≤ mcMaxClockUpdateCount by omega, isVarint⟩
  · obtain ⟨age, count⟩ := header
    rintro ⟨head, code, rfl, isAge, few, isVarint⟩
    exact ⟨age, head, code, rfl, isAge, count, code, [], (List.append_nil _).symm, isVarint,
      by dsimp only at few; omega, rfl, rfl⟩

theorem Spans.skipClockUpdate {mode : McDecodeMode} :
    Spans mode McProtocol.skipClockUpdate.run (IsClockUpdate mode) :=
  .last .clockUpdate fun _ => .pure ()

/-- A clock takes bytes. -/
theorem IsClockUpdate.ne_nil {mode : McDecodeMode} {part : List UInt8}
    (isClock : IsClockUpdate mode part) : part ≠ [] := by
  obtain ⟨_, _, rfl, -, _, _, rfl, -, _, _, rfl, ⟨value, -, rfl⟩, -⟩ := isClock
  intro none
  have length := congrArg List.length none
  simp at length

theorem timeUpdate_iterates_iff {packet : McTimeUpdatePacket}
    (ran : (mcReaderClientboundTimeUpdate protocol).run (mcReaderInit body) = (some packet, after))
    (clocks : packet.hasClockUpdates = true) : packet.Iterates ↔ HasShortClocks body := by
  unfold mcReaderClientboundTimeUpdate at ran
  by_cases supported : mcProtocolSupported protocol = false
  · rw [if_pos supported] at ran
    cases ran
  rw [if_neg supported] at ran
  by_cases early : protocol < 775
  · simp only [if_pos early] at ran
    obtain ⟨age, _, -, ran⟩ := Prog.bind_eq_some ran
    obtain ⟨timeOfDay, _, -, ran⟩ := Prog.bind_eq_some ran
    obtain ⟨tickDayTime, _, -, ran⟩ := Prog.bind_eq_some ran
    cases ran
    cases clocks
  simp only [if_neg early] at ran
  have shape : ((do
      let age ← mcReaderI64
      let count ← mcReaderVarint
      typedCount count mcMaxClockUpdateCount
      pure (age, count.toNat) : ReadM (Int × Nat)).run >>= fun header =>
        mcReaderOffset.run >>= fun start =>
          Prog.iterate (fun _ => McProtocol.skipClockUpdate.run) header.2 () >>= fun _ =>
            (readSince start).run >>= fun slice => Pure.pure
              (⟨header.1, 0, header.2, slice, false, false, false, true⟩ : McTimeUpdatePacket))
        (mcReaderInit body) = (some packet, after) := by
    simp only [Program.run_bind, Prog.bind_assoc, Program.run_pure, Prog.pure_bind]
    exact ran
  obtain ⟨⟨age, count⟩, head, parts, rest, -, isHeader, length, each, rfl, rfl, -⟩ :=
    listed_sound (P := fun _ _ => True) accepts_clockHeader
      (fun header => .iterate (fun _ => .skipClockUpdate) header.2 ())
      (fun _ _ _ _ _ => trivial) rfl (mcReaderInit_before _) shape
  change parts.length = count at length
  have few : count ≤ mcMaxClockUpdateCount := by
    obtain ⟨_, _, -, -, few, -⟩ := isHeader
    exact few
  have made : mcTimeUpdateIterator ⟨age, 0, count, parts.flatten, false, false, false, true⟩ =
      some ⟨sliceReader parts.flatten, count, ()⟩ := by
    refine if_neg ?_
    rintro (bad | bad | bad | many | ⟨none, some⟩ | ⟨some, none⟩)
    · cases bad
    · cases bad
    · cases bad
    · exact absurd few (not_le.mpr many)
    · dsimp only at none some
      rw [List.length_eq_zero_iff.mp (length.trans none)] at some
      exact some rfl
    · dsimp only at none some
      cases parts with
      | nil => exact some length.symm
      | cons part parts =>
          obtain ⟨nothing, -⟩ := List.append_eq_nil_iff.mp none
          exact (each part List.mem_cons_self).ne_nil nothing
  rw [McTimeUpdatePacket.Iterates, made, exists_some_iff]
  have drained : (⟨sliceReader parts.flatten, parts.length, ()⟩ : McClockUpdateIterator).Drained
      mcTimeUpdateIteratorNext ↔ ∀ part ∈ parts, IsClockUpdate .strict part :=
    McCountedIterator.drained_iff .clockUpdate .clockUpdate each
  have shown : HasShortClocks (head ++ (parts.flatten ++ rest)) ↔
      ∀ part ∈ parts, IsClockUpdate .strict part :=
    hasEntries_iff accepts_clockHeader (fun _ => .clockUpdate) (fun _ => .clockUpdate) isHeader length
      each
  rw [length] at drained
  exact (and_iff_right rfl).trans (drained.trans shown.symm)

/-- The players of a body whose numbers are no longer than they have to be, and whose booleans are
0 or 1. -/
def HasShortPlayers (protocol : Int) : List UInt8 → Prop :=
  HasEntries (IsPlayerInfoHeader .vanillaCompat protocol) Prod.fst
    fun header => IsPlayerInfoEntry .strict header.2

section fields

variable {mode : McDecodeMode} {layout : PlayerInfoLayout} {fields next : Nat}

/-- The fields stay what the header says, unless an entry with a name has its own. -/
def PlayerInfoLayout.Keeps (layout : PlayerInfoLayout) (fields : Nat) : Prop :=
  layout.legacyNameLayout = false → fields = layout.fields

theorem PlayerInfoLayout.Keeps.isEntry (keeps : layout.Keeps fields) :
    IsPlayerInfoEntry mode { layout with fields := fields } = IsPlayerInfoEntry mode layout := by
  by_cases legacy : layout.legacyNameLayout = true
  · unfold IsPlayerInfoEntry
    rw [if_pos legacy, if_pos legacy]
  · rw [keeps (eq_false_of_ne_true legacy)]

theorem Spans.skipPlayerInfoEntry (keeps : layout.Keeps fields) :
    Spans mode (McProtocol.skipPlayerInfoEntry layout fields).run (IsPlayerInfoEntry mode layout) := by
  rw [← keeps.isEntry]
  exact .last (.playerInfoEntry _) fun _ => .pure _

theorem skipPlayerInfoEntry_keeps (keeps : layout.Keeps fields) {reader after : McReader}
    (ran : (skipPlayerInfoEntry layout fields).run reader = (some next, after)) :
    layout.Keeps next := by
  intro modern
  obtain ⟨entry, _, _, returned⟩ := Prog.bind_eq_some ran
  rw [modern] at returned
  cases returned
  exact keeps modern

theorem skipPlayerInfoEntries_keeps {count : Nat} (keeps : layout.Keeps fields)
    {reader after : McReader}
    (ran : (.iterate (skipPlayerInfoEntry layout) count fields : ReadM Nat).run reader =
      (some next, after)) : layout.Keeps next := by
  induction count generalizing fields reader with
  | zero =>
      cases ran
      exact keeps
  | succ count ih =>
      obtain ⟨middle, _, entry, behind⟩ := Prog.bind_eq_some ran
      exact ih (skipPlayerInfoEntry_keeps keeps entry) behind

theorem Spans.skipPlayerInfoEntries (layout : PlayerInfoLayout) (count : Nat) :
    Spans mode (.iterate (McProtocol.skipPlayerInfoEntry layout) count layout.fields : ReadM Nat).run
      (Parts (IsPlayerInfoEntry mode layout) count) :=
  .iterateWhere (P := layout.Keeps) (fun _ keeps => .skipPlayerInfoEntry keeps)
    (fun _ keeps _ _ _ ran => skipPlayerInfoEntry_keeps keeps ran) count layout.fields fun _ => rfl

end fields

theorem IsPlayerInfoHeader.protocol_eq {mode : McDecodeMode} {header : Nat × PlayerInfoLayout}
    {bytes : List UInt8} (isHeader : IsPlayerInfoHeader mode protocol header bytes) :
    header.2.protocol = protocol := by
  obtain ⟨-, layout⟩ := isHeader
  split_ifs at layout with old action
  · rw [layout.1]
  · obtain ⟨_, _, -, same, -⟩ := layout
    rw [same]
  · obtain ⟨_, _, -, -, same, -⟩ := layout
    rw [same]

theorem playerInfo_iterates_iff {packet : McClientboundPlayerInfo}
    (ran : (mcReaderClientboundPlayerInfo protocol).run (mcReaderInit body) =
      (some packet, after)) :
    packet.Iterates protocol ↔ HasShortPlayers protocol body := by
  unfold mcReaderClientboundPlayerInfo at ran
  by_cases supported : mcProtocolSupported protocol = false
  · rw [if_pos supported] at ran
    cases ran
  rw [if_neg supported] at ran
  obtain ⟨⟨count, layout⟩, head, parts, rest, fields, isHeader, length, each, rfl, rfl, keeps⟩ :=
    listed_sound (P := fun header fields => header.2.Keeps fields) accepts_readPlayerInfoHeader
      (fun header => .skipPlayerInfoEntries header.2 header.1)
      (fun header _ _ _ ran => skipPlayerInfoEntries_keeps (fun _ => rfl) ran) rfl
      (mcReaderInit_before _) ran
  change parts.length = count at length
  change layout.Keeps fields at keeps
  have made : mcPlayerInfoIterator ⟨count, fields, layout.legacyAction, parts.flatten,
      layout.legacyNameLayout, layout.fieldMaskLayout⟩ protocol =
        some ⟨sliceReader parts.flatten, count, { layout with fields := fields }⟩ := by
    have same : layout.protocol = protocol := isHeader.protocol_eq
    refine (if_neg ?_).trans (by rw [← same])
    rintro (unknown | many)
    · exact supported unknown
    · exact absurd isHeader.1 (not_le.mpr many)
  rw [McClientboundPlayerInfo.Iterates, made, exists_some_iff, nextPlayerInfo_eq]
  have strict : Spans .strict (readerPlayerInfoEntry { layout with fields := fields }).run
      (IsPlayerInfoEntry .strict layout) := by
    rw [← keeps.isEntry]
    exact .playerInfoEntry _
  have compat : Spans .vanillaCompat (readerPlayerInfoEntry { layout with fields := fields }).run
      (IsPlayerInfoEntry .vanillaCompat layout) := by
    rw [← keeps.isEntry]
    exact .playerInfoEntry _
  have drained : (⟨sliceReader parts.flatten, parts.length, { layout with fields := fields }⟩ :
      McPlayerInfoIterator).Drained (McCountedIterator.next readerPlayerInfoEntry) ↔
        ∀ part ∈ parts, IsPlayerInfoEntry .strict layout part :=
    McCountedIterator.drained_iff strict compat each
  have shown : HasShortPlayers protocol (head ++ (parts.flatten ++ rest)) ↔
      ∀ part ∈ parts, IsPlayerInfoEntry .strict layout part :=
    hasEntries_iff accepts_readPlayerInfoHeader (fun header => .playerInfoEntry header.2)
      (fun header => .playerInfoEntry header.2) isHeader length each
  rw [length] at drained
  exact (and_iff_right rfl).trans (drained.trans shown.symm)

end bodies

/-- What a default reader accepts the iterators go through exactly where strict mode would accept
the entries too: over-long numbers, and booleans other than 0 and 1, stop them. -/
theorem defaultReaders_iterate_iff (protocol : Int) (body : List UInt8) (after : McReader) :
    (∀ packet, (mcReaderClientboundRemoveEntities protocol).run (mcReaderInit body) =
        (some packet, after) → (packet.Iterates ↔ HasShortEntityIds protocol body)) ∧
    (∀ packet, (mcReaderClientboundPlayerInfo protocol).run (mcReaderInit body) =
        (some packet, after) → (packet.Iterates protocol ↔ HasShortPlayers protocol body)) ∧
    (∀ packet, (mcReaderClientboundTimeUpdate protocol).run (mcReaderInit body) =
        (some packet, after) → packet.hasClockUpdates = true →
          (packet.Iterates ↔ HasShortClocks body)) :=
  ⟨fun _ ran => removeEntities_iterates_iff ran, fun _ ran => playerInfo_iterates_iff ran,
    fun _ ran clocks => timeUpdate_iterates_iff ran clocks⟩

/-- Three entities, two players that leave, and two clocks. -/
theorem defaultReaders_iterate_iff_several :
    let players : List UInt8 := List.replicate 16 7 ++ List.replicate 16 9
    let clocks : List UInt8 :=
      [1, 20, 0, 0, 0, 0, 63, 128, 0, 0, 2, 0x80, 1, 0, 0, 0, 0, 63, 128, 0, 0]
    ((⟨3, [5, 0x81, 1, 7], false⟩ : McClientboundRemoveEntities).Iterates ↔
        HasShortEntityIds 47 [3, 5, 0x81, 1, 7]) ∧
      ((⟨2, mcPlayerInfoRemovePlayer, 4, players, false, false⟩ : McClientboundPlayerInfo).Iterates 47 ↔
        HasShortPlayers 47 (4 :: 2 :: players)) ∧
      ((⟨9, 0, 2, clocks, false, false, false, true⟩ : McTimeUpdatePacket).Iterates ↔
        HasShortClocks ([0, 0, 0, 0, 0, 0, 0, 9, 2] ++ clocks)) := by
  intro players clocks
  refine ⟨?_, ?_, ?_⟩
  · exact (defaultReaders_iterate_iff 47 [3, 5, 0x81, 1, 7] _).1 _
      (Prod.ext (by decide +kernel) rfl)
  · exact (defaultReaders_iterate_iff 47 (4 :: 2 :: players) _).2.1 _
      (Prod.ext (by decide +kernel) rfl)
  · exact (defaultReaders_iterate_iff 775 ([0, 0, 0, 0, 0, 0, 0, 9, 2] ++ clocks) _).2.2 _
      (Prod.ext (by decide +kernel) rfl) rfl

/-- The entity 1 in two bytes is accepted, and the iterator does not return it. -/
theorem removeEntities_overlong :
    ¬ ∀ (protocol : Int) (body : List UInt8) (packet : McClientboundRemoveEntities)
      (after : McReader), (mcReaderClientboundRemoveEntities protocol).run (mcReaderInit body) =
        (some packet, after) → packet.Iterates := by
  intro always
  obtain ⟨iterator, made, remaining, entries, last, ⟨yields, -⟩, length, -⟩ :=
    always 47 [1, 0x81, 0] ⟨1, [0x81, 0], false⟩ _ (Prod.ext (by decide +kernel) rfl)
  cases made
  cases yields with
  | nil => cases length
  | cons run _ =>
      have silent : (mcEntityIdIteratorNext ⟨sliceReader [0x81, 0], 1, false⟩).1 = none := by
        decide +kernel
      have found := congrArg Prod.fst run
      rw [silent] at found
      cases found

end McProtocol
