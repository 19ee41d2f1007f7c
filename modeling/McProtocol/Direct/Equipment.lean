import Mathlib.Data.Fintype.Basic
import Mathlib.Data.Fintype.Card
import Mathlib.Data.Nat.Bitwise
import McProtocol.Typed.PlainItems

/-! # Entity equipment

Slots with a plain item each. Up to 734 there is one; behind, the byte of a slot says whether
another one follows. No slot comes twice, which bounds the loop.
-/

namespace McProtocol

inductive McEquipmentSlot where
  | mainHand
  | offHand
  | feet
  | legs
  | chest
  | head
  | body
  | saddle
  deriving Repr, DecidableEq

namespace McEquipmentSlot

instance : Fintype McEquipmentSlot :=
  .ofList [mainHand, offHand, feet, legs, chest, head, body, saddle] fun slot => by
    cases slot <;> simp

/-- The value of the enumerator. -/
def code : McEquipmentSlot → Nat
  | mainHand => 0
  | offHand => 1
  | feet => 2
  | legs => 3
  | chest => 4
  | head => 5
  | body => 6
  | saddle => 7

/-- `(McEquipmentSlot)wire_slot`, below `MC_EQUIPMENT_SLOT_COUNT`. -/
def ofCode : Nat → Option McEquipmentSlot
  | 0 => some mainHand
  | 1 => some offHand
  | 2 => some feet
  | 3 => some legs
  | 4 => some chest
  | 5 => some head
  | 6 => some body
  | 7 => some saddle
  | _ => none

end McEquipmentSlot

def mcEntityEquipmentMaxEntries : Nat := 8

structure McEntityEquipmentEntry where
  slot : McEquipmentSlot
  itemId : Int
  count : Int
  deriving Repr, DecidableEq

structure McEntityEquipment where
  entityId : Int
  entries : List McEntityEquipmentEntry
  deriving Repr, DecidableEq

def mcEntityEquipmentSlotSupported (protocol : Int) (slot : McEquipmentSlot) : Bool :=
  mcProtocolSupported protocol &&
    match slot with
    | .offHand => decide (107 ≤ protocol)
    | .body => decide (766 ≤ protocol)
    | .saddle => decide (770 ≤ protocol)
    | _ => true

/-- Up to 47 there is no second hand, and the armor comes right behind the first. -/
def equipmentSlotNormalize (protocol wireSlot : Int) : Option McEquipmentSlot :=
  if wireSlot < 0 then none
  else if protocol ≤ 47 then
    match wireSlot.toNat with
    | 0 => some .mainHand
    | 1 => some .feet
    | 2 => some .legs
    | 3 => some .chest
    | 4 => some .head
    | _ => none
  else (McEquipmentSlot.ofCode wireSlot.toNat).filter fun slot =>
    mcEntityEquipmentSlotSupported protocol slot

/-- The entries decoded so far, and the mask of their slots. -/
structure EquipmentDecoded where
  entries : List McEntityEquipmentEntry
  seen : Nat

def EquipmentDecoded.add (decoded : EquipmentDecoded) (entry : McEntityEquipmentEntry) :
    EquipmentDecoded :=
  ⟨decoded.entries ++ [entry], decoded.seen ||| 1 <<< entry.slot.code⟩

section reader

variable (protocol : Int)

def readerEntityEquipmentEntry (wireSlot : Int) (decoded : EquipmentDecoded) :
    DecodeM protocol EquipmentDecoded :=
  .orFailed (match equipmentSlotNormalize protocol wireSlot with
    | none => .refuse
    | some slot => do
        require (decoded.entries.length < mcEntityEquipmentMaxEntries ∧
          decoded.seen &&& 1 <<< slot.code = 0)
        let item ← mcReaderPlainItem protocol
        pure (decoded.add ⟨slot, item.1, item.2⟩))

/-- One turn of the loop, and whether the byte of its slot asks for another. -/
def equipmentRound (decoded : EquipmentDecoded) : DecodeM protocol (Bool × EquipmentDecoded) := do
  let encodedSlot ← mcReaderU8
  let decoded ← readerEntityEquipmentEntry protocol (encodedSlot.toNat &&& 0x7f : Nat) decoded
  pure (decide (encodedSlot.toNat &&& 0x80 ≠ 0), decoded)

/-- The loop has no bound of its own; the fuel is one turn more than there are entries. -/
def readEquipmentEntries : DecodeM protocol EquipmentDecoded :=
  if protocol ≤ 47 then do
    let wireSlot ← mcReaderU16
    readerEntityEquipmentEntry protocol wireSlot ⟨[], 0⟩
  else if protocol < 735 then do
    let wireSlot ← mcReaderVarint
    readerEntityEquipmentEntry protocol wireSlot ⟨[], 0⟩
  else .loopWith (equipmentRound protocol) (mcEntityEquipmentMaxEntries + 1) ⟨[], 0⟩

def mcReaderEntityEquipment : DecodeM protocol McEntityEquipment :=
  if mcProtocolSupported protocol = false then .orFailed .refuse
  else do
    let entityId ← readEntityId protocol
    .orFailed (require (0 ≤ entityId))
    let decoded ← readEquipmentEntries protocol
    pure ⟨entityId, decoded.entries⟩

end reader

namespace McEquipmentSlot

variable {protocol wireSlot : Int} {slot : McEquipmentSlot}

theorem code_lt (slot : McEquipmentSlot) : slot.code < 8 := by
  cases slot <;> decide

theorem code_injective {other : McEquipmentSlot} (same : slot.code = other.code) : slot = other := by
  revert other slot
  decide

theorem ofCode_eq_some {number : Nat} : ofCode number = some slot ↔ number = slot.code := by
  constructor
  · intro named
    match number with
    | 0 | 1 | 2 | 3 | 4 | 5 | 6 | 7 =>
        cases named
        rfl
    | _ + 8 => cases named
  · rintro rfl
    cases slot <;> rfl

/-- The number of a slot on the wire. -/
def number (protocol : Int) (slot : McEquipmentSlot) : Nat :=
  if protocol ≤ 47 then slot.code - 1 else slot.code

theorem number_lt : slot.number protocol < 8 := by
  have small := code_lt slot
  unfold number
  split_ifs <;> omega

theorem supported_legacy (supported : mcProtocolSupported protocol = true) (old : protocol ≤ 47) :
    mcEntityEquipmentSlotSupported protocol slot = true ↔
      slot ≠ .offHand ∧ slot ≠ .body ∧ slot ≠ .saddle := by
  have first : ¬ 107 ≤ protocol := by omega
  have second : ¬ 766 ≤ protocol := by omega
  have third : ¬ 770 ≤ protocol := by omega
  cases slot <;> simp [mcEntityEquipmentSlotSupported, supported, first, second, third]

/-- The slot of a number is the one that the release gives this number, if it has it. -/
theorem normalize_eq_some (supported : mcProtocolSupported protocol = true) :
    equipmentSlotNormalize protocol wireSlot = some slot ↔
      mcEntityEquipmentSlotSupported protocol slot = true ∧ wireSlot = slot.number protocol := by
  unfold equipmentSlotNormalize
  by_cases negative : wireSlot < 0
  · rw [if_pos negative]
    have other : wireSlot ≠ slot.number protocol := by omega
    simp [other]
  · rw [if_neg negative]
    obtain ⟨wire, rfl⟩ := Int.eq_ofNat_of_zero_le (not_lt.mp negative)
    by_cases old : protocol ≤ 47
    · rw [if_pos old, supported_legacy supported old, number, if_pos old, Int.toNat_natCast]
      constructor
      · intro named
        match wire with
        | 0 | 1 | 2 | 3 | 4 =>
            cases named
            decide
        | _ + 5 => cases named
      · rintro ⟨⟨first, second, third⟩, same⟩
        cases slot with
        | offHand => exact absurd rfl first
        | body => exact absurd rfl second
        | saddle => exact absurd rfl third
        | mainHand | feet | legs | chest | head =>
            obtain rfl := Int.ofNat.inj same
            rfl
    · rw [if_neg old, number, if_neg old, Int.toNat_natCast, Option.filter_eq_some_iff,
        ofCode_eq_some, Nat.cast_inj, and_comm]

end McEquipmentSlot

namespace EquipmentDecoded

/-- The mask has the bits of the slots, and no slot is there twice. -/
structure Sound (decoded : EquipmentDecoded) : Prop where
  seen_iff : ∀ slot : McEquipmentSlot, decoded.seen.testBit slot.code = true ↔
    slot ∈ decoded.entries.map McEntityEquipmentEntry.slot
  distinct : (decoded.entries.map McEntityEquipmentEntry.slot).Nodup

variable {decoded : EquipmentDecoded} {entry : McEntityEquipmentEntry}

theorem Sound.empty : Sound ⟨[], 0⟩ := ⟨fun slot => by simp, List.nodup_nil⟩

theorem Sound.unseen_iff (sound : decoded.Sound) (slot : McEquipmentSlot) :
    decoded.seen &&& 1 <<< slot.code = 0 ↔
      slot ∉ decoded.entries.map McEntityEquipmentEntry.slot := by
  rw [← sound.seen_iff, Nat.one_shiftLeft, Nat.and_two_pow]
  cases decoded.seen.testBit slot.code <;> simp

theorem Sound.add (sound : decoded.Sound)
    (unseen : entry.slot ∉ decoded.entries.map McEntityEquipmentEntry.slot) :
    (decoded.add entry).Sound := by
  constructor
  · intro slot
    have marked : (1 <<< entry.slot.code).testBit slot.code = true ↔ slot = entry.slot := by
      rw [Nat.one_shiftLeft, Nat.testBit_two_pow, decide_eq_true_iff]
      exact ⟨fun same => (McEquipmentSlot.code_injective same).symm, fun same => by rw [same]⟩
    rw [EquipmentDecoded.add, Nat.testBit_or, Bool.or_eq_true, sound.seen_iff, marked,
      List.map_append, List.mem_append, List.map_cons, List.map_nil, List.mem_singleton]
  · rw [EquipmentDecoded.add, List.map_append, List.nodup_append_comm]
    exact List.nodup_cons.mpr ⟨unseen, sound.distinct⟩

/-- There are no more entries than slots. -/
theorem length_le {entries : List McEntityEquipmentEntry}
    (distinct : (entries.map McEntityEquipmentEntry.slot).Nodup) :
    entries.length ≤ mcEntityEquipmentMaxEntries := by
  have few := distinct.length_le_card
  rw [List.length_map] at few
  exact few

end EquipmentDecoded

section languages

variable (mode : McDecodeMode) (protocol : Int)

/-- A slot that the release has, in a code of its number, and a plain item. -/
def IsEquipmentEntry (code : Nat → List UInt8 → Prop) (entry : McEntityEquipmentEntry)
    (bytes : List UInt8) : Prop :=
  mcEntityEquipmentSlotSupported protocol entry.slot = true ∧
    ∃ slot item, bytes = slot ++ item ∧ code (entry.slot.number protocol) slot ∧
      IsPlainItemCode mode protocol (entry.itemId, entry.count) item

/-- The number of the only slot. -/
def IsSlotNumber (number : Nat) (bytes : List UInt8) : Prop :=
  if protocol ≤ 47 then bytes = BigEndian.bytes 2 number else IsVarint mode number bytes

/-- The byte of a slot, with the bit that asks for another one. -/
def slotByte (more : Bool) (number : Nat) : UInt8 :=
  UInt8.ofNat (number + if more then 128 else 0)

def IsSlotByte (more : Bool) (number : Nat) (bytes : List UInt8) : Prop :=
  bytes = [slotByte more number]

/-- Entries, each of which asks for the next one and the last for none. -/
inductive EquipmentChain : List McEntityEquipmentEntry → List UInt8 → Prop where
  | last {entry : McEntityEquipmentEntry} {bytes : List UInt8} :
      IsEquipmentEntry mode protocol (IsSlotByte false) entry bytes →
        EquipmentChain [entry] bytes
  | more {entry : McEntityEquipmentEntry} {entries : List McEntityEquipmentEntry}
      {bytes rest : List UInt8} : IsEquipmentEntry mode protocol (IsSlotByte true) entry bytes →
        EquipmentChain entries rest → EquipmentChain (entry :: entries) (bytes ++ rest)

def IsEntityIdCode (id : Int) (bytes : List UInt8) : Prop :=
  if protocol ≤ 5 then IsInt32 id ∧ bytes = int32Bytes id else IsVarint mode id bytes

/-- The entries of a body: one up to 734, a chain behind. -/
def IsEquipmentList (entries : List McEntityEquipmentEntry) (bytes : List UInt8) : Prop :=
  (entries.map McEntityEquipmentEntry.slot).Nodup ∧
    if protocol < 735 then
      ∃ entry, entries = [entry] ∧
        IsEquipmentEntry mode protocol (IsSlotNumber mode protocol) entry bytes
    else EquipmentChain mode protocol entries bytes

def IsEntityEquipment (value : McEntityEquipment) (bytes : List UInt8) : Prop :=
  0 ≤ value.entityId ∧ ∃ id entries, bytes = id ++ entries ∧
    IsEntityIdCode mode protocol value.entityId id ∧
      IsEquipmentList mode protocol value.entries entries

end languages

/-- An entry that can be added. -/
structure EquipmentDecoded.Takes (decoded : EquipmentDecoded) (entry : McEntityEquipmentEntry) :
    Prop where
  room : decoded.entries.length < mcEntityEquipmentMaxEntries
  unseen : decoded.seen &&& 1 <<< entry.slot.code = 0

section accepted

variable {mode : McDecodeMode} {protocol : Int}

theorem accepts_equipmentEntry (supported : mcProtocolSupported protocol = true) (wireSlot : Int)
    (decoded : EquipmentDecoded) :
    Accepts mode (readerEntityEquipmentEntry protocol wireSlot decoded).run fun after bytes =>
      ∃ entry, mcEntityEquipmentSlotSupported protocol entry.slot = true ∧
        wireSlot = entry.slot.number protocol ∧ decoded.Takes entry ∧ after = decoded.add entry ∧
          IsPlainItemCode mode protocol (entry.itemId, entry.count) bytes := by
  refine Accepts.rescue ?_ _
  rcases named : equipmentSlotNormalize protocol wireSlot with _ | slot
  · refine (Accepts.refused fun _ => rfl).congr fun after bytes => ⟨False.elim, ?_⟩
    rintro ⟨entry, has, same, -⟩
    rw [(McEquipmentSlot.normalize_eq_some supported).mpr ⟨has, same⟩] at named
    cases named
  · obtain ⟨has, number⟩ := (McEquipmentSlot.normalize_eq_some supported).mp named
    refine Accepts.congr (.guarded accepts_require ((accepts_plainItem supported).bind fun item =>
      .pure (decoded.add ⟨slot, item.1, item.2⟩))) fun after bytes => ?_
    constructor
    · rintro ⟨⟨room, unseen⟩, item, _, _, rfl, code, rfl, rfl⟩
      rw [List.append_nil]
      exact ⟨⟨slot, item.1, item.2⟩, has, number, ⟨room, unseen⟩, rfl, code⟩
    · rintro ⟨⟨other, itemId, count⟩, hasOther, sameNumber, ⟨room, unseen⟩, rfl, code⟩
      obtain rfl : slot = other := by
        have again := (McEquipmentSlot.normalize_eq_some supported).mpr ⟨hasOther, sameNumber⟩
        exact Option.some.inj (named.symm.trans again)
      exact ⟨⟨room, unseen⟩, (itemId, count), bytes, [], (List.append_nil _).symm, code, rfl, rfl⟩

/-- A slot that is read in front of its item. -/
theorem accepts_slotted {α : Type} {program : Prog McReader α} {G : α → List UInt8 → Prop}
    {wire : α → Int} {code : Nat → List UInt8 → Prop} (reads : Accepts mode program G)
    (same : ∀ number < 8, ∀ bytes, code number bytes ↔ ∃ a, wire a = (number : Int) ∧ G a bytes)
    (supported : mcProtocolSupported protocol = true) (decoded : EquipmentDecoded) :
    Accepts mode
      (program >>= fun a => (readerEntityEquipmentEntry protocol (wire a) decoded).run)
      fun after bytes => ∃ entry, decoded.Takes entry ∧ after = decoded.add entry ∧
        IsEquipmentEntry mode protocol code entry bytes := by
  refine (reads.bind fun a => accepts_equipmentEntry supported (wire a) decoded).congr
    fun after bytes => ?_
  constructor
  · rintro ⟨a, slot, item, rfl, read, entry, has, number, takes, rfl, plain⟩
    have coded : code (entry.slot.number protocol) slot :=
      (same _ McEquipmentSlot.number_lt _).mpr ⟨a, number, read⟩
    exact ⟨entry, takes, rfl, has, slot, item, rfl, coded, plain⟩
  · rintro ⟨entry, takes, rfl, has, slot, item, rfl, coded, plain⟩
    obtain ⟨a, number, read⟩ := (same _ McEquipmentSlot.number_lt _).mp coded
    exact ⟨a, slot, item, rfl, read, entry, has, number, takes, rfl, plain⟩

/-- One entry behind none. -/
theorem single_iff {code : Nat → List UInt8 → Prop} {entries : List McEntityEquipmentEntry}
    {bytes : List UInt8} :
    (∃ after : EquipmentDecoded, entries = after.entries ∧
      ∃ entry, EquipmentDecoded.Takes ⟨[], 0⟩ entry ∧ after = EquipmentDecoded.add ⟨[], 0⟩ entry ∧
        IsEquipmentEntry mode protocol code entry bytes) ↔
      (entries.map McEntityEquipmentEntry.slot).Nodup ∧
        ∃ entry, entries = [entry] ∧ IsEquipmentEntry mode protocol code entry bytes := by
  constructor
  · rintro ⟨_, rfl, entry, -, rfl, coded⟩
    exact ⟨List.nodup_singleton _, entry, rfl, coded⟩
  · rintro ⟨-, entry, rfl, coded⟩
    exact ⟨_, rfl, entry, ⟨by simp [mcEntityEquipmentMaxEntries], by simp⟩, rfl, coded⟩

theorem slotByte_iff {encodedSlot : UInt8} {number : Nat} {more : Bool} (small : number < 8) :
    encodedSlot = slotByte more number ↔
      (encodedSlot.toNat &&& 0x7f) = number ∧ decide (encodedSlot.toNat &&& 0x80 ≠ 0) = more := by
  have byte := encodedSlot.toNat_lt
  have wide : (slotByte more number).toNat = number + if more then 128 else 0 := by
    rw [slotByte, UInt8.toNat_ofNat']
    cases more
    · simp only [Bool.false_eq_true, if_false]
      omega
    · simp only [if_true]
      omega
  rw [← UInt8.toNat_inj, wide, Base128.low_group]
  cases more
  · rw [decide_eq_false_iff_not, Base128.continued_iff, if_neg Bool.false_ne_true]
    omega
  · rw [decide_eq_true_iff, Base128.continued_iff, if_pos rfl]
    omega

theorem accepts_equipmentRound (supported : mcProtocolSupported protocol = true)
    (decoded : EquipmentDecoded) :
    Accepts mode (equipmentRound protocol decoded).run fun step bytes =>
      ∃ entry, decoded.Takes entry ∧ step.2 = decoded.add entry ∧
        IsEquipmentEntry mode protocol (IsSlotByte step.1) entry bytes := by
  refine Accepts.congr (accepts_u8.bind fun encodedSlot => (accepts_equipmentEntry supported
    (encodedSlot.toNat &&& 0x7f : Nat) decoded).bind fun after =>
      .pure (decide (encodedSlot.toNat &&& 0x80 ≠ 0), after)) fun step bytes => ?_
  constructor
  · rintro ⟨encodedSlot, _, _, rfl, rfl, after, item, _, rfl, ⟨entry, has, number, takes, rfl,
      plain⟩, rfl, rfl⟩
    rw [List.append_nil]
    have byte := (slotByte_iff McEquipmentSlot.number_lt).mpr ⟨Int.ofNat.inj number, rfl⟩
    exact ⟨entry, takes, rfl, has, [encodedSlot], item, rfl, congrArg (fun byte => [byte]) byte,
      plain⟩
  · obtain ⟨more, after⟩ := step
    rintro ⟨entry, takes, rfl, has, _, item, rfl, rfl, plain⟩
    obtain ⟨number, asks⟩ := (slotByte_iff McEquipmentSlot.number_lt).mp
      (rfl : slotByte more (entry.slot.number protocol) = slotByte more _)
    exact ⟨_, _, item, rfl, rfl, decoded.add entry, item, [], (List.append_nil _).symm,
      ⟨entry, has, congrArg Int.ofNat number, takes, rfl, plain⟩, by rw [asks], rfl⟩

/-- What a turn of the loop makes of the entries before it. -/
def EquipmentTurn (mode : McDecodeMode) (protocol : Int) (decoded : EquipmentDecoded) (more : Bool)
    (after : EquipmentDecoded) (bytes : List UInt8) : Prop :=
  ∃ entry, decoded.Takes entry ∧ after = decoded.add entry ∧
    IsEquipmentEntry mode protocol (IsSlotByte more) entry bytes

/-- The turns of a loop are a chain, and no slot of it comes twice. -/
theorem chain_of_links {n : Nat} {start last : EquipmentDecoded} {bytes : List UInt8}
    (links : Links (EquipmentTurn mode protocol) n start last bytes) (sound : start.Sound) :
    last.Sound ∧ ∃ added, last.entries = start.entries ++ added ∧
      EquipmentChain mode protocol added bytes := by
  induction links with
  | last turn =>
      obtain ⟨entry, takes, rfl, coded⟩ := turn
      exact ⟨sound.add ((sound.unseen_iff _).mp takes.unseen), [entry], rfl, .last coded⟩
  | more turn _ ih =>
      obtain ⟨entry, takes, rfl, coded⟩ := turn
      obtain ⟨kept, added, same, chain⟩ := ih (sound.add ((sound.unseen_iff _).mp takes.unseen))
      refine ⟨kept, entry :: added, ?_, .more coded chain⟩
      rw [same, EquipmentDecoded.add, List.append_assoc, List.singleton_append]

/-- Entries without a slot twice leave room for each of them. -/
theorem EquipmentDecoded.Sound.takes {start : EquipmentDecoded} {entry : McEntityEquipmentEntry}
    {rest : List McEntityEquipmentEntry} (sound : start.Sound)
    (distinct : ((start.entries ++ entry :: rest).map McEntityEquipmentEntry.slot).Nodup) :
    start.Takes entry := by
  have few := EquipmentDecoded.length_le distinct
  rw [List.length_append, List.length_cons] at few
  refine ⟨by omega, (sound.unseen_iff _).mpr fun seen => ?_⟩
  rw [List.map_append, List.map_cons] at distinct
  exact (List.disjoint_of_nodup_append distinct) seen List.mem_cons_self

/-- A chain without a slot twice is gone through, by a loop of enough fuel. -/
theorem links_of_chain {added : List McEntityEquipmentEntry} {bytes : List UInt8}
    (chain : EquipmentChain mode protocol added bytes) {n : Nat} {start : EquipmentDecoded}
    (sound : start.Sound)
    (distinct : ((start.entries ++ added).map McEntityEquipmentEntry.slot).Nodup)
    (enough : mcEntityEquipmentMaxEntries < n + start.entries.length) :
    ∃ last, Links (EquipmentTurn mode protocol) n start last bytes ∧
      last.entries = start.entries ++ added := by
  induction chain generalizing n start with
  | @last entry bytes coded =>
      have takes := sound.takes distinct
      have room := takes.room
      obtain ⟨n, rfl⟩ : ∃ m, n = m + 1 := ⟨n - 1, by omega⟩
      exact ⟨start.add entry, .last ⟨entry, takes, rfl, coded⟩, rfl⟩
  | @more entry entries bytes rest coded _ ih =>
      have takes := sound.takes distinct
      have room := takes.room
      obtain ⟨n, rfl⟩ : ∃ m, n = m + 1 := ⟨n - 1, by omega⟩
      have whole : (start.add entry).entries ++ entries = start.entries ++ entry :: entries := by
        rw [EquipmentDecoded.add, List.append_assoc, List.singleton_append]
      have longer : (start.add entry).entries.length = start.entries.length + 1 := by
        rw [EquipmentDecoded.add, List.length_append, List.length_singleton]
      have fuel : mcEntityEquipmentMaxEntries < n + (start.add entry).entries.length := by omega
      obtain ⟨last, links, same⟩ := ih (sound.add ((sound.unseen_iff _).mp takes.unseen))
        (whole.symm ▸ distinct) fuel
      exact ⟨last, .more ⟨entry, takes, rfl, coded⟩ links, same.trans whole⟩

/-- The loop goes through the chains without a slot twice. -/
theorem links_iff {entries : List McEntityEquipmentEntry} {bytes : List UInt8} :
    (∃ after, entries = after.entries ∧ Links (EquipmentTurn mode protocol)
      (mcEntityEquipmentMaxEntries + 1) ⟨[], 0⟩ after bytes) ↔
      (entries.map McEntityEquipmentEntry.slot).Nodup ∧
        EquipmentChain mode protocol entries bytes := by
  constructor
  · rintro ⟨after, rfl, links⟩
    obtain ⟨sound, added, same, chain⟩ := chain_of_links links .empty
    exact ⟨sound.distinct, by rwa [same]⟩
  · rintro ⟨distinct, chain⟩
    obtain ⟨last, links, same⟩ := links_of_chain chain .empty distinct (Nat.lt_succ_self _)
    exact ⟨last, same.symm, links⟩

/-- Every turn that returns adds an entry, and there is room for eight. -/
theorem equipmentRound_ends (protocol : Int) (reader : McReader) :
    Prog.Ends (fun decoded => (equipmentRound protocol decoded).run) mcEntityEquipmentMaxEntries
      ⟨[], 0⟩ reader := by
  refine Prog.ends_of_measure
    (fun decoded => mcEntityEquipmentMaxEntries - decoded.entries.length) ?_ (Nat.sub_le _ _)
  intro decoded after start middle more run
  obtain ⟨encodedSlot, _, _, run⟩ := Prog.bind_eq_some run
  obtain ⟨added, _, entered, returned⟩ := Prog.bind_eq_some run
  cases returned
  have entered := Prog.rescue_eq_some entered
  rcases named : equipmentSlotNormalize protocol (encodedSlot.toNat &&& 0x7f : Nat) with _ | slot
  · rw [named] at entered
    cases entered
  · rw [named] at entered
    obtain ⟨_, _, passed, entered⟩ := Prog.bind_eq_some entered
    obtain ⟨item, _, _, returned⟩ := Prog.bind_eq_some entered
    cases returned
    have room := (require_eq_some passed).1.1
    rw [EquipmentDecoded.add, List.length_append, List.length_singleton]
    omega

/-- What is left of a body behind its entity. -/
def EquipmentRead (mode : McDecodeMode) (protocol : Int) (after : EquipmentDecoded)
    (bytes : List UInt8) : Prop :=
  if protocol < 735 then
    ∃ entry, EquipmentDecoded.Takes ⟨[], 0⟩ entry ∧ after = EquipmentDecoded.add ⟨[], 0⟩ entry ∧
      IsEquipmentEntry mode protocol (IsSlotNumber mode protocol) entry bytes
  else Links (EquipmentTurn mode protocol) (mcEntityEquipmentMaxEntries + 1) ⟨[], 0⟩ after bytes

theorem equipmentRead_iff {entries : List McEntityEquipmentEntry} {bytes : List UInt8} :
    (∃ after, entries = after.entries ∧ EquipmentRead mode protocol after bytes) ↔
      IsEquipmentList mode protocol entries bytes := by
  unfold EquipmentRead IsEquipmentList
  split_ifs
  · exact single_iff
  · exact links_iff

theorem accepts_equipmentEntries (supported : mcProtocolSupported protocol = true) :
    Accepts mode (readEquipmentEntries protocol).run (EquipmentRead mode protocol) := by
  unfold readEquipmentEntries EquipmentRead
  by_cases old : protocol ≤ 47
  · have single : protocol < 735 := by omega
    simp only [if_pos old, if_pos single]
    refine accepts_slotted accepts_u16 (fun number small bytes => ?_) supported ⟨[], 0⟩
    simp only [IsSlotNumber, if_pos old, Nat.cast_inj]
    constructor
    · rintro rfl
      exact ⟨number, rfl, by omega, rfl⟩
    · rintro ⟨_, rfl, -, coded⟩
      exact coded
  · by_cases single : protocol < 735
    · simp only [if_neg old, if_pos single]
      refine accepts_slotted accepts_varint (fun number _ bytes => ?_) supported ⟨[], 0⟩
      simp only [IsSlotNumber, if_neg old, exists_eq_left]
    · simp only [if_neg old, if_neg single]
      exact Accepts.loopWith (B := EquipmentTurn mode protocol)
        (accepts_equipmentRound supported) _ _

theorem accepts_entityIdCode :
    Accepts mode (readEntityId protocol).run (IsEntityIdCode mode protocol) :=
  accepts_i32.either accepts_varint

theorem accepts_entityEquipment (supported : mcProtocolSupported protocol = true) :
    Accepts mode (mcReaderEntityEquipment protocol).run (IsEntityEquipment mode protocol) := by
  have known : ¬ mcProtocolSupported protocol = false := by simp [supported]
  have body : Accepts mode ((readEntityId protocol).run >>= fun entityId =>
      ((.orFailed (require (0 ≤ entityId)) : DecodeM protocol Unit)).run >>= fun _ =>
        (readEquipmentEntries protocol).run >>= fun decoded =>
          Pure.pure (⟨entityId, decoded.entries⟩ : McEntityEquipment))
      (IsEntityEquipment mode protocol) := by
    refine Accepts.congr (accepts_entityIdCode.bind fun entityId =>
      .guarded (.rescue accepts_require _) ((accepts_equipmentEntries supported).bind fun decoded =>
        .pure (⟨entityId, decoded.entries⟩ : McEntityEquipment))) fun value bytes => ?_
    constructor
    · rintro ⟨entityId, id, _, rfl, coded, natural, after, tail, _, rfl, read, rfl, rfl⟩
      rw [List.append_nil]
      exact ⟨natural, id, tail, rfl, coded, equipmentRead_iff.mp ⟨after, rfl, read⟩⟩
    · rintro ⟨natural, id, tail, rfl, coded, listed⟩
      obtain ⟨after, same, read⟩ := equipmentRead_iff.mpr listed
      obtain ⟨entityId, entries⟩ := value
      obtain rfl : entries = after.entries := same
      exact ⟨entityId, id, tail, rfl, coded, natural, after, tail, [], (List.append_nil _).symm, read,
        rfl, rfl⟩
  unfold mcReaderEntityEquipment
  rw [if_neg known]
  exact body

/-- The reader accepts what begins with a message, returns its entries in order and is behind them
when it does. Its loop ends on any input, after eight entries at the latest, so that more fuel makes
no difference. -/
theorem entityEquipment_accepted_iff (protocol : Int)
    (supported : mcProtocolSupported protocol = true) :
    (∀ (reader after : McReader) (body : List UInt8) (value : McEntityEquipment),
      reader.Before body →
        ((mcReaderEntityEquipment protocol).run reader = (some value, after) ↔
          ∃ bytes rest, body = bytes ++ rest ∧ IsEntityEquipment reader.mode protocol value bytes ∧
            after = reader.advance bytes.length)) ∧
    ∀ reader : McReader,
      Prog.Ends (fun decoded => (equipmentRound protocol decoded).run) mcEntityEquipmentMaxEntries
        ⟨[], 0⟩ reader ∧
      ∀ fuel, mcEntityEquipmentMaxEntries < fuel →
        Prog.loopWith (fun decoded => (equipmentRound protocol decoded).run) fuel ⟨[], 0⟩ reader =
          Prog.loopWith (fun decoded => (equipmentRound protocol decoded).run)
            (mcEntityEquipmentMaxEntries + 1) ⟨[], 0⟩ reader := by
  constructor
  · intro reader after body value before
    have accepts : Accepts reader.mode (mcReaderEntityEquipment protocol).run
        (IsEntityEquipment reader.mode protocol) := accepts_entityEquipment supported
    constructor
    · exact accepts.sound rfl before
    · rintro ⟨bytes, rest, rfl, listed, rfl⟩
      exact accepts.complete listed reader rest rfl before
  · intro reader
    have ends := equipmentRound_ends protocol reader
    exact ⟨ends, fun fuel enough => ends.loopWith_eq enough⟩

end accepted

/-- An empty hand and a stone on the head, with a byte behind. -/
theorem entityEquipment_accepted_776 :
    ∃ bytes rest, [7, 0x80, 0, 5, 1, 1, 0, 0, 9] = bytes ++ rest ∧
      IsEntityEquipment .strict 776 ⟨7, [⟨.mainHand, 0, 0⟩, ⟨.head, 1, 1⟩]⟩ bytes ∧
        (mcReaderInitMode [7, 0x80, 0, 5, 1, 1, 0, 0, 9] .strict none).advance 8 =
          (mcReaderInitMode [7, 0x80, 0, 5, 1, 1, 0, 0, 9] .strict none).advance bytes.length :=
  ((entityEquipment_accepted_iff 776 (by decide)).1 _ _ _ _ (mcReaderInitMode_before _ _ _)).mp
    (by decide +kernel)

end McProtocol
