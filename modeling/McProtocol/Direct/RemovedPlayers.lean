import McProtocol.Direct.PlayerInfo
import McProtocol.Direct.Windows
import McProtocol.Schema.Wire

/-! # The iterator of removed players

An id is of one length and has one code in either mode. So what is accepted is what is iterated.
-/

namespace McProtocol

open Iteration (Drains)

namespace McCountedIterator

variable {κ α : Type} {read : κ → ReadM α} {layout : κ} {parts : List (List UInt8)}
  {L : List UInt8 → Prop} {R : List UInt8 → α → Prop}

/-- An iterator over entries that strict mode reads returns them all, in order. -/
theorem drains_of_reads
    (reads : ∀ part, L part → ∃ entry, R part entry ∧ Reads .strict (read layout).run entry part)
    (each : ∀ part ∈ parts, L part) :
    ∃ entries last, Drains (next read) ⟨sliceReader parts.flatten, parts.length, layout⟩ entries
        last ∧ List.Forall₂ R parts entries ∧ last.reader.failed = false ∧
      mcReaderRemaining last.reader = 0 := by
  have ahead : (⟨sliceReader parts.flatten, parts.length, layout⟩ : McCountedIterator κ).Ahead
      layout L parts := ⟨rfl, sliceReader_ahead parts, rfl, each⟩
  have step (part : List UInt8) (rest : List (List UInt8)) (iterator : McCountedIterator κ)
      (ahead : iterator.Ahead layout L (part :: rest)) :
      ∃ entry after, iterator.next read = (some entry, after) ∧ R part entry ∧
        after.Ahead layout L rest := by
    obtain ⟨entry, related, strict⟩ := reads part (ahead.each part List.mem_cons_self)
    have run := nextCounted_part ahead.reader strict
    rw [show rest.length + 1 = iterator.remaining from ahead.remaining.symm] at run
    refine ⟨entry, _, ?_, related, ahead.behind⟩
    rw [next, ahead.layout_eq, run]
  obtain ⟨entries, last, yields, all, stop⟩ := Iteration.yields_of_parts
    (fun parts (iterator : McCountedIterator κ) => iterator.Ahead layout L parts) R step ahead
  exact ⟨entries, last, ⟨yields, next_stop stop⟩, all, stop.reader.before.clean,
    stop.reader.finished⟩

end McCountedIterator

abbrev McUuidIterator := McCountedIterator Unit

/-- The slice of a decoded packet is never null. -/
def mcPlayerRemoveIterator (packet : McClientboundPlayerRemove) : Option McUuidIterator :=
  if mcMaxPacketArrayCount < packet.profileCount then none
  else some ⟨sliceReader packet.profileIds, packet.profileCount, ()⟩

def mcUuidIteratorNext : McUuidIterator → Option McUuid × McUuidIterator :=
  McCountedIterator.next fun _ => mcReaderUuid

section decoded

variable {mode : McDecodeMode} {protocol : Int} {body : List UInt8} {reader after : McReader}

theorem accepts_readProfileCount : Accepts mode readProfileCount.run fun count bytes =>
    count ≤ mcMaxPacketArrayCount ∧ IsVarint mode count bytes := by
  refine Accepts.congr (accepts_orReject (.bind accepts_varint fun count =>
    .guarded accepts_require (.pure count.toNat)) 0) fun count bytes => ?_
  constructor
  · rintro ⟨value, code, _, rfl, isVarint, few, rfl, rfl⟩
    have same : ((value.toNat : Nat) : Int) = value := by omega
    rw [List.append_nil, same]
    exact ⟨by omega, isVarint⟩
  · rintro ⟨few, isVarint⟩
    exact ⟨count, bytes, [], (List.append_nil _).symm, isVarint, ⟨by omega, by omega⟩, rfl, rfl⟩

theorem rejectWhen_passed {condition : Prop} [Decidable condition] {code : McErrorCode} {u : Unit}
    (passed : (rejectWhen condition code 0).run reader = (some u, after)) :
    ¬ condition ∧ after = reader := by
  have checked : Prog.check (fun _ => condition)
    (fun reader : McReader => reader.fail code (reader.offset - 0)) reader =
      (some u, after) := passed
  exact Prog.check_eq_some checked

theorem Spans.skipProfileId : Spans mode McProtocol.skipProfileId.run (·.length = 16) :=
  .last .uuid fun _ => .pure ()

/-- The slice of a packet that is accepted: as many ids as it announces. -/
theorem playerRemove_listed {packet : McClientboundPlayerRemove} (moded : reader.mode = mode)
    (before : reader.Before body)
    (ran : (mcReaderClientboundPlayerRemove protocol).run reader = (some packet, after)) :
    ∃ head, ∃ parts : List (List UInt8), ∃ rest, packet.profileCount ≤ mcMaxPacketArrayCount ∧
      IsVarint mode packet.profileCount head ∧ parts.length = packet.profileCount ∧
      (∀ part ∈ parts, part.length = 16) ∧ body = head ++ (parts.flatten ++ rest) ∧
      packet.profileIds = parts.flatten := by
  unfold mcReaderClientboundPlayerRemove at ran
  obtain ⟨_, checked, supported, listed⟩ := Prog.bind_eq_some ran
  obtain ⟨-, same⟩ := require_eq_some (Prog.rescue_eq_some supported)
  rw [same] at listed
  obtain ⟨_, released, late, listed⟩ := Prog.bind_eq_some listed
  obtain ⟨-, same⟩ := rejectWhen_passed late
  rw [same] at listed
  obtain ⟨count, head, parts, rest, -, ⟨few, isVarint⟩, length, each, rfl, rfl, -⟩ :=
    listed_sound (P := fun _ _ => True) accepts_readProfileCount
      (fun count => .iterate (fun _ => .skipProfileId) count ()) (fun _ _ _ _ _ => trivial) moded
      before listed
  exact ⟨head, parts, rest, few, isVarint, length, each, rfl, rfl⟩

end decoded

/-- Parts that are each the bytes of an id are the bytes of the ids. -/
theorem flatten_uuids {parts : List (List UInt8)} {ids : List McUuid}
    (all : List.Forall₂ (fun part uuid => part = McUuid.bytes uuid) parts ids) :
    parts.flatten = ids.flatMap McUuid.bytes := by
  induction all with
  | nil => rfl
  | cons same _ ih => simp [same, ih]

/-- Whatever mode it was read in, the ids of a packet of removed players are the ones that its
iterator returns, in the order of the body, and then no more. -/
theorem playerRemove_iterates {protocol : Int} {body : List UInt8} {reader after : McReader}
    {packet : McClientboundPlayerRemove} (before : reader.Before body)
    (ran : (mcReaderClientboundPlayerRemove protocol).run reader = (some packet, after)) :
    ∃ ids : List McUuid, ∃ head rest iterator last,
      body = head ++ (ids.flatMap McUuid.bytes ++ rest) ∧
      IsVarint reader.mode packet.profileCount head ∧ ids.length = packet.profileCount ∧
      packet.profileIds = ids.flatMap McUuid.bytes ∧
      mcPlayerRemoveIterator packet = some iterator ∧
      Drains mcUuidIteratorNext iterator ids last ∧ last.reader.failed = false ∧
      mcReaderRemaining last.reader = 0 := by
  obtain ⟨head, parts, rest, few, isVarint, length, each, rfl, slice⟩ :=
    playerRemove_listed rfl before ran
  have made : mcPlayerRemoveIterator packet =
      some ⟨sliceReader parts.flatten, parts.length, ()⟩ := by
    unfold mcPlayerRemoveIterator
    rw [if_neg (not_lt.mpr few), slice, length]
  have reads (part : List UInt8) (size : part.length = 16) :
      ∃ uuid : McUuid, part = uuid.bytes ∧ Reads .strict mcReaderUuid.run uuid part :=
    ⟨⟨part, size⟩, rfl, accepts_uuid.complete rfl⟩
  obtain ⟨ids, last, drains, all, clean, whole⟩ :=
    @McCountedIterator.drains_of_reads Unit McUuid (fun _ => mcReaderUuid) () parts _ _ reads each
  have bytes := flatten_uuids all
  refine ⟨ids, head, rest, _, last, ?_, isVarint, ?_, ?_, made, drains, clean, whole⟩
  · rw [bytes]
  · rw [← length, all.length_eq]
  · rw [slice, bytes]

/-- On 761, two players that leave. -/
theorem playerRemove_iterates_two :
    ∃ ids iterator last, ids.length = 2 ∧
      mcPlayerRemoveIterator ⟨2, List.replicate 16 7 ++ List.replicate 16 9⟩ = some iterator ∧
      Drains mcUuidIteratorNext iterator ids last := by
  let body : List UInt8 := 2 :: (List.replicate 16 7 ++ List.replicate 16 9)
  have ran : (mcReaderClientboundPlayerRemove 761).run (mcReaderInit body) =
      (some ⟨2, List.replicate 16 7 ++ List.replicate 16 9⟩, _) :=
    Prod.ext (by decide +kernel) rfl
  obtain ⟨ids, _, _, iterator, last, -, -, length, -, made, drains, -⟩ :=
    playerRemove_iterates (mcReaderInit_before body) ran
  exact ⟨ids, iterator, last, length, made, drains⟩

end McProtocol
