import McProtocol.Lib.Iteration
import McProtocol.Typed.Decode

/-! # Bodies and their slices

A decoded packet keeps its lists as slices of the payload, and an iterator reads such a slice
again. What was accepted decides what the iterator finds: the parts of the slice stand in front
of its reader one after the other.
-/

namespace McProtocol

/-- The decoder that returned a packet, for the packets that keep a list. -/
def McTypedPacket.DecodedBy (validators : Validators) (protocol : Int) (reader after : McReader) :
    McTypedPacket → Prop
  | .multiBlockChange value =>
      (typedDecodeMultiBlockChange protocol).run reader = (some value, after)
  | .entityMove value => ∃ withRotation,
      (typedDecodeEntityMove protocol withRotation).run reader = (some value, after)
  | .attributes value => (typedDecodeAttributes protocol).run reader = (some value, after)
  | .metadata value => (typedDecodeMetadata validators protocol).run reader = (some value, after)
  | .windowItems value =>
      (validators.typedDecodeWindowItems protocol).run reader = (some value, after)
  | .setSlot value => (validators.typedDecodeSetSlot protocol).run reader = (some value, after)
  | .creativeSlot value =>
      (validators.typedDecodeSetCreativeSlot protocol).run reader = (some value, after)
  | .windowClick value =>
      (validators.typedDecodeWindowClick protocol).run reader = (some value, after)
  | _ => True

theorem typedDecodeDispatch_decodedBy {validators : Validators} {protocol : Int}
    {direction : McPacketDirection} {name : String} {family : McPacketFamily}
    {reader after : McReader} {packet : McTypedPacket}
    (run : (typedDecodeDispatch validators protocol direction name family).run reader =
      (some packet, after)) :
    packet.DecodedBy validators protocol reader after := by
  cases family with
  | unknown => cases run
  | relativeEntityMove =>
      obtain ⟨value, rfl, ran⟩ := Program.map_eq_some run
      exact ⟨false, ran⟩
  | entityMoveLook =>
      obtain ⟨value, rfl, ran⟩ := Program.map_eq_some run
      exact ⟨true, ran⟩
  | updateAttributes | entityMetadata | multiBlockChange | setSlot | windowItems
  | setCreativeSlot | windowClick =>
      obtain ⟨value, rfl, ran⟩ := Program.map_eq_some run
      exact ran
  | _ =>
      obtain ⟨value, rfl, ran⟩ := Program.map_eq_some run
      trivial

section accepted

variable {library : PacketLibrary} {arguments : McDecodeArguments} {error : Option McError}
variable {packet : McTypedPacket} {mode : McDecodeMode}

theorem select_supported {selected : SelectedPacket}
    (chosen : (arguments.select library).2 = .ok selected) :
    mcProtocolSupported arguments.protocol = true := by
  unfold McDecodeArguments.select at chosen
  split_ifs at chosen with present supported
  rwa [Bool.not_eq_false] at supported

/-- What was accepted: by which decoder, and up to the end of the payload. -/
structure McTypedPacket.Accepted (packet : McTypedPacket) (library : PacketLibrary)
    (arguments : McDecodeArguments) (error : Option McError) (after : McReader) : Prop where
  supported : mcProtocolSupported arguments.protocol = true
  decoded : packet.DecodedBy library.validators arguments.protocol (arguments.bodyReader error)
    after
  clean : after.failed = false
  whole : after.offset = after.size

theorem mcDecodePacket_accepted
    (returned : (mcDecodePacket library arguments error).packet = some packet) :
    ∃ after, packet.Accepted library arguments error after := by
  obtain ⟨selected, after, chosen, run, clean, whole⟩ := mcDecodePacket_packet_iff.mp returned
  exact ⟨after, select_supported chosen, typedDecodeDispatch_decodedBy run, clean, whole⟩

/-- A payload that is accepted as a whole is one of the grammar of its decoder. -/
theorem Accepts.payload {α : Type} {program : Prog McReader α} {G : α → List UInt8 → Prop} {a : α}
    {after : McReader} (accepts : Accepts mode program G)
    (moded : (arguments.bodyReader error).mode = mode)
    (ran : program (arguments.bodyReader error) = (some a, after))
    (whole : after.offset = after.size) : G a arguments.payload.content := by
  obtain ⟨bytes, rest, split, derived, rfl⟩ :=
    accepts.sound moded bodyReader_before ran
  have before : (arguments.bodyReader error).Before (bytes ++ rest) := split ▸ bodyReader_before
  have size := before.advance.size_eq
  have none : rest = [] := List.length_eq_zero_iff.mp (by omega)
  rw [split, none, List.append_nil]
  exact derived

end accepted

/-- A strict reader stands in front of the parts of a slice. -/
structure McReader.Ahead (reader : McReader) (parts : List (List UInt8)) : Prop where
  strict : reader.mode = .strict
  before : reader.Before parts.flatten

namespace McReader.Ahead

variable {reader : McReader} {part : List UInt8} {rest parts : List (List UInt8)}

theorem advance (ahead : reader.Ahead (part :: rest)) : (reader.advance part.length).Ahead rest where
  strict := ahead.strict
  before := McReader.Before.advance (show reader.Before (part ++ rest.flatten) from ahead.before)

/-- The first part is read as the grammar says. -/
theorem reads {α : Type} {program : Prog McReader α} {a : α} (ahead : reader.Ahead (part :: rest))
    (reads : Reads .strict program a part) :
    program reader = (some a, reader.advance part.length) :=
  reads reader rest.flatten ahead.strict ahead.before

theorem remaining (ahead : reader.Ahead parts) : mcReaderRemaining reader = parts.flatten.length :=
  ahead.before.remaining

theorem finished (ahead : reader.Ahead []) : mcReaderRemaining reader = 0 := ahead.remaining

end McReader.Ahead

theorem sliceReader_ahead (parts : List (List UInt8)) : (sliceReader parts.flatten).Ahead parts where
  strict := rfl
  before := mcReaderInitMode_before _ _ _

/-- What a reader has not read yet. -/
def McReader.unread (reader : McReader) : List UInt8 := reader.data.drop reader.offset

theorem McReader.Ahead.unread {reader : McReader} {parts : List (List UInt8)}
    (ahead : reader.Ahead parts) : reader.unread = parts.flatten := ahead.before.drop_eq

/-- The next entry of a list whose entries are counted: the last one must be at the end of the
slice. -/
def nextCounted {α : Type} (read : Prog McReader α) (reader : McReader) (remaining : Nat) :
    Option α × McReader × Nat :=
  if remaining = 0 then (none, reader, 0)
  else
    match read reader with
    | (none, reader) => (none, reader, remaining)
    | (some entry, reader) =>
        if remaining - 1 = 0 ∧ mcReaderRemaining reader ≠ 0 then
          (none, reader.fail .invalidPacketBody reader.offset, remaining - 1)
        else (some entry, reader, remaining - 1)

section counted

variable {α : Type} {read : Prog McReader α} {reader : McReader} {remaining : Nat} {entry : α}

/-- Where the part in front of the reader is read as an entry it is the next one. -/
theorem nextCounted_advance {part : List UInt8} {rest : List (List UInt8)}
    (ahead : reader.Ahead (part :: rest))
    (ran : read reader = (some entry, reader.advance part.length)) :
    nextCounted read reader (rest.length + 1) =
      (some entry, reader.advance part.length, rest.length) := by
  have finished : ¬ (rest.length + 1 - 1 = 0 ∧
      mcReaderRemaining (reader.advance part.length) ≠ 0) := by
    rintro ⟨last, left⟩
    obtain rfl : rest = [] := List.length_eq_zero_iff.mp (by omega)
    exact left ahead.advance.finished
  rw [nextCounted, if_neg (Nat.succ_ne_zero _), ran]
  exact if_neg finished

/-- The part in front of the reader is the next entry. -/
theorem nextCounted_part {part : List UInt8} {rest : List (List UInt8)}
    (ahead : reader.Ahead (part :: rest)) (reads : Reads .strict read entry part) :
    nextCounted read reader (rest.length + 1) =
      (some entry, reader.advance part.length, rest.length) :=
  nextCounted_advance ahead (ahead.reads reads)

/-- An entry that is returned was read. -/
theorem nextCounted_eq_some {after : McReader} {left : Nat}
    (run : nextCounted read reader remaining = (some entry, after, left)) :
    remaining = left + 1 ∧ read reader = (some entry, after) := by
  unfold nextCounted at run
  split_ifs at run with done
  · simp at run
  · rcases ran : read reader with ⟨_ | found, middle⟩
    · simp [ran] at run
    · simp only [ran] at run
      split_ifs at run with short
      · simp at run
      · simp only [Prod.mk.injEq, Option.some.injEq] at run
        obtain ⟨rfl, rfl, rfl⟩ := run
        exact ⟨by omega, rfl⟩

end counted

end McProtocol
