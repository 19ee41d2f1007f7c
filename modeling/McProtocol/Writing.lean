import McProtocol.VarInt

/-! # What a writer program writes

`Writes program bytes` says that on any packet with room for them the program appends
`bytes`. The rules mirror the operations programs are written with.
-/

namespace McProtocol

def Writes (program : WriteM Unit) (bytes : List UInt8) : Prop :=
  ∀ packet : McPacket, packet.Fits bytes.length →
    program.run packet = (some (), packet.append bytes)

namespace Writes

variable {program : WriteM Unit} {bytes more : List UInt8}

theorem pure : Writes (Pure.pure ()) [] := by
  intro packet fits
  have room := fits.room
  rw [List.length_nil] at room
  rw [McPacket.append_nil room]
  rfl

theorem bind {rest : Unit → WriteM Unit} (first : Writes program bytes)
    (second : Writes (rest ()) more) : Writes (program >>= rest) (bytes ++ more) := by
  intro packet fits
  rw [List.length_append] at fits
  have room := fits.room
  have start : packet.Fits bytes.length := ⟨fits.clean, by omega⟩
  have run := second (packet.append bytes) fits.append
  rw [McPacket.append_append more (by rw [List.length_append]; exact room)] at run
  exact (Prog.bind_some (first packet start)).trans run

theorem of_eq (writes : Writes program bytes) (same : bytes = more) : Writes program more :=
  same ▸ writes

theorem when_pos {condition : Prop} [Decidable condition] (holds : condition)
    (writes : Writes program bytes) : Writes (.when condition program) bytes := by
  intro packet fits
  exact (Prog.when_pos holds).trans (writes packet fits)

theorem when_neg {condition : Prop} [Decidable condition] (fails : ¬ condition) :
    Writes (.when condition program) [] := by
  intro packet fits
  exact (Prog.when_neg fails).trans (pure packet fits)

theorem whenever {condition : Prop} [Decidable condition] (writes : Writes program bytes) :
    Writes (.when condition program) (if condition then bytes else []) := by
  by_cases holds : condition
  · rw [if_pos holds]
    exact when_pos holds writes
  · rw [if_neg holds]
    exact when_neg holds

theorem refuseWhen {condition : Prop} [Decidable condition] (good : ¬ condition) :
    Writes (McProtocol.refuseWhen condition) [] := by
  intro packet fits
  rw [refuseWhen_good good]
  exact pure packet fits

theorem data (bytes : List UInt8) : Writes (mcPacketBytes bytes) bytes :=
  fun _ fits => mcPacketBytes_run fits

theorem u8 (value : UInt8) : Writes (mcPacketU8 value) [value] := data [value]

theorem bool (value : Bool) : Writes (mcPacketBool value) [if value then 1 else 0] := u8 _

theorem u16 (value : Nat) : Writes (mcPacketU16 value) (BigEndian.bytes 2 value) := data _

theorem float (value : McFloat) : Writes (mcPacketFloat value) (BigEndian.bytes 4 value.bits.toNat) :=
  data _

theorem double (value : McDouble) :
    Writes (mcPacketDouble value) (BigEndian.bytes 8 value.bits.toNat) := data _

theorem varint (value : Int) : Writes (mcPacketVarint value) (encodeVarint value) :=
  fun _ fits => mcPacketVarint_run fits

theorem stringN {value : List UInt8} (short : value.length ≤ int32Max) :
    Writes (mcPacketStringN value) (encodeVarint value.length ++ value) :=
  of_eq (bind (refuseWhen (not_lt.mpr short)) (bind (varint _) (data value))) (List.nil_append _)

end Writes

/-- The body a builder leaves in `capacity` bytes of storage. -/
def buildPacket (capacity : Nat) (build : WriteM Unit) : Option Unit × McPacket :=
  build.run (mcPacketInit (.bytes (List.replicate capacity 0)))

/-- A builder with room for all it writes. -/
theorem Writes.build {program : WriteM Unit} {bytes : List UInt8} (writes : Writes program bytes)
    {capacity : Nat} (room : bytes.length ≤ capacity) :
    ∃ packet, buildPacket capacity program = (some (), packet) ∧ packet.failed = false ∧
      packet.body = bytes := by
  let start := mcPacketInit (.bytes (List.replicate capacity 0))
  have fits : start.Fits bytes.length := by
    refine ⟨rfl, ?_⟩
    change 0 + bytes.length ≤ (List.replicate capacity (0 : UInt8)).length
    rw [List.length_replicate]
    omega
  refine ⟨start.append bytes, writes start fits, rfl, ?_⟩
  rw [McPacket.body_append fits.room]
  rfl

/-- The program writes something of at most that length. -/
def WritesWithin (program : WriteM Unit) (limit : Nat) : Prop :=
  ∃ bytes, Writes program bytes ∧ bytes.length ≤ limit

namespace WritesWithin

variable {program other : WriteM Unit} {limit more : Nat}

theorem of_writes {bytes : List UInt8} (writes : Writes program bytes)
    (short : bytes.length ≤ limit) : WritesWithin program limit := ⟨bytes, writes, short⟩

theorem mono (writes : WritesWithin program limit) (larger : limit ≤ more) :
    WritesWithin program more := by
  obtain ⟨bytes, writes, short⟩ := writes
  exact ⟨bytes, writes, short.trans larger⟩

/-- What follows has the room that is left. -/
theorem bind {rest : Unit → WriteM Unit} (first : WritesWithin program limit)
    (fits : limit ≤ more) (second : WritesWithin (rest ()) (more - limit)) :
    WritesWithin (program >>= rest) more := by
  obtain ⟨bytes, writes, short⟩ := first
  obtain ⟨behind, continues, length⟩ := second
  refine ⟨bytes ++ behind, writes.bind continues, ?_⟩
  rw [List.length_append]
  omega

theorem when {condition : Prop} [Decidable condition] (writes : WritesWithin program limit) :
    WritesWithin (.when condition program) limit := by
  obtain ⟨bytes, writes, short⟩ := writes
  refine ⟨_, writes.whenever, ?_⟩
  split_ifs
  · exact short
  · exact Nat.zero_le limit

theorem either {condition : Prop} [Decidable condition] (first : WritesWithin program limit)
    (second : WritesWithin other limit) :
    WritesWithin (if condition then program else other) limit := by
  split_ifs
  · exact first
  · exact second

theorem refuseWhen {condition : Prop} [Decidable condition] (good : ¬ condition) :
    WritesWithin (McProtocol.refuseWhen condition) 0 := ⟨[], .refuseWhen good, Nat.le_refl 0⟩

theorem varint (value : Int) : WritesWithin (mcPacketVarint value) 5 :=
  ⟨_, .varint value, (encodeVarint_length value).2⟩

theorem u8 (value : UInt8) : WritesWithin (mcPacketU8 value) 1 := ⟨_, .u8 value, Nat.le_refl 1⟩

theorem bool (value : Bool) : WritesWithin (mcPacketBool value) 1 := u8 _

theorem i8 (value : Int) : WritesWithin (mcPacketI8 value) 1 := u8 _

end WritesWithin

end McProtocol
