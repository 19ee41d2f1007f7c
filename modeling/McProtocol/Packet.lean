import McProtocol.Reader

/-! # The sticky writer

`McPacket` appends to caller-owned storage. An append that does not fit, or any
value a builder refuses, fails the packet for good, so that a body is complete or
refused, never cut short.
-/

namespace McProtocol

/-- A pointer and a size as C passes them. -/
inductive Buffer where
  | null (size : Nat)
  | bytes (content : List UInt8)
  deriving Repr, DecidableEq

namespace Buffer

def size : Buffer → Nat
  | null size => size
  | bytes content => content.length

/-- What can be read there; nothing behind a null pointer. -/
def content : Buffer → List UInt8
  | null _ => []
  | bytes content => content

/-- `size != 0 && data == NULL`. -/
def Missing : Buffer → Prop
  | null size => size ≠ 0
  | bytes _ => False

instance : DecidablePred Missing
  | null size => inferInstanceAs (Decidable (size ≠ 0))
  | bytes _ => inferInstanceAs (Decidable False)

instance : Coe (List UInt8) Buffer := ⟨bytes⟩

end Buffer

/-- `data` is the whole storage, `capacity` bytes of it. -/
structure McPacket where
  data : List UInt8
  length : Nat
  failed : Bool
  deriving Repr, DecidableEq

namespace McPacket

def capacity (packet : McPacket) : Nat := packet.data.length

/-- The bytes written so far. -/
def body (packet : McPacket) : List UInt8 := packet.data.take packet.length

/-- `packet->failed = true`. -/
def fail (packet : McPacket) : McPacket := { packet with failed := true }

/-- The `memcpy` behind the bytes written so far. -/
def append (packet : McPacket) (bytes : List UInt8) : McPacket :=
  { packet with
    data := packet.data.take packet.length ++ bytes ++
      packet.data.drop (packet.length + bytes.length)
    length := packet.length + bytes.length }

/-- A packet that takes `size` more bytes. -/
structure Fits (packet : McPacket) (size : Nat) : Prop where
  clean : packet.failed = false
  room : packet.length + size ≤ packet.capacity

/-- The writer never leaves its storage, and a failed packet stays as it is. -/
def discipline : Discipline McPacket where
  inv packet := packet.length ≤ packet.capacity
  step before after := after.capacity = before.capacity ∧ (before.failed = true → after = before)
  le _ _ := False
  step_refl _ := ⟨rfl, fun _ => rfl⟩
  step_trans first second :=
    ⟨second.1.trans first.1, fun failed => by
      have same := first.2 failed
      rw [second.2 (same ▸ failed), same]⟩

end McPacket

/-- A sequence of writes; refusing is the `false` of the C function. -/
abbrev WriteM := Program McPacket.discipline

def mcPacketInit (storage : Buffer) : McPacket where
  data := storage.content
  length := 0
  failed := storage.Missing

namespace McPacket

variable {packet : McPacket} {bytes : List UInt8}

theorem capacity_append (room : packet.length + bytes.length ≤ packet.capacity) :
    (packet.append bytes).capacity = packet.capacity := by
  simp only [capacity, append, List.length_append, List.length_take, List.length_drop] at room ⊢
  omega

theorem body_append (room : packet.length + bytes.length ≤ packet.capacity) :
    (packet.append bytes).body = packet.body ++ bytes := by
  simp only [capacity] at room
  have cut : (packet.data.take packet.length ++ bytes).length = packet.length + bytes.length := by
    rw [List.length_append, List.length_take]
    omega
  simp only [body, append]
  rw [← cut, List.take_left']
  rfl

theorem append_nil (inside : packet.length ≤ packet.capacity) : packet.append [] = packet := by
  rcases packet with ⟨data, length, failed⟩
  simp only [append, List.append_nil, List.length_nil, Nat.add_zero, List.take_append_drop]

theorem append_append (more : List UInt8)
    (room : packet.length + (bytes ++ more).length ≤ packet.capacity) :
    (packet.append bytes).append more = packet.append (bytes ++ more) := by
  simp only [capacity, List.length_append] at room
  have cut : (packet.data.take packet.length ++ bytes).length = packet.length + bytes.length := by
    rw [List.length_append, List.length_take]
    omega
  simp only [append, List.length_append]
  rw [← cut, List.take_left' rfl, List.append_assoc _ bytes more, cut]
  congr 1
  · rw [List.drop_append, List.drop_eq_nil_of_le (by omega), List.nil_append, cut,
      List.drop_drop]
    simp only [List.append_assoc]
    congr 4
    omega
  · omega

theorem Fits.append {size : Nat} (fits : packet.Fits (bytes.length + size)) :
    (packet.append bytes).Fits size where
  clean := fits.clean
  room := by
    have room := fits.room
    rw [capacity_append (by omega)]
    simp only [McPacket.append]
    omega

end McPacket

namespace McPacket

/-- The tests `mc_packet_bytes` makes. -/
def Refuses (packet : McPacket) (data : Buffer) : Prop :=
  packet.failed = true ∨ packet.capacity < packet.length
    ∨ packet.capacity - packet.length < data.size ∨ data.Missing

instance (packet : McPacket) (data : Buffer) : Decidable (packet.Refuses data) :=
  inferInstanceAs (Decidable (_ ∨ _))

def write (data : Buffer) : Prog McPacket Unit := fun packet =>
  if packet.Refuses data then (none, packet.fail) else (some (), packet.append data.content)

variable {packet : McPacket} {bytes : List UInt8}

theorem fits_of_not_refuses {data : Buffer} (accepted : ¬ packet.Refuses data) :
    packet.Fits data.content.length := by
  simp only [Refuses, not_or, Bool.not_eq_true] at accepted
  obtain ⟨clean, inside, room, there⟩ := accepted
  refine ⟨clean, ?_⟩
  cases data with
  | null size => simp only [Buffer.content, List.length_nil]; omega
  | bytes content => simp only [Buffer.size, Buffer.content] at room ⊢; omega

theorem refuses_bytes_iff : packet.Refuses bytes ↔ ¬ packet.Fits bytes.length := by
  refine ⟨fun refused fits => ?_, fun unfit => by_contra fun accepted => ?_⟩
  · have room := fits.room
    simp only [Refuses, fits.clean, Buffer.size, Buffer.Missing, Bool.false_eq_true,
      false_or, or_false] at refused
    omega
  · exact unfit (fits_of_not_refuses accepted)

theorem step_fail (packet : McPacket) : discipline.step packet packet.fail :=
  ⟨rfl, fun failed => by rw [fail, ← failed]⟩

theorem write_lawful (data : Buffer) : discipline.Lawful (write data) where
  keeps packet inside := by
    by_cases refused : packet.Refuses data
    · rw [write, if_pos refused]; exact inside
    · have room := (fits_of_not_refuses refused).room
      rw [write, if_neg refused]
      change (packet.append _).length ≤ (packet.append _).capacity
      rw [capacity_append room]
      exact room
  steps packet inside := by
    by_cases refused : packet.Refuses data
    · rw [write, if_pos refused]; exact step_fail packet
    · have fits := fits_of_not_refuses refused
      rw [write, if_neg refused]
      exact ⟨capacity_append fits.room, fun failed => by simp [fits.clean] at failed⟩
  replay _ _ _ _ _ below := below.elim

end McPacket

def mcPacketBytes (data : Buffer) : WriteM Unit := ⟨McPacket.write data, McPacket.write_lawful data⟩

/-- Fail the packet when the condition holds: the argument checks of a builder. -/
def refuseWhen (condition : Prop) [Decidable condition] : WriteM Unit :=
  ⟨.check (fun _ => condition) McPacket.fail,
    .check (fun _ inside => inside) (fun packet _ => packet.step_fail)
      fun _ _ _ _ below => below.elim⟩

theorem refuseWhen_good {condition : Prop} [Decidable condition] {packet : McPacket}
    (good : ¬ condition) : (refuseWhen condition).run packet = (some (), packet) := if_neg good

theorem refuseWhen_bad {condition : Prop} [Decidable condition] {packet : McPacket}
    (bad : condition) : (refuseWhen condition).run packet = (none, packet.fail) := if_pos bad

theorem refuseWhen_eq_some {condition : Prop} [Decidable condition] {packet after : McPacket}
    {u : Unit} (run : (refuseWhen condition).run packet = (some u, after)) :
    ¬ condition ∧ after = packet := by
  by_cases bad : condition
  · rw [refuseWhen_bad bad] at run; simp at run
  · rw [refuseWhen_good bad] at run
    exact ⟨bad, by simpa using run.symm⟩

theorem mcPacketBytes_run {packet : McPacket} {bytes : List UInt8}
    (fits : packet.Fits bytes.length) :
    (mcPacketBytes bytes).run packet = (some (), packet.append bytes) :=
  if_neg fun refused => McPacket.refuses_bytes_iff.mp refused fits

theorem mcPacketBytes_refused {packet : McPacket} {bytes : List UInt8}
    (unfit : ¬ packet.Fits bytes.length) :
    (mcPacketBytes bytes).run packet = (none, packet.fail) :=
  if_pos (McPacket.refuses_bytes_iff.mpr unfit)

def mcPacketU8 (value : UInt8) : WriteM Unit := mcPacketBytes [value]

theorem mcPacketU8_run {packet : McPacket} {value : UInt8} (fits : packet.Fits 1) :
    (mcPacketU8 value).run packet = (some (), packet.append [value]) :=
  mcPacketBytes_run fits

def mcPacketBool (value : Bool) : WriteM Unit := mcPacketU8 (if value then 1 else 0)

def mcPacketI8 (value : Int) : WriteM Unit := mcPacketU8 (UInt8.ofNat (toUnsigned 8 value))

def mcPacketU16 (value : Nat) : WriteM Unit := mcPacketBytes (BigEndian.bytes 2 value)

def mcPacketI16 (value : Int) : WriteM Unit := mcPacketU16 (toUnsigned 16 value)

def mcPacketU32 (value : Nat) : WriteM Unit := mcPacketBytes (BigEndian.bytes 4 value)

def mcPacketI32 (value : Int) : WriteM Unit := mcPacketU32 (toUnsigned 32 value)

def mcPacketU64 (value : Nat) : WriteM Unit := mcPacketBytes (BigEndian.bytes 8 value)

def mcPacketI64 (value : Int) : WriteM Unit := mcPacketU64 (toUnsigned 64 value)

def mcPacketFloat (value : McFloat) : WriteM Unit := mcPacketU32 value.bits.toNat

def mcPacketDouble (value : McDouble) : WriteM Unit := mcPacketU64 value.bits.toNat

/-- The loop of `mc_packet_varint` and `mc_packet_varlong`. -/
def writeGroups (encoded : Nat) : WriteM Unit :=
  let byte := encoded &&& 0x7f
  let rest := encoded >>> 7
  if rest = 0 then mcPacketU8 (UInt8.ofNat byte)
  else do
    mcPacketU8 (UInt8.ofNat (byte ||| 0x80))
    writeGroups rest
termination_by encoded
decreasing_by
  rename_i more
  simp only [rest, Nat.shiftRight_eq_div_pow] at more ⊢
  omega

def mcPacketVarint (value : Int) : WriteM Unit := writeGroups (toUnsigned 32 value)

def mcPacketVarlong (value : Int) : WriteM Unit := writeGroups (toUnsigned 64 value)

def mcPacketBufferI32 (value : Buffer) : WriteM Unit := do
  refuseWhen (int32Max < value.size)
  mcPacketI32 value.size
  mcPacketBytes value

def mcPacketBufferVarint (value : Buffer) : WriteM Unit := do
  refuseWhen (int32Max < value.size)
  mcPacketVarint value.size
  mcPacketBytes value

/-- `mc_packet_string_n` of a string that is there, and `mc_packet_string`, whose
string is read up to its terminator. -/
def mcPacketStringN (value : List UInt8) : WriteM Unit := do
  refuseWhen (int32Max < value.length)
  mcPacketVarint value.length
  mcPacketBytes value

end McProtocol
