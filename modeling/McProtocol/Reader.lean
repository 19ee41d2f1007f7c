import McProtocol.Core
import McProtocol.Lib.Program
import McProtocol.Lib.Base128
import McProtocol.Lib.BigEndian
import McProtocol.Lib.Ieee

/-! # The sticky reader

`McReader` walks over a byte string it never leaves, keeps the first failure and
never clears it. Every decoder of the repository is a program over it, so the
discipline below is stated once: where the reader stands, what a failure leaves
behind, and that a run which succeeds can be replayed on a longer input or in the
more permissive decode mode.
-/

namespace McProtocol

/-- A cursor over `data`; `error` is the `McError` attached to it, if any. -/
structure McReader where
  data : List UInt8
  offset : Nat
  failed : Bool
  mode : McDecodeMode
  error : Option McError
  deriving Repr, DecidableEq

/-- The part of an error that names the packet, which no reader may touch. -/
def McError.packet (error : McError) : Int × Int × Int × Int :=
  (error.protocol, error.state, error.direction, error.packetId)

namespace McReader

def size (reader : McReader) : Nat := reader.data.length

/-- `reader_fail`: only the first failure is recorded. -/
def fail (reader : McReader) (code : McErrorCode) (offset : Nat) : McReader :=
  if reader.failed then reader
  else { reader with failed := true, error := reader.error.map (recordError · code offset) }

/-- The slice `data[start..offset)`. -/
def since (reader : McReader) (start : Nat) : List UInt8 :=
  (reader.data.drop start).take (reader.offset - start)

/-- A clean reader with `rest` in front of it. -/
structure Before (reader : McReader) (rest : List UInt8) : Prop where
  clean : reader.failed = false
  inside : reader.offset ≤ reader.size
  drop_eq : reader.data.drop reader.offset = rest

/-- The reader `n` bytes further on. -/
def advance (reader : McReader) (n : Nat) : McReader :=
  { reader with offset := reader.offset + n }

/-- The cursor stays inside the input, an error is there only after a failure, and
it points into the input. -/
structure Sound (reader : McReader) : Prop where
  offset_le : reader.offset ≤ reader.size
  clean : reader.failed = false → ∀ error ∈ reader.error, error.code = .none
  bounded : ∀ error ∈ reader.error, error.code ≠ .none → error.offset ≤ reader.size

/-- Readers move forward over one input, and not at all once they have failed. -/
structure Advances (before after : McReader) : Prop where
  data_eq : after.data = before.data
  mode_eq : after.mode = before.mode
  offset_le : before.offset ≤ after.offset
  sticky : before.failed = true → after = before
  packet_eq : after.error.map McError.packet = before.error.map McError.packet

/-- `other` sees what `reader` sees, perhaps more behind it, perhaps in compat mode. -/
structure Permits (reader other : McReader) : Prop where
  left_clean : reader.failed = false
  right_clean : other.failed = false
  offset_eq : other.offset = reader.offset
  data_prefix : reader.data <+: other.data
  mode : other.mode = reader.mode ∨ other.mode = .vanillaCompat

end McReader

def readerDiscipline : Discipline McReader where
  inv := McReader.Sound
  step := McReader.Advances
  le := McReader.Permits
  step_refl _ := ⟨rfl, rfl, Nat.le_refl _, fun _ => rfl, rfl⟩
  step_trans first second :=
    ⟨second.data_eq.trans first.data_eq, second.mode_eq.trans first.mode_eq,
      Nat.le_trans first.offset_le second.offset_le, fun failed => by
        have same := first.sticky failed
        rw [second.sticky (same ▸ failed), same],
      second.packet_eq.trans first.packet_eq⟩

/-- A reader program that keeps the discipline. -/
abbrev ReadM := Program readerDiscipline

namespace McReader

variable {reader other : McReader} {code : McErrorCode} {offset start : Nat}

@[simp] theorem fail_data : (reader.fail code offset).data = reader.data := by
  simp only [fail]; split <;> rfl

@[simp] theorem fail_size : (reader.fail code offset).size = reader.size := by
  simp only [size, fail_data]

@[simp] theorem fail_offset : (reader.fail code offset).offset = reader.offset := by
  simp only [fail]; split <;> rfl

@[simp] theorem fail_mode : (reader.fail code offset).mode = reader.mode := by
  simp only [fail]; split <;> rfl

@[simp] theorem fail_failed : (reader.fail code offset).failed = true := by
  simp only [fail]; split <;> simp_all

theorem recordError_packet (error : McError) :
    (recordError error code offset).packet = error.packet := by
  simp only [recordError]; split <;> rfl

theorem fail_packet :
    (reader.fail code offset).error.map McError.packet = reader.error.map McError.packet := by
  simp only [fail]
  split
  · rfl
  · simp only [Option.map_map]
    congr 1
    funext error
    exact recordError_packet error

theorem fail_of_failed (failed : reader.failed = true) : reader.fail code offset = reader :=
  if_pos failed

theorem advances_fail : Advances reader (reader.fail code offset) :=
  ⟨fail_data, fail_mode, fail_offset.ge, fail_of_failed, fail_packet⟩

theorem Sound.fail (sound : reader.Sound) (inside : offset ≤ reader.size) :
    (reader.fail code offset).Sound := by
  refine ⟨by simpa using sound.offset_le, by simp, fun error mem recorded => ?_⟩
  rw [fail_size]
  rw [McReader.fail] at mem
  split at mem
  · exact sound.bounded error mem recorded
  · obtain ⟨previous, there, rfl⟩ := Option.mem_map.mp mem
    by_cases silent : previous.code = .none
    · simpa [recordError, silent] using inside
    · simpa [recordError, silent] using sound.bounded previous there silent

theorem Permits.since_eq (permits : Permits reader other) (sound : reader.Sound)
    (start : Nat) : other.since start = reader.since start := by
  obtain ⟨rest, same⟩ := permits.data_prefix
  have inside := sound.offset_le
  simp only [size] at inside
  simp only [since, ← same, permits.offset_eq]
  by_cases ahead : start ≤ reader.data.length
  · rw [List.drop_append_of_le_length ahead, List.take_append_of_le_length]
    rw [List.length_drop]
    omega
  · rw [show reader.offset - start = 0 by omega]
    simp

end McReader

namespace McReader

/-- `mc_reader_bytes`. -/
def bytes (size : Nat) : Prog McReader (List UInt8) := fun reader =>
  if reader.failed then (none, reader)
  else if reader.size < reader.offset then
    (none, reader.fail .invalidArgument reader.offset)
  else if reader.size - reader.offset < size then
    (none, reader.fail .partialInput reader.size)
  else
    (some ((reader.data.drop reader.offset).take size),
      { reader with offset := reader.offset + size })

theorem bytes_failed {reader : McReader} {n : Nat} (failed : reader.failed = true) :
    bytes n reader = (none, reader) := if_pos failed

theorem bytes_short {reader : McReader} {n : Nat} (clean : reader.failed = false)
    (inside : reader.offset ≤ reader.size) (short : reader.size < reader.offset + n) :
    bytes n reader = (none, reader.fail .partialInput reader.size) := by
  rw [bytes, if_neg (by simp [clean]), if_neg (by omega), if_pos (by omega)]

theorem bytes_enough {reader : McReader} {n : Nat} (clean : reader.failed = false)
    (room : reader.offset + n ≤ reader.size) :
    bytes n reader = (some ((reader.data.drop reader.offset).take n),
      { reader with offset := reader.offset + n }) := by
  rw [bytes, if_neg (by simp [clean]), if_neg (by omega), if_neg (by omega)]

/-- On a sound reader the cases are: failed before, too short, served. -/
theorem bytes_cases {reader : McReader} (sound : reader.Sound) (n : Nat) :
    bytes n reader = (none, reader) ∨
    bytes n reader = (none, reader.fail .partialInput reader.size) ∨
    (reader.failed = false ∧ reader.offset + n ≤ reader.size ∧
      bytes n reader = (some ((reader.data.drop reader.offset).take n),
        { reader with offset := reader.offset + n })) := by
  rcases clean : reader.failed with _ | _
  · by_cases room : reader.offset + n ≤ reader.size
    · exact .inr (.inr ⟨rfl, room, clean ▸ bytes_enough clean room⟩)
    · exact .inr (.inl (bytes_short clean sound.offset_le (by omega)))
  · exact .inl (bytes_failed clean)

theorem Before.size_eq {reader : McReader} {rest : List UInt8} (before : reader.Before rest) :
    reader.size = reader.offset + rest.length := by
  have inside := before.inside
  rw [← before.drop_eq, List.length_drop]
  simp only [size] at inside ⊢
  omega

theorem Before.advance {reader : McReader} {taken rest : List UInt8}
    (before : reader.Before (taken ++ rest)) : (reader.advance taken.length).Before rest where
  clean := before.clean
  inside := by
    have length := before.size_eq
    simp only [McReader.advance, McReader.size, List.length_append] at length ⊢
    omega
  drop_eq := by
    simp only [McReader.advance]
    rw [← List.drop_drop, before.drop_eq, List.drop_left]

theorem Before.tail {reader : McReader} {byte : UInt8} {rest : List UInt8}
    (before : reader.Before (byte :: rest)) : (reader.advance 1).Before rest :=
  Before.advance (show reader.Before ([byte] ++ rest) from before)

@[simp] theorem advance_zero (reader : McReader) : reader.advance 0 = reader := rfl

@[simp] theorem advance_advance (reader : McReader) (m n : Nat) :
    (reader.advance m).advance n = reader.advance (m + n) := by
  simp only [advance, Nat.add_assoc]

@[simp] theorem advance_offset (reader : McReader) (n : Nat) :
    (reader.advance n).offset = reader.offset + n := rfl

@[simp] theorem advance_mode (reader : McReader) (n : Nat) :
    (reader.advance n).mode = reader.mode := rfl

theorem bytes_before {reader : McReader} {taken rest : List UInt8}
    (before : reader.Before (taken ++ rest)) :
    bytes taken.length reader = (some taken, reader.advance taken.length) := by
  have length := before.size_eq
  rw [List.length_append] at length
  rw [bytes_enough before.clean (by omega), before.drop_eq, List.take_left, McReader.advance]

theorem bytes_short_before {reader : McReader} {n : Nat} {rest : List UInt8}
    (before : reader.Before rest) (short : rest.length < n) :
    bytes n reader = (none, reader.fail .partialInput reader.size) := by
  have length := before.size_eq
  exact bytes_short before.clean before.inside (by omega)

theorem bytes_lawful (n : Nat) : readerDiscipline.Lawful (bytes n) where
  keeps reader sound := by
    rcases bytes_cases sound n with run | run | ⟨_, room, run⟩ <;> rw [run]
    · exact sound
    · exact sound.fail (Nat.le_refl _)
    · exact ⟨room, sound.clean, sound.bounded⟩
  steps reader sound := by
    rcases bytes_cases sound n with run | run | ⟨clean, _, run⟩ <;> rw [run]
    · exact readerDiscipline.step_refl reader
    · exact advances_fail
    · exact ⟨rfl, rfl, Nat.le_add_right _ _, fun failed => by simp [clean] at failed, rfl⟩
  replay reader other taken sound soundOther permits accepted := by
    rcases bytes_cases sound n with run | run | ⟨_, room, run⟩ <;> rw [run] at accepted ⊢
    · simp at accepted
    · simp at accepted
    · obtain ⟨rest, same⟩ := permits.data_prefix
      have longer : reader.size ≤ other.size := permits.data_prefix.length_le
      rw [bytes_enough permits.right_clean (by rw [permits.offset_eq]; omega)]
      refine ⟨?_, permits.left_clean, permits.right_clean, ?_, ⟨rest, same⟩, permits.mode⟩
      · simp only [McReader.size] at room
        rw [← accepted, ← same, permits.offset_eq,
          List.drop_append_of_le_length sound.offset_le, List.take_append_of_le_length]
        rw [List.length_drop]
        omega
      · simp only [permits.offset_eq]

end McReader

def mcReaderBytes (size : Nat) : ReadM (List UInt8) :=
  ⟨McReader.bytes size, McReader.bytes_lawful size⟩

section checks

variable (condition : Prop) [Decidable condition] (code : McErrorCode)

theorem McReader.fail_lawful {bad : McReader → Prop} [DecidablePred bad]
    {offset : McReader → Nat} (inside : ∀ reader, offset reader ≤ reader.offset)
    (passes : ∀ reader other, McReader.Permits reader other → ¬ bad reader → ¬ bad other) :
    readerDiscipline.Lawful (.check bad fun reader => reader.fail code (offset reader)) :=
  .check (fun reader sound => sound.fail ((inside reader).trans sound.offset_le))
    (fun _ _ => advances_fail) (fun reader other _ _ permits => passes reader other permits)

theorem McReader.refuse_lawful {bad : McReader → Prop} [DecidablePred bad]
    (passes : ∀ reader other, McReader.Permits reader other → ¬ bad reader → ¬ bad other) :
    readerDiscipline.Lawful (.check bad id) :=
  .check (fun _ sound => sound) (fun reader _ => readerDiscipline.step_refl reader)
    (fun reader other _ _ permits => passes reader other permits)

theorem McReader.Permits.strict {reader other : McReader} (permits : Permits reader other)
    {bad : Prop} (passes : ¬ (reader.mode = .strict ∧ bad)) :
    ¬ (other.mode = .strict ∧ bad) := by
  rcases permits.mode with same | compat
  · rwa [same]
  · simp [compat]

/-- Fail with `code`, `back` bytes before the cursor, when the condition holds. -/
def rejectWhen (back : Nat) : ReadM Unit :=
  ⟨.check (fun _ => condition) fun reader => reader.fail code (reader.offset - back),
    McReader.fail_lawful code (fun _ => Nat.sub_le _ _) fun _ _ _ => id⟩

/-- Fail with `code`, `back` bytes before the cursor. -/
def reject {α : Type} (back : Nat) : ReadM α :=
  ⟨fun reader => (none, reader.fail code (reader.offset - back)),
    { keeps := fun _ sound => sound.fail ((Nat.sub_le _ _).trans sound.offset_le)
      steps := fun _ _ => McReader.advances_fail
      replay := by
        intro reader other value _ _ _ accepted
        simp at accepted }⟩

/-- Fail as `rejectWhen` does, but only in strict mode. -/
def rejectStrict (back : Nat) : ReadM Unit :=
  ⟨.check (fun reader => reader.mode = .strict ∧ condition)
      fun reader => reader.fail code (reader.offset - back),
    McReader.fail_lawful code (fun _ => Nat.sub_le _ _) fun _ _ permits => permits.strict⟩

/-- Fail with `code` at a saved offset, which never lies past the cursor. -/
def rejectAt (start : Nat) : ReadM Unit :=
  ⟨.check (fun _ => condition) fun reader => reader.fail code (min start reader.offset),
    McReader.fail_lawful code (fun _ => Nat.min_le_right _ _) fun _ _ _ => id⟩

variable {condition code}

@[simp] theorem rejectWhen_bad {back : Nat} {reader : McReader} (bad : condition) :
    (rejectWhen condition code back).run reader =
      (none, reader.fail code (reader.offset - back)) := if_pos bad

@[simp] theorem rejectWhen_good {back : Nat} {reader : McReader} (good : ¬ condition) :
    (rejectWhen condition code back).run reader = (some (), reader) := if_neg good

@[simp] theorem rejectStrict_bad {back : Nat} {reader : McReader}
    (bad : reader.mode = .strict ∧ condition) :
    (rejectStrict condition code back).run reader =
      (none, reader.fail code (reader.offset - back)) := if_pos bad

@[simp] theorem rejectStrict_good {back : Nat} {reader : McReader}
    (good : ¬ (reader.mode = .strict ∧ condition)) :
    (rejectStrict condition code back).run reader = (some (), reader) := if_neg good

theorem rejectAt_bad {start : Nat} {reader : McReader} (bad : condition) :
    (rejectAt condition code start).run reader =
      (none, reader.fail code (min start reader.offset)) := if_pos bad

theorem rejectAt_good {start : Nat} {reader : McReader} (good : ¬ condition) :
    (rejectAt condition code start).run reader = (some (), reader) := if_neg good

variable (condition)

/-- A condition of a C `if`: refuse, and leave it to the caller to say why. -/
def require : ReadM Unit :=
  ⟨.check (fun _ => ¬ condition) id, McReader.refuse_lawful fun _ _ _ => id⟩

/-- A condition that only strict mode insists on. -/
def requireStrict : ReadM Unit :=
  ⟨.check (fun reader => reader.mode = .strict ∧ ¬ condition) id,
    McReader.refuse_lawful fun _ _ permits => permits.strict⟩

end checks

/-- `if (reader->failed) return false;` -/
def refuseFailed : ReadM Unit :=
  ⟨.check (fun reader => reader.failed = true) id,
    McReader.refuse_lawful fun _ _ permits _ => by simp [permits.right_clean]⟩

theorem refuseFailed_clean {reader : McReader} (clean : reader.failed = false) :
    refuseFailed.run reader = (some (), reader) := if_neg (by simp [clean])

/-- `mc_reader_remaining`. -/
def mcReaderRemaining (reader : McReader) : Nat :=
  if reader.failed ∨ reader.size < reader.offset then 0 else reader.size - reader.offset

theorem McReader.Before.remaining {reader : McReader} {rest : List UInt8}
    (before : reader.Before rest) : mcReaderRemaining reader = rest.length := by
  have size := before.size_eq
  have inside : ¬ (reader.failed = true ∨ reader.size < reader.offset) := by
    simp [before.clean, before.inside]
  rw [mcReaderRemaining, if_neg inside]
  omega

theorem McReader.Permits.remaining_le {reader other : McReader} (permits : Permits reader other) :
    mcReaderRemaining reader ≤ mcReaderRemaining other := by
  have longer : reader.size ≤ other.size := permits.data_prefix.length_le
  simp only [mcReaderRemaining, permits.left_clean, permits.right_clean, permits.offset_eq,
    Bool.false_eq_true, false_or]
  split_ifs <;> omega

/-- Refuse when `count > mc_reader_remaining(reader) / each`. -/
def requireRoom (count each : Nat) : ReadM Unit :=
  ⟨.check (fun reader => mcReaderRemaining reader / each < count) id,
    McReader.refuse_lawful fun _ _ permits enough short =>
      enough (Nat.lt_of_le_of_lt (Nat.div_le_div_right permits.remaining_le) short)⟩

section passing

variable {condition : Prop} {_ : Decidable condition} {reader after : McReader} {u : Unit}

theorem require_good (good : condition) : (require condition).run reader = (some (), reader) :=
  if_neg (not_not.mpr good)

theorem require_eq_some (passed : (require condition).run reader = (some u, after)) :
    condition ∧ after = reader := by
  have checked : Prog.check (fun _ => ¬ condition) id reader = (some u, after) := passed
  obtain ⟨good, unmoved⟩ := Prog.check_eq_some checked
  exact ⟨not_not.mp good, unmoved⟩

theorem requireRoom_good {count each : Nat} (room : count ≤ mcReaderRemaining reader / each) :
    (requireRoom count each).run reader = (some (), reader) :=
  if_neg (not_lt.mpr room)

theorem requireRoom_eq_some {count each : Nat}
    (passed : (requireRoom count each).run reader = (some u, after)) : after = reader := by
  have checked : Prog.check (fun reader => mcReaderRemaining reader / each < count) id reader =
    (some u, after) := passed
  exact (Prog.check_eq_some checked).2

end passing

/-- `reader->offset`. -/
def mcReaderOffset : ReadM Nat :=
  ⟨.observe McReader.offset, .observe fun _ _ _ _ permits => permits.offset_eq.symm⟩

/-- The bytes read since `start`. -/
def readSince (start : Nat) : ReadM (List UInt8) :=
  ⟨.observe (McReader.since · start),
    .observe fun _ _ sound _ permits => (permits.since_eq sound start).symm⟩

/-- Repeat while the body asks to: every round takes a byte, so the fuel, which a C
`for (;;)` has not, never runs out. -/
def readLoop (body : ReadM Bool) : ReadM Unit :=
  ⟨.loop body.run fun reader => mcReaderRemaining reader + 1,
    body.lawful.loop fun _ _ _ _ permits => Nat.succ_le_succ permits.remaining_le⟩

/-- On a refusal without a failure, fail with `code`, `back` bytes before the cursor. -/
def orReject {α : Type} (code : McErrorCode) (back : Nat) (program : ReadM α) : ReadM α :=
  ⟨program.run.rescue fun reader => reader.fail code (reader.offset - back),
    program.lawful.rescue (fun _ sound => sound.fail ((Nat.sub_le _ _).trans sound.offset_le))
      fun _ _ => McReader.advances_fail⟩

abbrev McFloat := Ieee.Binary Ieee.binary32

abbrev McDouble := Ieee.Binary Ieee.binary64

def mcReaderSkip (size : Nat) : ReadM Unit := do
  let _ ← mcReaderBytes size
  pure ()

def mcReaderU8 : ReadM UInt8 := do
  let bytes ← mcReaderBytes 1
  pure (bytes.headD 0)

theorem mcReaderBytes_before {reader : McReader} {taken rest : List UInt8}
    (before : reader.Before (taken ++ rest)) :
    (mcReaderBytes taken.length).run reader = (some taken, reader.advance taken.length) :=
  McReader.bytes_before before

theorem mcReaderU8_before {reader : McReader} {byte : UInt8} {rest : List UInt8}
    (before : reader.Before (byte :: rest)) :
    mcReaderU8.run reader = (some byte, reader.advance 1) := by
  have run := mcReaderBytes_before (show reader.Before ([byte] ++ rest) from before)
  exact Prog.bind_some run

theorem mcReaderU8_end {reader : McReader} (before : reader.Before []) :
    mcReaderU8.run reader = (none, reader.fail .partialInput reader.size) :=
  Prog.bind_none (McReader.bytes_short_before before (by simp))

def mcReaderBool : ReadM Bool := do
  let encoded ← mcReaderU8
  rejectStrict (1 < encoded) .invalidBoolean 1
  pure (encoded != 0)

def mcReaderI8 : ReadM Int := do
  let encoded ← mcReaderU8
  pure (toSigned 8 encoded.toNat)

def mcReaderU16 : ReadM Nat := do
  let bytes ← mcReaderBytes 2
  pure (BigEndian.word bytes)

def mcReaderI16 : ReadM Int := do
  let encoded ← mcReaderU16
  pure (toSigned 16 encoded)

def mcReaderU32 : ReadM Nat := do
  let bytes ← mcReaderBytes 4
  pure (BigEndian.word bytes)

def mcReaderI32 : ReadM Int := do
  let encoded ← mcReaderU32
  pure (toSigned 32 encoded)

def mcReaderU64 : ReadM Nat := do
  let bytes ← mcReaderBytes 8
  pure (BigEndian.word bytes)

def mcReaderI64 : ReadM Int := do
  let encoded ← mcReaderU64
  pure (toSigned 64 encoded)

def mcReaderFloat : ReadM McFloat := do
  let bits ← mcReaderU32
  pure ⟨.ofNat _ bits⟩

def mcReaderDouble : ReadM McDouble := do
  let bits ← mcReaderU64
  pure ⟨.ofNat _ bits⟩

/-- `varint_size_u32` and `varlong_size_u64`. -/
def varintSize (value : Nat) : Nat :=
  if value >>> 7 = 0 then 1 else varintSize (value >>> 7) + 1
termination_by value
decreasing_by
  rename_i more
  rw [Nat.shiftRight_eq_div_pow] at more ⊢
  omega

/-- The loop of `mc_reader_varint` (five groups, the last one masked with `0xf0`)
and of `mc_reader_varlong` (ten groups, `0xfe`), with `left` groups to go. -/
def readGroups (groups mask : Nat) : Nat → Nat → ReadM Nat
  | 0, _ => reject .varintOverflow 1
  | left + 1, result => do
      let index := groups - (left + 1)
      let byte ← mcReaderU8
      rejectWhen (index + 1 = groups ∧ byte.toNat &&& mask ≠ 0) .varintOverflow 1
      let result := result ||| (byte.toNat &&& 0x7f) <<< (index * 7)
      if byte.toNat &&& 0x80 = 0 then do
        rejectStrict (varintSize result ≠ index + 1) .varintNonCanonical 1
        pure result
      else readGroups groups mask left result

def mcReaderVarint : ReadM Int := do
  let result ← readGroups 5 0xf0 5 0
  pure (toSigned 32 result)

def mcReaderVarlong : ReadM Int := do
  let result ← readGroups 10 0xfe 10 0
  pure (toSigned 64 result)

def mcReaderBufferI32 : ReadM (List UInt8) := do
  let size ← mcReaderI32
  rejectWhen (size < 0) .invalidLength 4
  mcReaderBytes size.toNat

def mcReaderBufferVarint : ReadM (List UInt8) := do
  let start ← mcReaderOffset
  let size ← mcReaderVarint
  rejectAt (size < 0) .invalidLength start
  mcReaderBytes size.toNat

def mcReaderStringBounded (maxSize : Nat) : ReadM (List UInt8) := do
  let start ← mcReaderOffset
  let size ← mcReaderVarint
  rejectAt (size < 0) .invalidLength start
  rejectAt (maxSize < size.toNat) .stringTooLarge start
  mcReaderBytes size.toNat

def mcReaderString : ReadM (List UInt8) := mcReaderStringBounded mcDefaultMaxStringBytes

/-- `mc_reader_init_mode` on bytes that are there. -/
def mcReaderInitMode (data : List UInt8) (mode : McDecodeMode) (error : Option McError) :
    McReader where
  data := data
  offset := 0
  failed := false
  mode := mode
  error := error.map fun _ => mcErrorClear

theorem mcReaderInitMode_before (data : List UInt8) (mode : McDecodeMode)
    (error : Option McError) : (mcReaderInitMode data mode error).Before data where
  clean := rfl
  inside := Nat.zero_le _
  drop_eq := rfl

/-- `mc_reader_init`. -/
def mcReaderInit (data : List UInt8) : McReader where
  data := data
  offset := 0
  failed := false
  mode := .vanillaCompat
  error := none

theorem mcReaderInit_before (data : List UInt8) : (mcReaderInit data).Before data where
  clean := rfl
  inside := Nat.zero_le _
  drop_eq := rfl

/-- `mc_reader_finish`: the one operation that looks at what lies behind the cursor. -/
def mcReaderFinish : Prog McReader Unit := fun reader =>
  if reader.failed then (none, reader)
  else if reader.offset ≠ reader.size then
    (none, reader.fail .trailingBytes reader.offset)
  else (some (), reader)

/-- A body, and nothing behind it. -/
theorem then_finish_eq_some {α : Type} {body : Prog McReader α} {value : α}
    {reader after : McReader} :
    (do let value ← body
        mcReaderFinish
        pure value : Prog McReader α) reader = (some value, after) ↔
      body reader = (some value, after) ∧ after.failed = false ∧ after.offset = after.size := by
  constructor
  · intro run
    obtain ⟨read, middle, ran, run⟩ := Prog.bind_eq_some run
    obtain ⟨_, last, finished, run⟩ := Prog.bind_eq_some run
    have returned : (some read, last) = (some value, after) := run
    simp only [Prod.mk.injEq, Option.some.injEq] at returned
    obtain ⟨rfl, rfl⟩ := returned
    unfold mcReaderFinish at finished
    split_ifs at finished with failed short
    · simp at finished
    · simp at finished
    · simp only [Prod.mk.injEq, true_and] at finished
      subst finished
      exact ⟨ran, by simpa using failed, not_not.mp short⟩
  · rintro ⟨ran, clean, whole⟩
    have finished : mcReaderFinish after = (some (), after) := by
      rw [mcReaderFinish, if_neg (by simp [clean]), if_neg (not_not.mpr whole)]
    exact (Prog.bind_some ran).trans (Prog.bind_some finished)

/-- Nothing is read with a failed reader. -/
def Stops {α : Type} (program : Prog McReader α) : Prop :=
  ∀ reader : McReader, reader.Sound → reader.failed = true → (program reader).1 = none

namespace Stops

variable {α β : Type} {program : Prog McReader α} {rest : α → Prog McReader β}

theorem bytes (size : Nat) : Stops (mcReaderBytes size).run :=
  fun _ _ failed => congrArg Prod.fst (McReader.bytes_failed failed)

theorem bind (stops : Stops program) : Stops (program >>= rest) := by
  intro reader sound failed
  have stuck := stops reader sound failed
  rcases run : program reader with ⟨_ | a, after⟩
  · exact congrArg Prod.fst (Prog.bind_none run)
  · rw [run] at stuck
    cases stuck

/-- A program in front leaves a failed reader as it is. -/
theorem behind {first : ReadM α} (stops : ∀ a, Stops (rest a)) : Stops (first.run >>= rest) := by
  intro reader sound failed
  have same := (first.lawful.steps reader sound).sticky failed
  rcases run : first.run reader with ⟨_ | a, after⟩
  · exact congrArg Prod.fst (Prog.bind_none run)
  · rw [run] at same
    obtain rfl : after = reader := same
    rw [Prog.bind_some run]
    exact stops a after sound failed

theorem rescue {mark : McReader → McReader} (stops : Stops program) :
    Stops (program.rescue mark) := by
  intro reader sound failed
  have stuck := stops reader sound failed
  rw [Prog.rescue]
  rcases run : program reader with ⟨_ | a, after⟩
  · rfl
  · rw [run] at stuck
    cases stuck

theorem u8 : Stops mcReaderU8.run := bind (bytes 1)

end Stops

/-- What a decoder of `protocol` may do to the attached error: say what went wrong, and
stamp the protocol on it. -/
structure McError.Stamped (protocol : Int) (before after : McError) : Prop where
  state : after.state = before.state
  direction : after.direction = before.direction
  packetId : after.packetId = before.packetId
  protocol : after.protocol = before.protocol ∨ after.protocol = protocol

/-- Code and offset, what a failure records. -/
def McError.verdict (error : McError) : McErrorCode × Nat := (error.code, error.offset)

namespace McReader

/-- As `Advances`, but the protocol may be stamped on the error. -/
structure AdvancesFor (protocol : Int) (before after : McReader) : Prop where
  data_eq : after.data = before.data
  mode_eq : after.mode = before.mode
  offset_le : before.offset ≤ after.offset
  stuck : before.failed = true → after.failed = true ∧ after.offset = before.offset ∧
    after.error.map McError.verdict = before.error.map McError.verdict
  stamped : Option.Rel (McError.Stamped protocol) before.error after.error

theorem stamped_refl (protocol : Int) (error : Option McError) :
    Option.Rel (McError.Stamped protocol) error error := by
  cases error with
  | none => exact .none
  | some error => exact .some ⟨rfl, rfl, rfl, .inl rfl⟩

theorem stamped_trans {protocol : Int} {first second third : Option McError}
    (left : Option.Rel (McError.Stamped protocol) first second)
    (right : Option.Rel (McError.Stamped protocol) second third) :
    Option.Rel (McError.Stamped protocol) first third := by
  cases left with
  | none => exact right
  | some left =>
      cases right with
      | some right =>
          refine .some ⟨right.state.trans left.state, right.direction.trans left.direction,
            right.packetId.trans left.packetId, ?_⟩
          cases right.protocol with
          | inl kept => exact left.protocol.imp kept.trans kept.trans
          | inr stamped => exact .inr stamped

theorem stamped_of_packet_eq {protocol : Int} {before after : Option McError}
    (same : after.map McError.packet = before.map McError.packet) :
    Option.Rel (McError.Stamped protocol) before after := by
  cases before with
  | none =>
      cases after with
      | none => exact .none
      | some error => cases same
  | some before =>
      cases after with
      | none => cases same
      | some after =>
          have packet : after.packet = before.packet := Option.some.inj same
          simp only [McError.packet, Prod.mk.injEq] at packet
          exact .some ⟨packet.2.1, packet.2.2.1, packet.2.2.2, .inl packet.1⟩

theorem AdvancesFor.refl {protocol : Int} (reader : McReader) : AdvancesFor protocol reader reader :=
  ⟨rfl, rfl, Nat.le_refl _, fun failed => ⟨failed, rfl, rfl⟩, stamped_refl protocol _⟩

theorem AdvancesFor.trans {protocol : Int} {first second third : McReader}
    (left : AdvancesFor protocol first second) (right : AdvancesFor protocol second third) :
    AdvancesFor protocol first third where
  data_eq := right.data_eq.trans left.data_eq
  mode_eq := right.mode_eq.trans left.mode_eq
  offset_le := left.offset_le.trans right.offset_le
  stuck failed := by
    obtain ⟨failed, offset, verdict⟩ := left.stuck failed
    obtain ⟨failed', offset', verdict'⟩ := right.stuck failed
    exact ⟨failed', offset'.trans offset, verdict'.trans verdict⟩
  stamped := stamped_trans left.stamped right.stamped

theorem Advances.advancesFor {protocol : Int} {before after : McReader}
    (advances : Advances before after) : AdvancesFor protocol before after where
  data_eq := advances.data_eq
  mode_eq := advances.mode_eq
  offset_le := advances.offset_le
  stuck failed := by
    rw [advances.sticky failed]
    exact ⟨failed, rfl, rfl⟩
  stamped := stamped_of_packet_eq advances.packet_eq

end McReader

def decodeDiscipline (protocol : Int) : Discipline McReader where
  inv := McReader.Sound
  step := McReader.AdvancesFor protocol
  le := McReader.Permits
  step_refl := .refl
  step_trans := .trans

/-- A decoder that is told its protocol: besides `ReadM` it may stamp the protocol
on the error. -/
abbrev DecodeM (protocol : Int) := Program (decodeDiscipline protocol)

theorem decode_of_reader {protocol : Int} {α : Type} {p : Prog McReader α}
    (lawful : readerDiscipline.Lawful p) : (decodeDiscipline protocol).Lawful p where
  keeps := lawful.keeps
  steps reader sound := (lawful.steps reader sound).advancesFor
  replay := lawful.replay

instance {protocol : Int} : MonadLift ReadM (DecodeM protocol) where
  monadLift program := ⟨program.run, decode_of_reader program.lawful⟩

@[simp] theorem run_monadLift {protocol : Int} {α : Type} (program : ReadM α) :
    (monadLift program : DecodeM protocol α).run = program.run := rfl

namespace DecodeM

variable {protocol : Int} {α : Type}

theorem fail_lawful {p : Prog McReader α} {code : McErrorCode}
    (lawful : (decodeDiscipline protocol).Lawful p) :
    (decodeDiscipline protocol).Lawful (p.rescue fun reader => reader.fail code reader.offset) :=
  lawful.rescue (fun _ sound => sound.fail sound.offset_le)
    fun _ _ => McReader.advances_fail.advancesFor

/-- `return typed_invalid(reader)` on every refusal. -/
def orInvalid (program : DecodeM protocol α) : DecodeM protocol α :=
  ⟨program.run.rescue fun reader => reader.fail .invalidPacketBody reader.offset,
    fail_lawful program.lawful⟩

/-- `reader->failed = true` on every refusal: the failure carries no code. -/
def orFailed (program : DecodeM protocol α) : DecodeM protocol α :=
  ⟨program.run.rescue fun reader => { reader with failed := true },
    program.lawful.rescue
      (fun _ sound => ⟨sound.offset_le, by simp, sound.bounded⟩)
      fun _ _ => ⟨rfl, rfl, Nat.le_refl _, fun _ => ⟨rfl, rfl, rfl⟩, McReader.stamped_refl _ _⟩⟩

end DecodeM

/-- `reader_fail_protocol` at the cursor, which stamps the protocol even on an earlier
failure. -/
def McReader.failProtocol (reader : McReader) (code : McErrorCode) (protocol : Int) : McReader :=
  let failed := reader.fail code reader.offset
  { failed with error := failed.error.map ({ · with protocol := protocol }) }

theorem McReader.Sound.failProtocol {reader : McReader} {code : McErrorCode} {protocol : Int}
    (sound : reader.Sound) : (reader.failProtocol code protocol).Sound := by
  have failed : (reader.fail code reader.offset).Sound := sound.fail sound.offset_le
  refine ⟨failed.offset_le, fun clean => ?_, fun error mem recorded => ?_⟩
  · simp [McReader.failProtocol] at clean
  · obtain ⟨previous, there, rfl⟩ := Option.mem_map.mp mem
    exact failed.bounded previous there recorded

theorem McReader.advancesFor_failProtocol {reader : McReader} {code : McErrorCode}
    {protocol : Int} : AdvancesFor protocol reader (reader.failProtocol code protocol) := by
  have failed : AdvancesFor protocol reader (reader.fail code reader.offset) :=
    advances_fail.advancesFor
  refine failed.trans ⟨rfl, rfl, Nat.le_refl _, fun stuck => ⟨stuck, rfl, ?_⟩, ?_⟩
  · simp only [McReader.failProtocol, Option.map_map]
    rfl
  · simp only [McReader.failProtocol]
    cases (reader.fail code reader.offset).error with
    | none => exact .none
    | some error => exact .some ⟨rfl, rfl, rfl, .inr rfl⟩

/-- `return reader_fail_protocol(...)`. -/
def readerFailProtocol {α : Type} (code : McErrorCode) (protocol : Int) : DecodeM protocol α :=
  ⟨fun reader => (none, reader.failProtocol code protocol),
    { keeps := fun _ sound => sound.failProtocol
      steps := fun _ _ => McReader.advancesFor_failProtocol
      replay := by
        intro reader other value _ _ _ accepted
        simp at accepted }⟩

/-- `return reader_fail_protocol(...)` on every refusal. -/
def DecodeM.orFailProtocol {protocol : Int} {α : Type} (code : McErrorCode)
    (program : DecodeM protocol α) : DecodeM protocol α :=
  ⟨program.run.rescue fun reader => reader.failProtocol code protocol,
    program.lawful.rescue (fun _ sound => sound.failProtocol)
      fun _ _ => McReader.advancesFor_failProtocol⟩

end McProtocol
