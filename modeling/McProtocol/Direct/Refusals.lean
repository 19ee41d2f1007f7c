import McProtocol.Lib.Landing
import McProtocol.Direct.ContainerContent
import McProtocol.Direct.DefaultReaders
import McProtocol.Direct.Respawn
import McProtocol.Direct.Scoreboard
import McProtocol.Direct.SlotUpdate
import McProtocol.Direct.Spawns
import McProtocol.Direct.Windows
import McProtocol.Typed.JoinGame

/-! # What a refusal leaves behind

A reader that refuses should have failed, and should say why. The checks of the decoders leave it to
whoever called them to do so, and some readers only set the flag. How much a refusal is worth is
followed through all of them.
-/

namespace McProtocol

open Prog (Lands)

/-- A reader to go on with. -/
structure McReader.Clean (reader : McReader) : Prop where
  sound : reader.Sound
  clean : reader.failed = false

/-- A failure that says why, where there is an error to say it in. -/
structure McReader.Coded (reader : McReader) : Prop where
  failed : reader.failed = true
  code : ∀ error ∈ reader.error, error.code ≠ .none

/-- What is known of a reader that has refused. -/
inductive Refusal where
  /-- It has failed, with a code. -/
  | coded
  /-- It has failed with a code, or it has not failed, whatever it has read. -/
  | quiet
  /-- It has failed. -/
  | bare
  /-- Nothing. -/
  | loose
  deriving Repr, DecidableEq

def Refusal.Leaves : Refusal → McReader → Prop
  | .coded => McReader.Coded
  | .quiet => fun reader => reader.Coded ∨ reader.Clean
  | .bare => fun reader => reader.failed = true
  | .loose => fun _ => True

/-- A code is as good as anything. -/
theorem Refusal.leaves_coded (kind : Refusal) {reader : McReader} (coded : reader.Coded) :
    kind.Leaves reader := by
  cases kind with
  | coded => exact coded
  | quiet => exact .inl coded
  | bare => exact coded.failed
  | loose => trivial

/-- From a clean reader the program returns with a clean one, or refuses like this. -/
def Refuses {α : Type} (kind : Refusal) (program : Prog McReader α) : Prop :=
  Lands McReader.Clean kind.Leaves program

theorem McReader.Clean.fail {reader : McReader} (clean : reader.Clean) {code : McErrorCode}
    (known : code ≠ .none) (offset : Nat) : (reader.fail code offset).Coded where
  failed := fail_failed
  code error mem := by
    rw [McReader.fail, if_neg (by simp [clean.clean])] at mem
    obtain ⟨previous, there, rfl⟩ := Option.mem_map.mp mem
    have silent := clean.sound.clean clean.clean previous there
    simpa [recordError, silent] using known

theorem McReader.Coded.fail {reader : McReader} (coded : reader.Coded) (code : McErrorCode)
    (offset : Nat) : (reader.fail code offset).Coded := by
  rwa [McReader.fail_of_failed coded.failed]

theorem McReader.Coded.stamp {reader : McReader} (coded : reader.Coded) (protocol : Int) :
    McReader.Coded { reader with
      error := reader.error.map ({ · with protocol := protocol }) } where
  failed := coded.failed
  code error mem := by
    obtain ⟨previous, there, rfl⟩ := Option.mem_map.mp mem
    exact coded.code previous there

theorem McReader.Clean.failProtocol {reader : McReader} (clean : reader.Clean) {code : McErrorCode}
    (known : code ≠ .none) (protocol : Int) : (reader.failProtocol code protocol).Coded :=
  (clean.fail known reader.offset).stamp protocol

theorem McReader.Coded.failProtocol {reader : McReader} (coded : reader.Coded) (code : McErrorCode)
    (protocol : Int) : (reader.failProtocol code protocol).Coded :=
  (coded.fail code reader.offset).stamp protocol

/-- A failure at the end of a quiet refusal is coded. -/
theorem Refusal.leaves_fail {reader : McReader} (quiet : Refusal.quiet.Leaves reader)
    {code : McErrorCode} (known : code ≠ .none) (offset : Nat) :
    (reader.fail code offset).Coded := by
  obtain coded | clean := quiet
  · exact coded.fail code offset
  · exact clean.fail known offset

theorem Refusal.leaves_failProtocol {reader : McReader} (quiet : Refusal.quiet.Leaves reader)
    {code : McErrorCode} (known : code ≠ .none) (protocol : Int) :
    (reader.failProtocol code protocol).Coded := by
  obtain coded | clean := quiet
  · exact coded.failProtocol code protocol
  · exact clean.failProtocol known protocol

/-- A clean reader gives what is asked for, or fails for want of it. -/
theorem McReader.Clean.bytes_cases {reader : McReader} (clean : reader.Clean) (size : Nat) :
    (mcReaderBytes size).run reader = (none, reader.fail .partialInput reader.size) ∨
      reader.offset + size ≤ reader.size ∧ (mcReaderBytes size).run reader =
        (some ((reader.data.drop reader.offset).take size),
          { reader with offset := reader.offset + size }) := by
  by_cases room : reader.offset + size ≤ reader.size
  · exact .inr ⟨room, McReader.bytes_enough clean.clean room⟩
  · exact .inl (McReader.bytes_short clean.clean clean.sound.offset_le (by omega))

namespace Refuses

variable {α β : Type} {kind : Refusal}

theorem of_coded {program : Prog McReader α} (coded : Refuses .coded program) :
    Refuses kind program :=
  Lands.mono coded fun _ => kind.leaves_coded

theorem pure (a : α) : Refuses kind (Pure.pure a) := Lands.pure a

theorem bind {program : Prog McReader α} {rest : α → Prog McReader β}
    (first : Refuses kind program) (behind : ∀ a, Refuses kind (rest a)) :
    Refuses kind (program >>= rest) :=
  Lands.bind first behind

theorem ite {D : Discipline McReader} {condition : Prop} [Decidable condition] {p q : Program D α}
    (yes : condition → Refuses kind p.run) (no : ¬ condition → Refuses kind q.run) :
    Refuses kind (if condition then p else q).run := by
  by_cases holds : condition
  · rw [if_pos holds]
    exact yes holds
  · rw [if_neg holds]
    exact no holds

theorem when {condition : Prop} [Decidable condition] {program : Prog McReader Unit}
    (refuses : condition → Refuses kind program) : Refuses kind (Prog.when condition program) :=
  Lands.when refuses

theorem iterate {body : α → Prog McReader α} (refuses : ∀ a, Refuses kind (body a)) (n : Nat)
    (a : α) : Refuses kind (Prog.iterate body n a) :=
  Lands.iterate refuses n a

theorem refuse : Refuses .quiet (Prog.refuse : Prog McReader α) :=
  Lands.refuse fun _ => .inr

theorem observe (g : McReader → α) : Refuses kind (Prog.observe g) := Lands.observe g

theorem offset : Refuses kind mcReaderOffset.run := observe _

theorem since (start : Nat) : Refuses kind (readSince start).run := observe _

section checks

variable {condition : Prop} [Decidable condition] {code : McErrorCode}

theorem require : Refuses .quiet (McProtocol.require condition).run :=
  Lands.check fun _ clean _ => .inr clean

theorem requireStrict : Refuses .quiet (McProtocol.requireStrict condition).run :=
  Lands.check fun _ clean _ => .inr clean

theorem requireRoom (count each : Nat) : Refuses .quiet (McProtocol.requireRoom count each).run :=
  Lands.check fun _ clean _ => .inr clean

theorem refuseFailed : Refuses kind McProtocol.refuseFailed.run :=
  Lands.check fun _ clean failed => by
    rw [clean.clean] at failed
    cases failed

theorem rejectWhen (known : code ≠ .none) (back : Nat) :
    Refuses kind (McProtocol.rejectWhen condition code back).run :=
  Lands.check fun _ clean _ => kind.leaves_coded (clean.fail known _)

theorem rejectStrict (known : code ≠ .none) (back : Nat) :
    Refuses kind (McProtocol.rejectStrict condition code back).run :=
  Lands.check fun _ clean _ => kind.leaves_coded (clean.fail known _)

theorem rejectAt (known : code ≠ .none) (start : Nat) :
    Refuses kind (McProtocol.rejectAt condition code start).run :=
  Lands.check fun _ clean _ => kind.leaves_coded (clean.fail known _)

theorem reject (known : code ≠ .none) (back : Nat) :
    Refuses kind (McProtocol.reject code back : ReadM α).run where
  returns reader a after clean run := by cases run
  refuses reader after clean run := by
    cases run
    exact kind.leaves_coded (clean.fail known _)

theorem orReject {program : ReadM α} (known : code ≠ .none) (quiet : Refuses .quiet program.run)
    (back : Nat) : Refuses kind (McProtocol.orReject code back program).run :=
  Lands.rescue quiet fun _ left => kind.leaves_coded (Refusal.leaves_fail left known _)

variable {protocol : Int}

theorem orInvalid {program : DecodeM protocol α} (quiet : Refuses .quiet program.run) :
    Refuses kind (DecodeM.orInvalid program).run :=
  Lands.rescue quiet fun _ left => kind.leaves_coded (Refusal.leaves_fail left (by decide) _)

theorem orFailProtocol {program : DecodeM protocol α} (known : code ≠ .none)
    (quiet : Refuses .quiet program.run) :
    Refuses kind (DecodeM.orFailProtocol code program).run :=
  Lands.rescue quiet fun _ left => kind.leaves_coded (Refusal.leaves_failProtocol left known _)

theorem readerFailProtocol (known : code ≠ .none) :
    Refuses kind (McProtocol.readerFailProtocol code protocol : DecodeM protocol α).run where
  returns reader a after clean run := by cases run
  refuses reader after clean run := by
    cases run
    exact kind.leaves_coded (clean.failProtocol known protocol)

/-- A program that returns could have been replayed, and leaves a clean reader. -/
theorem of_lawful (program : DecodeM protocol α) : Refuses .loose program.run where
  returns reader a after clean run := by
    have sound := program.lawful.keeps reader clean.sound
    have permits : reader.Permits reader :=
      ⟨clean.clean, clean.clean, rfl, List.prefix_rfl, .inl rfl⟩
    have again := (program.lawful.replay reader reader a clean.sound clean.sound permits
      (congrArg Prod.fst run)).2
    rw [run] at sound again
    exact ⟨sound, again.left_clean⟩
  refuses _ _ _ _ := trivial

/-- A bare failure: whatever went wrong, the reader has failed. -/
theorem orFailed (program : DecodeM protocol α) : Refuses .bare (DecodeM.orFailed program).run :=
  Lands.rescue (of_lawful program) fun _ _ => rfl

/-- The protocol is the only thing that these readers refuse barely. -/
theorem supported {condition : Prop} [Decidable condition] (good : condition) :
    Refuses kind (DecodeM.orFailed (McProtocol.require condition) : DecodeM protocol Unit).run where
  returns reader a after clean run := by
    cases (show (some (), reader) = (some a, after) from
      (Prog.rescue_some (McProtocol.require_good good)).symm.trans run)
    exact clean
  refuses reader after clean run := by
    cases (show (some (), reader) = (none, after) from
      (Prog.rescue_some (McProtocol.require_good good)).symm.trans run)

end checks

theorem bytes (size : Nat) : Refuses kind (mcReaderBytes size).run where
  returns reader taken after clean run := by
    have sound := (mcReaderBytes size).lawful.keeps reader clean.sound
    rw [run] at sound
    refine ⟨sound, ?_⟩
    obtain short | ⟨-, served⟩ := clean.bytes_cases size
    · cases short.symm.trans run
    · cases served.symm.trans run
      exact clean.clean
  refuses reader after clean run := by
    obtain short | ⟨-, served⟩ := clean.bytes_cases size
    · cases short.symm.trans run
      exact kind.leaves_coded (clean.fail (by decide) _)
    · cases served.symm.trans run

theorem skip (size : Nat) : Refuses kind (mcReaderSkip size).run := .bind (.bytes size) fun _ => .pure ()

theorem u8 : Refuses kind mcReaderU8.run := .bind (.bytes 1) fun _ => .pure _

theorem i8 : Refuses kind mcReaderI8.run := .bind .u8 fun _ => .pure _

theorem u16 : Refuses kind mcReaderU16.run := .bind (.bytes 2) fun _ => .pure _

theorem i16 : Refuses kind mcReaderI16.run := .bind .u16 fun _ => .pure _

theorem u32 : Refuses kind mcReaderU32.run := .bind (.bytes 4) fun _ => .pure _

theorem i32 : Refuses kind mcReaderI32.run := .bind .u32 fun _ => .pure _

theorem u64 : Refuses kind mcReaderU64.run := .bind (.bytes 8) fun _ => .pure _

theorem i64 : Refuses kind mcReaderI64.run := .bind .u64 fun _ => .pure _

theorem float : Refuses kind mcReaderFloat.run := .bind .u32 fun _ => .pure _

theorem double : Refuses kind mcReaderDouble.run := .bind .u64 fun _ => .pure _

theorem bool : Refuses kind mcReaderBool.run :=
  .bind .u8 fun _ => .bind (.rejectStrict (by decide) 1) fun _ => .pure _

theorem readGroups (groups mask left result : Nat) :
    Refuses kind (McProtocol.readGroups groups mask left result).run := by
  induction left generalizing result with
  | zero => exact .reject (by decide) 1
  | succ left ih =>
      exact .bind .u8 fun _ => .bind (.rejectWhen (by decide) 1) fun _ =>
        .ite (fun _ => .bind (.rejectStrict (by decide) 1) fun _ => .pure _) fun _ => ih _

theorem varint : Refuses kind mcReaderVarint.run := .bind (.readGroups _ _ _ _) fun _ => .pure _

theorem varlong : Refuses kind mcReaderVarlong.run := .bind (.readGroups _ _ _ _) fun _ => .pure _

theorem bufferI32 : Refuses kind mcReaderBufferI32.run :=
  .bind .i32 fun _ => .bind (.rejectWhen (by decide) 4) fun _ => .bytes _

theorem bufferVarint : Refuses kind mcReaderBufferVarint.run :=
  .bind .offset fun _ => .bind .varint fun _ => .bind (.rejectAt (by decide) _) fun _ => .bytes _

theorem stringBounded (maxSize : Nat) : Refuses kind (mcReaderStringBounded maxSize).run :=
  .bind .offset fun _ => .bind .varint fun _ => .bind (.rejectAt (by decide) _) fun _ =>
    .bind (.rejectAt (by decide) _) fun _ => .bytes _

theorem string : Refuses kind mcReaderString.run := .stringBounded _

theorem nonempty (maxSize : Nat) : Refuses .quiet (readNonempty maxSize).run :=
  .bind (.stringBounded maxSize) fun _ => .bind .require fun _ => .pure _

/-- Sixteen bytes are a UUID. -/
theorem uuid : Refuses kind mcReaderUuid.run := by
  refine .bind .refuseFailed fun _ => ⟨fun reader found after clean run => ?_,
    fun reader after clean run => ?_⟩
  · obtain ⟨taken, last, read, ran⟩ := Prog.bind_eq_some run
    have clean' := (bytes 16 : Refuses kind _).returns reader taken last clean read
    dsimp only at ran
    split_ifs at ran
    · cases ran
      exact clean'
    · cases ran
  · obtain short | ⟨room, served⟩ := clean.bytes_cases 16
    · obtain stopped | ⟨taken, last, read, -⟩ := Prog.bind_eq_none run
      · exact (bytes 16 : Refuses kind _).refuses reader after clean stopped
      · cases short.symm.trans read
    · have whole : ((reader.data.drop reader.offset).take 16).length = 16 := by
        unfold McReader.size at room
        rw [List.length_take, List.length_drop]
        omega
      have ran := (Prog.bind_some served).symm.trans run
      dsimp only at ran
      rw [dif_pos whole] at ran
      cases ran

theorem typedRequire {condition : Prop} [Decidable condition] :
    Refuses kind (McProtocol.typedRequire condition).run :=
  .rejectWhen (by decide) 0

theorem typedCount {value : Int} {maximum : Nat} :
    Refuses kind (McProtocol.typedCount value maximum).run :=
  .rejectWhen (by decide) 0

theorem entityId (protocol : Int) : Refuses kind (readEntityId protocol).run :=
  .ite (fun _ => .i32) fun _ => .varint

theorem position {protocol : Int} : Refuses kind (mcReaderPosition protocol).run :=
  .bind .refuseFailed fun _ => .ite (fun _ => .readerFailProtocol (by decide)) fun _ =>
    .bind .u64 fun _ => .ite (fun _ => .pure _) fun _ => .pure _

theorem present {program : ReadM α} (refuses : Refuses kind program.run) :
    Refuses kind (readPresent program).run :=
  .bind .bool fun _ => .ite (fun _ => .bind refuses fun _ => .pure _) fun _ => .pure _

/-- A loop whose rounds take bytes. -/
theorem readLoop {body : ReadM Bool} (refuses : Refuses kind body.run)
    (takes : ∀ reader after, reader.Clean → body.run reader = (some true, after) →
      reader.offset < after.offset) : Refuses kind (McProtocol.readLoop body).run := by
  refine Lands.loop mcReaderRemaining refuses (fun reader after clean run => ?_)
    fun _ => Nat.lt_succ_self _
  have further := takes reader after clean run
  have clean' := refuses.returns reader true after clean run
  have same := (body.lawful.steps reader clean.sound).data_eq
  rw [run] at same
  have inside := clean'.sound.offset_le
  have size : after.size = reader.size := congrArg List.length same
  have outside : ¬ (after.failed = true ∨ after.size < after.offset) := by
    rw [clean'.clean]
    simp only [Bool.false_eq_true, false_or]
    omega
  have outside' : ¬ (reader.failed = true ∨ reader.size < reader.offset) := by
    rw [clean.clean]
    simp only [Bool.false_eq_true, false_or]
    omega
  rw [mcReaderRemaining, mcReaderRemaining, if_neg outside, if_neg outside']
  omega

/-- What begins with a byte moves on. -/
theorem takes_u8 {rest : UInt8 → ReadM α} {reader after : McReader} {a : α} (clean : reader.Clean)
    (run : (mcReaderU8 >>= rest).run reader = (some a, after)) : reader.offset < after.offset := by
  obtain ⟨byte, middle, read, ran⟩ := Prog.bind_eq_some run
  obtain ⟨taken, last, served, returned⟩ := Prog.bind_eq_some read
  cases returned
  have moved : middle.offset = reader.offset + 1 := by
    obtain short | ⟨-, taken⟩ := clean.bytes_cases 1
    · cases short.symm.trans served
    · cases taken.symm.trans served
      rfl
  have still := (bytes 1 : Refuses .loose _).returns reader _ middle clean served
  have forward := ((rest (taken.headD 0)).lawful.steps middle still.sound).offset_le
  rw [ran] at forward
  dsimp only at forward
  omega

theorem nbtName : Refuses kind mcReaderNbtName.run := .bind .u16 fun _ => .bytes _

theorem nbtSkipArray (width : Nat) : Refuses kind (McProtocol.nbtSkipArray width).run :=
  .bind .offset fun _ => .bind .i32 fun _ => .bind (.rejectAt (by decide) _) fun _ =>
    .bind (.rejectAt (by decide) _) fun _ => .skip _

theorem nbtSkipValueAt (budget : Nat) (type : McNbtType) :
    Refuses kind (McProtocol.nbtSkipValueAt budget type).run := by
  induction budget generalizing type kind with
  | zero => exact .reject (by decide) 0
  | succ budget ih =>
      cases type with
      | endTag => exact .reject (by decide) 0
      | byte => exact .skip 1
      | short => exact .skip 2
      | int => exact .skip 4
      | float => exact .skip 4
      | long => exact .skip 8
      | double => exact .skip 8
      | byteArray => exact .nbtSkipArray 1
      | intArray => exact .nbtSkipArray 4
      | longArray => exact .nbtSkipArray 8
      | string => exact .bind .nbtName fun _ => .pure ()
      | list =>
          refine .bind .u8 fun element => .bind .offset fun _ => .bind .i32 fun count =>
            .bind (.rejectAt (by decide) _) fun _ => ?_
          cases McNbtType.ofByte element with
          | none => exact .rejectAt (by decide) _
          | some element => exact .bind (.rejectAt (by decide) _) fun _ => .iterate (fun _ => ih element) _ _
      | compound =>
          refine .readLoop (.bind .u8 fun child => .ite (fun _ => .pure false) fun _ =>
            .orReject (by decide) ?_ 1) fun _ _ => takes_u8
          cases McNbtType.ofByte child with
          | none => exact .refuse
          | some child => exact .bind .nbtName fun _ => .bind (ih child) fun _ => .pure true

theorem nbtValue (type : McNbtType) : Refuses kind (mcReaderNbtValue type).run :=
  .bind .offset fun _ => .bind (.nbtSkipValueAt _ type) fun _ => .since _

theorem nbtSkipRoot (namedRoot : Bool) : Refuses kind (McProtocol.nbtSkipRoot namedRoot).run := by
  refine .bind .u8 fun root => ?_
  dsimp only
  split
  · exact .reject (by decide) 1
  · exact .pure ()
  · exact .ite (fun _ => .bind .nbtName fun _ => .nbtSkipValueAt _ _) fun _ => .nbtSkipValueAt _ _

theorem nbt (namedRoot : Bool) : Refuses kind (mcReaderNbt namedRoot).run :=
  .bind .offset fun _ => .bind (.nbtSkipRoot namedRoot) fun _ => .since _

theorem noItemTag (protocol : Int) : Refuses .quiet (readNoItemTag protocol).run :=
  .ite (fun _ => .bind .i16 fun _ => .require) fun _ => .bind .u8 fun _ => .require

theorem shortPlainItem (protocol : Int) : Refuses kind (readShortPlainItem protocol).run :=
  .bind .u16 fun _ => .ite (fun _ => .pure _) fun _ => .orInvalid <| .bind .u8 fun _ =>
    .bind .require fun _ => .bind (.when fun _ => .bind .u16 fun _ => .require) fun _ =>
      .bind (.noItemTag protocol) fun _ => .pure _

theorem flaggedPlainItem (protocol : Int) : Refuses kind (readFlaggedPlainItem protocol).run :=
  .orInvalid <| .bind .u8 fun _ => .bind .require fun _ => .ite (fun _ => .pure _) fun _ =>
    .bind .varint fun _ => .bind .require fun _ => .bind .u8 fun _ => .bind .require fun _ =>
      .bind .u8 fun _ => .bind .require fun _ => .pure _

theorem componentPlainItem (protocol : Int) : Refuses kind (readComponentPlainItem protocol).run :=
  .orInvalid <| .bind .varint fun _ => .bind .require fun _ => .ite (fun _ => .pure _) fun _ =>
    .bind .varint fun _ => .bind .require fun _ => .bind .varint fun _ => .bind .require fun _ =>
      .bind .varint fun _ => .bind .require fun _ => .pure _

theorem plainItem (protocol : Int) : Refuses kind (mcReaderPlainItem protocol).run :=
  .bind .refuseFailed fun _ => .ite (fun _ => .readerFailProtocol (by decide)) fun _ =>
    .ite (fun _ => .shortPlainItem protocol) fun _ =>
      .ite (fun _ => .flaggedPlainItem protocol) fun _ => .componentPlainItem protocol

/-- The verdict of zlib is never that nothing was wrong. -/
theorem inflateSteps_code {zlib : Zlib} {root : Option UInt8} {tooLarge code : McErrorCode}
    (known : tooLarge ≠ .none) {maximum fuel : Nat} {state : zlib.State} {input : List UInt8}
    {produced : Nat}
    (stopped : inflateSteps zlib root tooLarge maximum fuel state input produced = .error code) :
    code ≠ .none := by
  induction fuel generalizing state input produced with
  | zero =>
      cases stopped
      decide
  | succ fuel ih =>
      rw [inflateSteps] at stopped
      split at stopped
      · cases stopped
        decide
      · split at stopped
        · cases stopped
          exact known
        · split at stopped
          · split at stopped
            · cases stopped
            · cases stopped
              decide
          · cases stopped
            decide
          · split at stopped
            · cases stopped
              decide
            · exact ih stopped

theorem inflateWhole_code {zlib : Zlib} {windowBits : Nat} {root : Option UInt8}
    {tooLarge code : McErrorCode} (known : tooLarge ≠ .none) {maximum : Nat} {compressed : List UInt8}
    (stopped : inflateWhole zlib windowBits root tooLarge maximum compressed = .error code) :
    code ≠ .none := by
  rw [inflateWhole] at stopped
  split at stopped
  · cases stopped
    decide
  · exact inflateSteps_code known stopped

theorem validateGzipNbt (zlib : Zlib) (compressed : List UInt8) :
    Refuses kind (typedValidateGzipNbt zlib compressed).run := by
  refine .bind .typedRequire fun _ => .bind ?_ fun _ => .rejectWhen (by decide) 0
  rcases verdict : inflateWhole zlib (Zlib.maxWbits + 16) (some McNbtType.compound.toByte) .nbtLength
    mcDefaultMaxStringBytes compressed with code | produced
  · exact .reject (inflateWhole_code (by decide) verdict) 0
  · exact .pure produced

end Refuses

/-- Validators that say why they refuse. -/
structure Validators.Recording (validators : Validators) : Prop where
  component : ∀ protocol, Refuses .coded (validators.skipSlotComponent protocol 0).run
  componentType : ∀ protocol, Refuses .coded (validators.skipSlotComponentType protocol 0).run
  profile : ∀ protocol, Refuses .coded (validators.resolvableProfile protocol 0).run

namespace Refuses

section items

variable {kind : Refusal} {validators : Validators} {protocol : Int}

theorem flaggedItem (wireKind : McItemWireKind) :
    Refuses kind (readFlaggedItem protocol wireKind).run :=
  .bind .bool fun _ => .ite (fun _ => .pure _) fun _ =>
    .bind (.orInvalid <| .bind .varint fun _ => .bind .u8 fun _ => .bind .require fun _ =>
      .bind (.nbt _) fun _ => .pure _) fun _ => .pure _

theorem gzipNbt : Refuses kind (validators.readGzipNbt protocol).run :=
  .bind .i16 fun _ => .bind .typedRequire fun _ => .ite (fun _ => .bind (.bytes _) fun _ =>
    .bind (.validateGzipNbt _ _) fun _ => .pure _) fun _ => .pure _

theorem shortItem (wireKind : McItemWireKind) :
    Refuses kind (validators.readShortItem protocol wireKind).run :=
  .bind .u16 fun _ => .ite (fun _ => .pure _) fun _ =>
    .bind (.orInvalid <| .bind .require fun _ => .bind .u8 fun _ => .bind .require fun _ =>
      .bind (.ite (fun _ => .u16) fun _ => .pure _) fun _ => .pure _) fun _ =>
    .bind (.ite (fun _ => .gzipNbt) fun _ => .bind (.nbt _) fun _ => .pure _) fun _ => .pure _

variable (records : validators.Recording)

include records

theorem componentType : Refuses kind (validators.typedReadComponentType protocol).run :=
  .of_coded (records.componentType protocol)

theorem removed (count : Int) : Refuses kind (validators.readRemoved protocol count).run :=
  .orInvalid <| .iterate (fun _ => .componentType records) _ _

theorem hashedItem : Refuses kind (validators.readHashedItem protocol).run :=
  .bind .bool fun _ => .ite (fun _ => .pure _) fun _ =>
    .bind (.orInvalid <| .bind .varint fun _ => .bind .varint fun _ => .bind .varint fun _ =>
      .bind .require fun _ => .bind .typedCount fun _ => .pure _) fun _ =>
    .bind .offset fun _ =>
    .bind (.orInvalid <| .iterate (fun _ => .bind (.componentType records) fun _ =>
      .bind .i32 fun _ => .pure _) _ _) fun _ =>
    .bind (.orInvalid <| .bind .varint fun _ => .bind .typedCount fun _ => .bind .require fun _ =>
      .pure _) fun _ =>
    .bind (.removed records _) fun _ => .bind (.since _) fun _ => .pure _

theorem added (wireKind : McItemWireKind) (count : Int) :
    Refuses kind (validators.readAdded protocol wireKind count).run :=
  .ite (fun _ => .orInvalid <| .iterate (fun _ => .bind (.componentType records) fun _ =>
      .bind .bufferVarint fun _ => .pure _) _ _)
    fun _ => .iterate (fun _ => .of_coded (records.component protocol)) _ _

theorem componentItem (wireKind : McItemWireKind) :
    Refuses kind (validators.readComponentItem protocol wireKind).run :=
  .bind (.ite (fun _ => .i8) fun _ => .varint) fun _ => .bind .typedRequire fun _ =>
    .ite (fun _ => .pure _) fun _ =>
      .bind (.orInvalid <| .bind .varint fun _ => .bind .varint fun _ => .bind .varint fun _ =>
        .bind .require fun _ => .bind .typedCount fun _ => .bind .typedCount fun _ =>
          .bind .require fun _ => .pure _) fun _ =>
      .bind .offset fun _ => .bind (.added records wireKind _) fun _ =>
        .bind (.removed records _) fun _ => .bind (.since _) fun _ => .pure _

theorem itemStack (wireKind : McItemWireKind) :
    Refuses kind (validators.mcReaderItemStack protocol wireKind).run :=
  .bind .refuseFailed fun _ => .ite (fun _ => .readerFailProtocol (by decide)) fun _ =>
    .bind .offset fun _ =>
      .bind (.ite (fun _ => .hashedItem records) fun _ => .ite (fun _ => .shortItem wireKind)
        fun _ => .ite (fun _ => .flaggedItem wireKind) fun _ => .componentItem records wireKind)
      fun _ => .bind (.since _) fun _ => .pure _

end items

section plain

variable {kind : Refusal} {protocol : Int}

theorem nonnegative : Refuses kind McProtocol.skipNonnegative.run :=
  .orReject (by decide) (.bind .varint fun _ => .require) 0

theorem skipVarint : Refuses kind McProtocol.skipVarint.run := .bind .varint fun _ => .pure ()

theorem skipBool : Refuses kind McProtocol.skipBool.run := .bind .bool fun _ => .pure ()

theorem skipI32 : Refuses kind McProtocol.skipI32.run := .bind .i32 fun _ => .pure ()

theorem skipNbt (namedRoot : Bool) : Refuses kind (McProtocol.skipNbt namedRoot).run :=
  .bind (.nbt _) fun _ => .pure ()

theorem skipFloats (count : Nat) : Refuses kind (typedSkipFloats count).run :=
  .iterate (fun _ => .bind .float fun _ => .typedRequire) _ _

theorem stringValue : Refuses kind typedSkipStringValue.run :=
  .bind (.stringBounded _) fun _ => .pure ()

theorem uuidValue : Refuses kind typedSkipUuidValue.run := .bind .uuid fun _ => .pure ()

theorem threeNonnegative : Refuses kind skipThreeNonnegative.run :=
  .iterate (fun _ => .nonnegative) _ _

theorem positionValue : Refuses kind (typedSkipPositionValue : DecodeM protocol Unit).run :=
  .bind .position fun _ => .pure ()

theorem optional {payload : DecodeM protocol Unit} (refuses : Refuses kind payload.run) :
    Refuses kind (typedSkipOptional payload).run :=
  .bind .bool fun _ => .when fun _ => refuses

theorem painting : Refuses kind (typedSkipRegistryHolderPainting : DecodeM protocol Unit).run :=
  .orInvalid <| .bind .varint fun _ => .bind .require fun _ => .when fun _ =>
    .bind .i32 fun _ => .bind .i32 fun _ => .bind .require fun _ => .bind (.nonempty _) fun _ =>
      .bind (.optional (.skipNbt false)) fun _ => .optional (.skipNbt false)

theorem vibrationEntity : Refuses kind (skipVibrationEntity protocol).run :=
  .orReject (by decide) (.bind .varint fun _ => .bind .require fun _ => .when fun _ =>
    .bind .skipVarint fun _ => .bind .varint fun _ => .require) 0

theorem oldVibration : Refuses kind (skipOldVibration protocol).run :=
  .bind (.when fun _ => .positionValue) fun _ => .bind (.stringBounded 64) fun _ =>
    .bind (.ite (fun _ => .positionValue) fun _ => .ite (fun _ => .vibrationEntity) fun _ =>
      .reject (by decide) 0) fun _ => .nonnegative

theorem dust (colours : Nat) : Refuses kind (skipDust protocol colours).run :=
  .ite (fun _ => .skipFloats _) fun _ =>
    .bind (.iterate (fun _ => .skipI32) _ _) fun _ => .skipFloats 1

theorem modernVibration : Refuses kind (skipModernVibration protocol).run :=
  .bind (.orInvalid <| .bind .varint fun _ => .bind .require fun _ => .pure _) fun _ =>
    .bind (.ite (fun _ => .positionValue) fun _ =>
      .orInvalid <| .bind .nonnegative fun _ => .skipFloats 1) fun _ => .nonnegative

theorem trail : Refuses kind skipTrail.run :=
  .bind (.iterate (fun _ => .orReject (by decide) (.bind .double fun _ => .require) 0) _ _)
    fun _ => .bind .u8 fun _ => .pure ()

theorem serializer (key : UInt8) : Refuses kind (readSerializer protocol key).run :=
  .ite (fun _ => .pure _) fun _ =>
    .orReject (by decide) (.bind .varint fun _ => .bind .require fun _ => .pure _) 0

end plain

section metadata

variable {kind : Refusal} {validators : Validators} {protocol : Int}
variable (records : validators.Recording)

include records

theorem item : Refuses kind (skipItem validators protocol).run :=
  .bind (.itemStack records .full) fun _ => .pure ()

theorem oldParticle (particle : Int) :
    Refuses kind (typedSkipOldParticleValue validators protocol particle).run :=
  .bind .typedRequire fun _ => .ite (fun _ => .nonnegative) fun _ =>
    .ite (fun _ => .skipFloats 4) fun _ => .ite (fun _ => .skipFloats 7) fun _ =>
      .ite (fun _ => .skipFloats 1) fun _ => .ite (fun _ => .item records) fun _ =>
        .ite (fun _ => .oldVibration) fun _ => .pure ()

theorem modernParticle (particle : Int) :
    Refuses kind (typedSkipModernParticleValue validators protocol particle).run :=
  .bind .typedRequire fun _ => .ite (fun _ => .nonnegative) fun _ => .ite (fun _ => .dust 1) fun _ =>
    .ite (fun _ => .dust 2) fun _ => .ite (fun _ => .skipI32) fun _ =>
      .ite (fun _ => .item records) fun _ => .ite (fun _ => .skipFloats 1) fun _ =>
        .ite (fun _ => .bind .skipI32 fun _ => .skipFloats 1) fun _ =>
          .ite (fun _ => .modernVibration) fun _ => .ite (fun _ => .trail) fun _ => .pure ()

theorem readOldParticle : Refuses kind (typedSkipOldParticle validators protocol).run :=
  .bind .varint fun _ => .oldParticle records _

theorem readModernParticle : Refuses kind (typedSkipModernParticle validators protocol).run :=
  .bind .varint fun _ => .modernParticle records _

theorem particles : Refuses kind (skipParticles validators protocol).run :=
  .bind .varint fun _ => .bind .typedCount fun _ =>
    .iterate (fun _ => .readModernParticle records) _ _

theorem value47 (type : Int) : Refuses kind (skipValue47 validators protocol type).run :=
  .ite (fun _ => .skip 1) fun _ => .ite (fun _ => .skip 2) fun _ => .ite (fun _ => .skip 4) fun _ =>
    .ite (fun _ => .skipFloats 1) fun _ => .ite (fun _ => .stringValue) fun _ =>
      .ite (fun _ => .item records) fun _ => .ite (fun _ => .skip 12) fun _ =>
        .ite (fun _ => .skipFloats 3) fun _ => .reject (by decide) 0

theorem value340 (type : Int) : Refuses kind (skipValue340 validators protocol type).run :=
  .ite (fun _ => .skip 1) fun _ => .ite (fun _ => .skipVarint) fun _ =>
    .ite (fun _ => .skipFloats 1) fun _ => .ite (fun _ => .stringValue) fun _ =>
      .ite (fun _ => .item records) fun _ => .ite (fun _ => .skipBool) fun _ =>
        .ite (fun _ => .skipFloats 3) fun _ => .ite (fun _ => .positionValue) fun _ =>
          .ite (fun _ => .optional .positionValue) fun _ =>
            .ite (fun _ => .optional .uuidValue) fun _ => .ite (fun _ => .skipNbt true) fun _ =>
              .reject (by decide) 0

theorem value760 (type : Int) : Refuses kind (skipValue760 validators protocol type).run :=
  .ite (fun _ => .skip 1) fun _ => .ite (fun _ => .skipVarint) fun _ =>
    .ite (fun _ => .skipFloats 1) fun _ => .ite (fun _ => .stringValue) fun _ =>
      .ite (fun _ => .optional .stringValue) fun _ => .ite (fun _ => .item records) fun _ =>
        .ite (fun _ => .skipBool) fun _ => .ite (fun _ => .skipFloats 3) fun _ =>
          .ite (fun _ => .positionValue) fun _ => .ite (fun _ => .optional .positionValue) fun _ =>
            .ite (fun _ => .skipVarint) fun _ => .ite (fun _ => .optional .uuidValue) fun _ =>
              .ite (fun _ => .skipNbt true) fun _ => .ite (fun _ => .readOldParticle records) fun _ =>
                .ite (fun _ => .threeNonnegative) fun _ =>
                  .ite (fun _ => .optional .stringValue) fun _ => .reject (by decide) 0

theorem value761 (type : Int) : Refuses kind (skipValue761 validators protocol type).run :=
  .ite (fun _ => .nonnegative) fun _ => .ite (fun _ => .skipNbt true) fun _ =>
    .ite (fun _ => .readOldParticle records) fun _ => .ite (fun _ => .threeNonnegative) fun _ =>
      .ite (fun _ => .skipVarint) fun _ => .ite (fun _ => .optional .stringValue) fun _ =>
        .reject (by decide) 0

theorem valueLate (type : Int) : Refuses kind (skipValueLate validators protocol type).run :=
  .ite (fun _ => .skipVarint) fun _ =>
    .ite (fun _ => .ite (fun _ => .readModernParticle records) fun _ => .skipNbt _) fun _ =>
      .ite (fun _ => .ite (fun _ => .particles records) fun _ =>
          .ite (fun _ => .readModernParticle records) fun _ => .ite (fun _ => .nonnegative) fun _ =>
            .readOldParticle records) fun _ =>
        .ite (fun _ => .particles records) fun _ => .reject (by decide) 0

theorem value (type : Int) : Refuses kind (skipValue validators protocol type).run :=
  .ite (fun _ => .skip 1) fun _ => .ite (fun _ => .skipVarint) fun _ =>
    .ite (fun _ => .bind .varlong fun _ => .pure ()) fun _ => .ite (fun _ => .skipFloats 1) fun _ =>
      .ite (fun _ => .stringValue) fun _ =>
        .ite (fun _ => .ite (fun _ => .skipNbt false) fun _ => .stringValue) fun _ =>
          .ite (fun _ => .optional (.ite (fun _ => .skipNbt false) fun _ => .stringValue)) fun _ =>
            .ite (fun _ => .item records) fun _ => .ite (fun _ => .skipBool) fun _ =>
              .ite (fun _ => .skipFloats 3) fun _ => .ite (fun _ => .positionValue) fun _ =>
                .ite (fun _ => .optional .positionValue) fun _ =>
                  .ite (fun _ => .optional .uuidValue) fun _ =>
                    .ite (fun _ => .value761 records type) fun _ => .valueLate records type

theorem metadataValue (type : Int) :
    Refuses kind (typedSkipMetadataValue validators protocol type).run :=
  .ite (fun _ => .value47 records type) fun _ => .ite (fun _ => .value340 records type) fun _ =>
    .ite (fun _ => .value760 records type) fun _ => .value records type

theorem namedMetadataValue (type : Int) :
    Refuses kind (typedSkipNamedMetadataValue validators protocol type).run :=
  .ite (fun _ => .metadataValue records type) fun _ => .ite (fun _ => .particles records) fun _ =>
    .ite (fun _ => .threeNonnegative) fun _ => .ite (fun _ => .nonnegative) fun _ =>
      .ite (fun _ => .optional (.bind .stringValue fun _ => .when fun _ => .positionValue)) fun _ =>
        .ite (fun _ => .ite (fun _ => .painting) fun _ => .nonnegative) fun _ =>
          .ite (fun _ => .skipFloats 3) fun _ => .ite (fun _ => .skipFloats 4) fun _ =>
            .ite (fun _ => .of_coded (records.profile protocol)) fun _ =>
              .ite (fun _ => .nonnegative) fun _ => .ite (fun _ => .nonnegative) fun _ =>
                .reject (by decide) 0

theorem skipMetadataEntries (left count : Nat) :
    Refuses kind (McProtocol.skipMetadataEntries validators protocol left count).run := by
  induction left generalizing count with
  | zero => exact .bind .u8 fun _ => .ite (fun _ => .pure _) fun _ => .reject (by decide) 0
  | succ left ih =>
      exact .bind .u8 fun _ => .ite (fun _ => .pure _) fun _ => .bind (.serializer _) fun type =>
        .bind (.ite (fun _ => .namedMetadataValue records type) fun _ => .metadataValue records type)
          fun _ => ih _

theorem metadataEntries : Refuses kind (typedDecodeMetadataEntries validators protocol).run :=
  .bind .offset fun _ => .bind (.skipMetadataEntries records _ _) fun _ =>
    .bind (.since _) fun _ => .pure _

end metadata

end Refuses

end McProtocol
