import McProtocol.Grammar
import McProtocol.Registry
import McProtocol.Packet

/-! # Replay traces

A trace is a header and its records, one behind the other. The reader checks a record
as it comes to it; the grammar of a record is what it may come to.
-/

namespace McProtocol

/-- `MC_REPLAY_MAGIC_SIZE` bytes, "MCTR". -/
def mcReplayMagic : List UInt8 := [77, 67, 84, 82]

def mcReplayFormatVersion : Nat := 1

/-- The numbers of `McPacketDirection`. -/
def McPacketDirection.code : McPacketDirection → UInt8
  | serverbound => 0
  | clientbound => 1

/-- The numbers of `McState`. -/
def McState.code : McState → UInt8
  | disconnected => 0
  | login => 1
  | configuration => 2
  | play => 3
  | status => 4

/-- The cast of a byte to `McPacketDirection`, where it is one. -/
def McPacketDirection.ofCode (code : UInt8) : Option McPacketDirection :=
  if code = 0 then some serverbound else if code = 1 then some clientbound else none

/-- The cast of a byte to `McState`, between `MC_STATE_LOGIN` and `MC_STATE_STATUS`. -/
def McState.ofCode (code : UInt8) : Option McState :=
  if code = 1 then some login
  else if code = 2 then some configuration
  else if code = 3 then some play
  else if code = 4 then some status
  else none

structure McReplayRecord where
  direction : McPacketDirection
  state : McState
  deltaTimeNs : UInt64
  packetId : Int
  payload : List UInt8
  deriving Repr, DecidableEq

/-- `error` is the one attached to the reader. -/
structure McReplayReader where
  reader : McReader
  protocol : Int
  recordCount : Nat
  recordIndex : Nat

structure ReplayHeader where
  version : Nat
  flags : Nat
  protocol : Int
  count : Nat

def readReplayHeader : ReadM ReplayHeader := do
  let magic ← mcReaderBytes 4
  require (magic = mcReplayMagic)
  let version ← mcReaderU16
  let flags ← mcReaderU16
  let protocolBits ← mcReaderU32
  let count ← mcReaderU32
  pure ⟨version, flags, toSigned 32 protocolBits, count⟩

def ReplayHeader.Refused (header : ReplayHeader) : Prop :=
  header.version ≠ mcReplayFormatVersion ∨ header.flags ≠ 0 ∨
    mcProtocolSupported header.protocol = false ∨ mcMaxPacketArrayCount < header.count

instance : DecidablePred ReplayHeader.Refused := fun _ => inferInstanceAs (Decidable (_ ∨ _))

/-- `mc_replay_reader_init`: the reader, or the error it leaves. -/
def mcReplayReaderInit (data : Buffer) (error : Option McError) :
    Option McReplayReader × Option McError :=
  let cleared := error.map fun _ => mcErrorClear
  if data.Missing then
    (none, cleared.map (recordError · .invalidArgument mcErrorOffsetUnknown))
  else
    match readReplayHeader.run (mcReaderInitMode data.content .strict cleared) with
    | (none, reader) => (none, reader.error.map (recordError · .invalidPacketBody reader.offset))
    | (some header, reader) =>
        let stamp (error : McError) := { error with protocol := header.protocol }
        if header.Refused then
          let code := if mcProtocolSupported header.protocol = false then
            McErrorCode.unsupportedProtocol else .invalidPacketBody
          (none, reader.error.map fun error => stamp (recordError error code reader.offset))
        else
          let error := reader.error.map stamp
          (some ⟨{ reader with error := error }, header.protocol, header.count, 0⟩, error)

/-- What comes before the payload of a record. -/
structure ReplayRecordHead where
  direction : UInt8
  state : UInt8
  deltaTimeNs : Nat
  packetId : Int
  payloadSize : Nat

def readReplayRecordHead : ReadM ReplayRecordHead := do
  let direction ← mcReaderU8
  let state ← mcReaderU8
  let deltaTimeNs ← mcReaderU64
  let packetBits ← mcReaderU32
  let payloadSize ← mcReaderU32
  pure ⟨direction, state, deltaTimeNs, toSigned 32 packetBits, payloadSize⟩

/-- The checks of a record, and its payload. -/
def readReplayRecordBody (catalog : McPacketCatalog) (protocol : Int) (head : ReplayRecordHead) :
    ReadM McReplayRecord :=
  match McPacketDirection.ofCode head.direction, McState.ofCode head.state with
  | some direction, some state => do
      require (head.payloadSize ≤ mcDefaultMaxFrameSize)
      require ((catalog.mcPacketName protocol state direction head.packetId).isSome)
      let payload ← mcReaderBytes head.payloadSize
      pure ⟨direction, state, .ofNat head.deltaTimeNs, head.packetId, payload⟩
  | _, _ => .refuse

/-- Name the packet on the error. -/
def ReplayRecordHead.stamp (head : ReplayRecordHead) (protocol : Int) (reader : McReader) :
    McReader :=
  { reader with error := reader.error.map fun error =>
      { error with
        protocol := protocol
        state := head.state.toNat
        direction := head.direction.toNat
        packetId := head.packetId } }

def mcReplayReaderNext (catalog : McPacketCatalog) (replay : McReplayReader) :
    Option McReplayRecord × McReplayReader :=
  if replay.recordCount ≤ replay.recordIndex ∨ replay.reader.failed = true then
    (none,
      if replay.recordIndex < replay.recordCount then
        { replay with reader := replay.reader.fail .invalidArgument replay.reader.offset }
      else replay)
  else
    match readReplayRecordHead.run replay.reader with
    | (none, reader) => (none, { replay with reader := reader })
    | (some head, reader) =>
        match (readReplayRecordBody catalog replay.protocol head).run reader with
        | (none, reader) =>
            (none, { replay with reader :=
              (head.stamp replay.protocol reader).fail .invalidPacketBody reader.offset })
        | (some record, reader) =>
            (some record, { replay with
              reader := head.stamp replay.protocol reader
              recordIndex := replay.recordIndex + 1 })

def mcReplayReaderFinish (replay : McReplayReader) : Option Unit × McReplayReader :=
  if replay.recordIndex ≠ replay.recordCount then
    (none, { replay with reader := replay.reader.fail .partialInput replay.reader.offset })
  else
    let (result, reader) := mcReaderFinish replay.reader
    (result, { replay with reader := reader })

/-- `left` calls of `mc_replay_reader_next` that all return a record. -/
def replayRecords (catalog : McPacketCatalog) :
    Nat → McReplayReader → Option (List McReplayRecord × McReplayReader)
  | 0, replay => some ([], replay)
  | left + 1, replay =>
      match mcReplayReaderNext catalog replay with
      | (none, _) => none
      | (some record, replay) =>
          (replayRecords catalog left replay).map fun (records, replay) =>
            (record :: records, replay)

/-- A whole trace: `init`, `next` for each record it announces, and `finish`. -/
def replayTrace (catalog : McPacketCatalog) (data : Buffer) (error : Option McError) :
    Option (Int × List McReplayRecord) :=
  match (mcReplayReaderInit data error).1 with
  | none => none
  | some replay =>
      match replayRecords catalog replay.recordCount replay with
      | none => none
      | some (records, last) =>
          match (mcReplayReaderFinish last).1 with
          | none => none
          | some () => some (replay.protocol, records)

def encodeReplayHeader (protocol : Int) (count : Nat) : List UInt8 :=
  mcReplayMagic ++ BigEndian.bytes 2 mcReplayFormatVersion ++ BigEndian.bytes 2 0 ++
    BigEndian.bytes 4 (toUnsigned 32 protocol) ++ BigEndian.bytes 4 count

def McReplayRecord.encode (record : McReplayRecord) : List UInt8 :=
  [record.direction.code] ++ [record.state.code] ++ BigEndian.bytes 8 record.deltaTimeNs.toNat ++
    BigEndian.bytes 4 (toUnsigned 32 record.packetId) ++
    BigEndian.bytes 4 record.payload.length ++ record.payload

def encodeReplayTrace (protocol : Int) (records : List McReplayRecord) : List UInt8 :=
  encodeReplayHeader protocol records.length ++ (records.map McReplayRecord.encode).flatten

/-- A record of a packet the catalog knows. -/
structure McReplayRecord.Known (catalog : McPacketCatalog) (protocol : Int)
    (record : McReplayRecord) : Prop where
  state : record.state ≠ .disconnected
  named : (catalog.mcPacketName protocol record.state record.direction record.packetId).isSome
  packetId : IsInt32 record.packetId
  payload : record.payload.length ≤ mcDefaultMaxFrameSize

section Format

variable {mode : McDecodeMode} {catalog : McPacketCatalog} {protocol : Int}

theorem McPacketDirection.ofCode_iff {code : UInt8} {direction : McPacketDirection} :
    ofCode code = some direction ↔ direction.code = code := by
  unfold ofCode
  constructor
  · intro cast
    split_ifs at cast with first second
    · cases cast; exact first.symm
    · cases cast; exact second.symm
  · rintro rfl
    cases direction with
    | serverbound => rfl
    | clientbound => rfl

theorem McState.ofCode_iff {code : UInt8} {state : McState} :
    ofCode code = some state ↔ state ≠ .disconnected ∧ state.code = code := by
  unfold ofCode
  constructor
  · intro cast
    split_ifs at cast with first second third fourth
    · cases cast; exact ⟨by decide, first.symm⟩
    · cases cast; exact ⟨by decide, second.symm⟩
    · cases cast; exact ⟨by decide, third.symm⟩
    · cases cast; exact ⟨by decide, fourth.symm⟩
  · rintro ⟨connected, rfl⟩
    cases state with
    | disconnected => exact absurd rfl connected
    | login => rfl
    | configuration => rfl
    | play => rfl
    | status => rfl

theorem accepts_replayHeader :
    Accepts mode readReplayHeader.run fun header bytes =>
      header.version < 2 ^ 16 ∧ header.flags < 2 ^ 16 ∧ IsInt32 header.protocol ∧
        header.count < 2 ^ 32 ∧
        bytes = mcReplayMagic ++ BigEndian.bytes 2 header.version ++
          BigEndian.bytes 2 header.flags ++ BigEndian.bytes 4 (toUnsigned 32 header.protocol) ++
          BigEndian.bytes 4 header.count := by
  refine Accepts.congr ((accepts_bytes 4).bind fun _ => accepts_require.bind fun _ =>
    accepts_u16.bind fun _ => accepts_u16.bind fun _ => accepts_u32.bind fun _ =>
      accepts_u32.bind fun _ => .pure _) fun header bytes => ⟨?_, ?_⟩
  · rintro ⟨_, _, _, rfl, ⟨-, rfl⟩, _, _, _, rfl, ⟨rfl, rfl⟩, version, _, _, rfl, ⟨short, rfl⟩,
      flags, _, _, rfl, ⟨narrow, rfl⟩, bits, _, _, rfl, ⟨word, rfl⟩, count, _, _, rfl,
      ⟨small, rfl⟩, rfl, rfl⟩
    refine ⟨short, narrow, isInt32_toSigned word, small, ?_⟩
    simp only [toUnsigned_toSigned_32 word, List.append_assoc, List.nil_append, List.append_nil]
  · rintro ⟨short, narrow, int, small, rfl⟩
    refine ⟨mcReplayMagic, _, _, ?_, ⟨rfl, rfl⟩, (), [], _, rfl, ⟨rfl, rfl⟩, header.version, _, _,
      rfl, ⟨short, rfl⟩, header.flags, _, _, rfl, ⟨narrow, rfl⟩, toUnsigned 32 header.protocol, _,
      _, rfl, ⟨toUnsigned_lt 32 _, rfl⟩, header.count, _, _, rfl, ⟨small, rfl⟩, ?_, rfl⟩
    · simp only [List.append_assoc, List.nil_append, List.append_nil]
    · rw [toSigned_toUnsigned_32 int]

theorem accepts_replayRecordHead :
    Accepts mode readReplayRecordHead.run fun head bytes =>
      head.deltaTimeNs < 2 ^ 64 ∧ IsInt32 head.packetId ∧ head.payloadSize < 2 ^ 32 ∧
        bytes = [head.direction] ++ [head.state] ++ BigEndian.bytes 8 head.deltaTimeNs ++
          BigEndian.bytes 4 (toUnsigned 32 head.packetId) ++
          BigEndian.bytes 4 head.payloadSize := by
  refine Accepts.congr (accepts_u8.bind fun _ => accepts_u8.bind fun _ => accepts_u64.bind fun _ =>
    accepts_u32.bind fun _ => accepts_u32.bind fun _ => .pure _) fun head bytes => ⟨?_, ?_⟩
  · rintro ⟨direction, _, _, rfl, rfl, state, _, _, rfl, rfl, delta, _, _, rfl, ⟨long, rfl⟩, bits,
      _, _, rfl, ⟨word, rfl⟩, size, _, _, rfl, ⟨small, rfl⟩, rfl, rfl⟩
    refine ⟨long, isInt32_toSigned word, small, ?_⟩
    simp only [toUnsigned_toSigned_32 word, List.append_assoc, List.append_nil]
  · rintro ⟨long, int, small, rfl⟩
    refine ⟨head.direction, _, _, ?_, rfl, head.state, _, _, rfl, rfl, head.deltaTimeNs, _, _, rfl,
      ⟨long, rfl⟩, toUnsigned 32 head.packetId, _, _, rfl, ⟨toUnsigned_lt 32 _, rfl⟩,
      head.payloadSize, _, _, rfl, ⟨small, rfl⟩, ?_, rfl⟩
    · simp only [List.append_assoc, List.append_nil]
    · rw [toSigned_toUnsigned_32 int]

theorem accepts_replayRecordBody (head : ReplayRecordHead) :
    Accepts mode (readReplayRecordBody catalog protocol head).run fun record bytes =>
      record.state ≠ .disconnected ∧ record.direction.code = head.direction ∧
        record.state.code = head.state ∧ record.deltaTimeNs = .ofNat head.deltaTimeNs ∧
        record.packetId = head.packetId ∧ record.payload.length = head.payloadSize ∧
        (catalog.mcPacketName protocol record.state record.direction record.packetId).isSome ∧
        record.payload.length ≤ mcDefaultMaxFrameSize ∧ bytes = record.payload := by
  unfold readReplayRecordBody
  cases foundDirection : McPacketDirection.ofCode head.direction with
  | none =>
      refine Accepts.congr (.refused fun _ => rfl) fun record bytes => ⟨False.elim, ?_⟩
      rintro ⟨-, direction, -⟩
      rw [McPacketDirection.ofCode_iff.mpr direction] at foundDirection
      cases foundDirection
  | some direction =>
      cases foundState : McState.ofCode head.state with
      | none =>
          refine Accepts.congr (.refused fun _ => rfl) fun record bytes => ⟨False.elim, ?_⟩
          rintro ⟨connected, -, state, -⟩
          rw [McState.ofCode_iff.mpr ⟨connected, state⟩] at foundState
          cases foundState
      | some state =>
          have directionIs := McPacketDirection.ofCode_iff.mp foundDirection
          obtain ⟨connected, stateIs⟩ := McState.ofCode_iff.mp foundState
          refine Accepts.congr (accepts_require.bind fun _ => accepts_require.bind fun _ =>
            (accepts_bytes _).bind fun _ => .pure _) fun record bytes => ⟨?_, ?_⟩
          · rintro ⟨_, _, _, rfl, ⟨fits, rfl⟩, _, _, _, rfl, ⟨named, rfl⟩, payload, _, _, rfl,
              ⟨length, rfl⟩, rfl, rfl⟩
            exact ⟨connected, directionIs, stateIs, rfl, rfl, length, named,
              length ▸ fits, by simp⟩
          · obtain ⟨recordDirection, recordState, delta, packetId, payload⟩ := record
            rintro ⟨known, sameDirection, sameState, rfl, rfl, length, named, fits, rfl⟩
            obtain rfl : recordDirection = direction := by
              have cast := McPacketDirection.ofCode_iff.mpr sameDirection
              rw [foundDirection] at cast
              exact (Option.some.inj cast).symm
            obtain rfl : recordState = state := by
              have cast := McState.ofCode_iff.mpr ⟨known, sameState⟩
              rw [foundState] at cast
              exact (Option.some.inj cast).symm
            refine ⟨(), [], _, rfl, ⟨length ▸ fits, rfl⟩, (), [], _, rfl, ⟨named, rfl⟩, _, _, _, ?_,
              ⟨length, rfl⟩, rfl, rfl⟩
            simp

/-- A record and nothing else is read as a record. -/
theorem accepts_replayRecord :
    Accepts mode (readReplayRecordHead >>= readReplayRecordBody catalog protocol).run
      fun record bytes => record.Known catalog protocol ∧ bytes = record.encode := by
  refine Accepts.congr (accepts_replayRecordHead.bind accepts_replayRecordBody)
    fun record bytes => ⟨?_, ?_⟩
  · rintro ⟨head, _, _, rfl, ⟨long, int, small, rfl⟩, connected, direction, state, delta, packetId,
      length, named, fits, rfl⟩
    refine ⟨⟨connected, named, packetId ▸ int, fits⟩, ?_⟩
    have whole : record.deltaTimeNs.toNat = head.deltaTimeNs := by
      rw [delta]
      exact UInt64.toNat_ofNat_of_lt' long
    rw [McReplayRecord.encode, direction, state, whole, packetId, length]
  · rintro ⟨known, rfl⟩
    have small : record.payload.length < 2 ^ 32 := by
      have fits := known.payload
      simp only [mcDefaultMaxFrameSize] at fits
      omega
    exact ⟨⟨record.direction.code, record.state.code, record.deltaTimeNs.toNat, record.packetId,
      record.payload.length⟩, _, record.payload, rfl,
      ⟨record.deltaTimeNs.toNat_lt, known.packetId, small, rfl⟩, known.state, rfl, rfl, by simp,
      rfl, rfl, known.named, known.payload, rfl⟩

end Format

/-- The replay reader has read `index` of `count` records and has `data` in front of it. -/
structure McReplayReader.Stands (replay : McReplayReader) (protocol : Int) (count index : Nat)
    (data : List UInt8) : Prop where
  before : replay.reader.Before data
  strict : replay.reader.mode = .strict
  protocol_eq : replay.protocol = protocol
  count_eq : replay.recordCount = count
  index_eq : replay.recordIndex = index

section Reading

variable {catalog : McPacketCatalog} {protocol : Int} {count index : Nat} {data rest : List UInt8}
variable {replay after : McReplayReader} {record : McReplayRecord} {error : Option McError}

theorem mcReplayReaderInit_complete (supported : mcProtocolSupported protocol = true)
    (bounded : count ≤ mcMaxPacketArrayCount) :
    ∃ start, (mcReplayReaderInit (.bytes (encodeReplayHeader protocol count ++ rest)) error).1 =
      some start ∧ start.Stands protocol count 0 rest := by
  have small : count < 2 ^ 32 := by
    simp only [mcMaxPacketArrayCount] at bounded
    omega
  let header : ReplayHeader := ⟨mcReplayFormatVersion, 0, protocol, count⟩
  have before := mcReaderInitMode_before (encodeReplayHeader protocol count ++ rest) .strict
    (error.map fun _ => mcErrorClear)
  have run := accepts_replayHeader.complete (a := header)
    ⟨(by decide : 1 < 2 ^ 16), (by decide : 0 < 2 ^ 16), mcProtocolSupported_int32 supported, small,
      rfl⟩ _ rest rfl before
  have good : ¬ header.Refused := by
    rintro (version | flags | unsupported | many)
    · exact version rfl
    · exact flags rfl
    · exact absurd (supported.symm.trans unsupported) (by decide)
    · exact absurd bounded (not_le.mpr many)
  unfold mcReplayReaderInit
  rw [if_neg (show ¬ (Buffer.bytes _).Missing from id)]
  simp only [Buffer.content]
  rw [run]
  dsimp only
  rw [if_neg good]
  have behind := before.advance
  exact ⟨_, rfl, ⟨behind.clean, behind.inside, behind.drop_eq⟩, rfl, rfl, rfl, rfl⟩

theorem mcReplayReaderInit_sound {data : Buffer}
    (opened : (mcReplayReaderInit data error).1 = some replay) :
    ∃ rest, mcProtocolSupported replay.protocol = true ∧
      replay.recordCount ≤ mcMaxPacketArrayCount ∧
      data.content = encodeReplayHeader replay.protocol replay.recordCount ++ rest ∧
      replay.Stands replay.protocol replay.recordCount 0 rest := by
  have before := mcReaderInitMode_before data.content .strict (error.map fun _ => mcErrorClear)
  unfold mcReplayReaderInit at opened
  dsimp only at opened
  split_ifs at opened with missing
  rcases run : readReplayHeader.run (mcReaderInitMode data.content .strict
    (error.map fun _ => mcErrorClear)) with ⟨_ | header, reader⟩
  · rw [run] at opened
    cases opened
  · rw [run] at opened
    dsimp only at opened
    split_ifs at opened with refused
    cases opened
    obtain ⟨bytes, rest, split, ⟨-, -, int, small, shape⟩, rfl⟩ :=
      accepts_replayHeader.sound rfl before run
    simp only [ReplayHeader.Refused, not_or, not_not, not_lt, Bool.not_eq_false] at refused
    obtain ⟨version, flags, supported, bounded⟩ := refused
    have ahead : (mcReaderInitMode data.content .strict (error.map fun _ => mcErrorClear)).Before
        (bytes ++ rest) := by
      rw [← split]
      exact before
    have behind := ahead.advance
    refine ⟨rest, supported, bounded, ?_, ⟨behind.clean, behind.inside, behind.drop_eq⟩, rfl, rfl,
      rfl, rfl⟩
    rw [split, shape, version, flags, encodeReplayHeader]

/-- One call of `mc_replay_reader_next` reads one record. -/
theorem mcReplayReaderNext_complete
    (stands : replay.Stands protocol count index (record.encode ++ rest)) (more : index < count)
    (known : record.Known catalog protocol) :
    ∃ after, mcReplayReaderNext catalog replay = (some record, after) ∧
      after.Stands protocol count (index + 1) rest := by
  obtain ⟨before, strict, protocolIs, countIs, indexIs⟩ := stands
  subst protocolIs countIs indexIs
  have run := accepts_replayRecord.complete ⟨known, rfl⟩ replay.reader rest strict before
  obtain ⟨head, reader, headRun, bodyRun⟩ := Prog.bind_eq_some run
  unfold mcReplayReaderNext
  rw [if_neg (by rw [before.clean]; simpa using more), headRun]
  dsimp only
  rw [bodyRun]
  have behind := before.advance
  exact ⟨_, rfl, ⟨behind.clean, behind.inside, behind.drop_eq⟩, strict, rfl, rfl, rfl⟩

theorem mcReplayReaderNext_sound (stands : replay.Stands protocol count index data)
    (read : mcReplayReaderNext catalog replay = (some record, after)) :
    ∃ rest, data = record.encode ++ rest ∧ record.Known catalog protocol ∧
      after.Stands protocol count (index + 1) rest := by
  obtain ⟨before, strict, protocolIs, countIs, indexIs⟩ := stands
  subst protocolIs countIs indexIs
  unfold mcReplayReaderNext at read
  split_ifs at read with stopped
  · cases read
  · cases read
  rcases headRun : readReplayRecordHead.run replay.reader with ⟨_ | head, middle⟩
  · rw [headRun] at read
    cases read
  rw [headRun] at read
  dsimp only at read
  rcases bodyRun : (readReplayRecordBody catalog replay.protocol head).run middle
    with ⟨_ | found, reader⟩
  · rw [bodyRun] at read
    cases read
  rw [bodyRun] at read
  cases read
  have run : (readReplayRecordHead >>= readReplayRecordBody catalog replay.protocol).run
      replay.reader = (some record, reader) := (Prog.bind_some headRun).trans bodyRun
  obtain ⟨bytes, rest, rfl, ⟨known, rfl⟩, rfl⟩ := accepts_replayRecord.sound strict before run
  have behind := before.advance
  exact ⟨rest, rfl, known, ⟨behind.clean, behind.inside, behind.drop_eq⟩, strict, rfl, rfl, rfl⟩

theorem replayRecords_complete {records : List McReplayRecord}
    (stands : replay.Stands protocol count index ((records.map McReplayRecord.encode).flatten ++ rest))
    (room : index + records.length ≤ count)
    (known : ∀ record ∈ records, record.Known catalog protocol) :
    ∃ after, replayRecords catalog records.length replay = some (records, after) ∧
      after.Stands protocol count (index + records.length) rest := by
  induction records generalizing replay index with
  | nil => exact ⟨replay, rfl, stands⟩
  | cons record records ih =>
      obtain ⟨first, others⟩ := List.forall_mem_cons.mp known
      rw [List.map_cons, List.flatten_cons, List.append_assoc] at stands
      rw [List.length_cons] at room
      obtain ⟨middle, read, moved⟩ := mcReplayReaderNext_complete stands (by omega) first
      obtain ⟨after, looped, ended⟩ := ih moved (by omega) others
      refine ⟨after, ?_, ?_⟩
      · rw [List.length_cons, replayRecords, read]
        dsimp only
        rw [looped]
        rfl
      · rw [List.length_cons, Nat.add_comm records.length, ← Nat.add_assoc]
        exact ended

theorem replayRecords_sound {left : Nat} {records : List McReplayRecord}
    (stands : replay.Stands protocol count index data)
    (looped : replayRecords catalog left replay = some (records, after)) :
    ∃ rest, data = (records.map McReplayRecord.encode).flatten ++ rest ∧
      records.length = left ∧ (∀ record ∈ records, record.Known catalog protocol) ∧
      after.Stands protocol count (index + left) rest := by
  induction left generalizing replay index data records with
  | zero =>
      cases looped
      exact ⟨data, rfl, rfl, by simp, stands⟩
  | succ left ih =>
      rw [replayRecords] at looped
      rcases read : mcReplayReaderNext catalog replay with ⟨_ | record, middle⟩
      · rw [read] at looped
        cases looped
      rw [read] at looped
      dsimp only at looped
      cases rest : replayRecords catalog left middle with
      | none =>
          rw [rest] at looped
          cases looped
      | some result =>
          obtain ⟨others, last⟩ := result
          rw [rest] at looped
          cases looped
          obtain ⟨behind, rfl, first, moved⟩ := mcReplayReaderNext_sound stands read
          obtain ⟨final, rfl, length, known, ended⟩ := ih moved rest
          refine ⟨final, ?_, ?_, ?_, ?_⟩
          · rw [List.map_cons, List.flatten_cons, List.append_assoc]
          · rw [List.length_cons, length]
          · exact List.forall_mem_cons.mpr ⟨first, known⟩
          · rw [Nat.add_comm left, ← Nat.add_assoc]
            exact ended

/-- At the end of the records, finishing looks for the end of the input. -/
theorem mcReplayReaderFinish_iff (stands : replay.Stands protocol count count rest) :
    (mcReplayReaderFinish replay).1 = some () ↔ rest = [] := by
  have ended : ¬ replay.recordIndex ≠ replay.recordCount := by
    rw [stands.index_eq, stands.count_eq]
    exact fun differs => differs rfl
  have size := stands.before.size_eq
  unfold mcReplayReaderFinish mcReaderFinish
  rw [if_neg ended, stands.before.clean]
  dsimp only
  rw [if_neg Bool.false_ne_true]
  split_ifs with more
  · constructor
    · nofun
    · rintro rfl
      exact absurd (by simpa using size.symm) more
  · refine ⟨fun _ => ?_, fun _ => rfl⟩
    exact List.length_eq_zero_iff.mp (by omega)

theorem replayTrace_encode {records : List McReplayRecord} (catalog : McPacketCatalog)
    (supported : mcProtocolSupported protocol = true)
    (bounded : records.length ≤ mcMaxPacketArrayCount)
    (known : ∀ record ∈ records, record.Known catalog protocol) (rest : List UInt8)
    (error : Option McError) :
    replayTrace catalog (.bytes (encodeReplayTrace protocol records ++ rest)) error =
      if rest = [] then some (protocol, records) else none := by
  obtain ⟨start, opened, stands⟩ := @mcReplayReaderInit_complete protocol records.length
    ((records.map McReplayRecord.encode).flatten ++ rest) error supported bounded
  obtain ⟨last, looped, ended⟩ := replayRecords_complete stands (Nat.zero_add _).le known
  rw [Nat.zero_add] at ended
  have finish := mcReplayReaderFinish_iff ended
  unfold replayTrace
  rw [encodeReplayTrace, List.append_assoc, opened]
  dsimp only
  rw [stands.count_eq, looped]
  dsimp only
  split_ifs with nothing
  · rw [finish.mpr nothing, stands.protocol_eq]
  · cases result : (mcReplayReaderFinish last).1 with
    | none => rfl
    | some u => exact absurd (finish.mp result) nothing

theorem replayTrace_sound {data : Buffer} {records : List McReplayRecord}
    (replayed : replayTrace catalog data error = some (protocol, records)) :
    data.content = encodeReplayTrace protocol records ∧ mcProtocolSupported protocol = true ∧
      records.length ≤ mcMaxPacketArrayCount ∧
      ∀ record ∈ records, record.Known catalog protocol := by
  unfold replayTrace at replayed
  cases opened : (mcReplayReaderInit data error).1 with
  | none =>
      rw [opened] at replayed
      cases replayed
  | some start =>
      rw [opened] at replayed
      dsimp only at replayed
      obtain ⟨behind, supported, bounded, content, stands⟩ := mcReplayReaderInit_sound opened
      cases looped : replayRecords catalog start.recordCount start with
      | none =>
          rw [looped] at replayed
          cases replayed
      | some result =>
          obtain ⟨found, last⟩ := result
          rw [looped] at replayed
          dsimp only at replayed
          obtain ⟨rest, split, length, known, ended⟩ := replayRecords_sound stands looped
          rw [Nat.zero_add] at ended
          cases finished : (mcReplayReaderFinish last).1 with
          | none =>
              rw [finished] at replayed
              cases replayed
          | some u =>
              rw [finished] at replayed
              cases replayed
              have nothing := (mcReplayReaderFinish_iff ended).mp finished
              refine ⟨?_, supported, length ▸ bounded, known⟩
              rw [content, split, nothing, List.append_nil, encodeReplayTrace, length]

end Reading

/-- Traces and lists of records that are known to the catalog are in bijection, and of two
traces neither is the beginning of the other. -/
theorem replay_traces_bijective (catalog : McPacketCatalog) :
    (∀ protocol records error, mcProtocolSupported protocol = true →
      records.length ≤ mcMaxPacketArrayCount →
      (∀ record ∈ records, record.Known catalog protocol) →
        replayTrace catalog (.bytes (encodeReplayTrace protocol records)) error =
          some (protocol, records)) ∧
    (∀ data error protocol records,
      replayTrace catalog data error = some (protocol, records) →
        data.content = encodeReplayTrace protocol records ∧
          mcProtocolSupported protocol = true ∧ records.length ≤ mcMaxPacketArrayCount ∧
          ∀ record ∈ records, record.Known catalog protocol) ∧
    ∀ trace suffix error other, suffix ≠ [] →
      ¬ ((replayTrace catalog (.bytes trace) error).isSome ∧
        (replayTrace catalog (.bytes (trace ++ suffix)) other).isSome) := by
  refine ⟨?_, fun _ _ _ _ => replayTrace_sound, ?_⟩
  · intro protocol records error supported bounded known
    have replayed := replayTrace_encode catalog supported bounded known [] error
    rwa [List.append_nil, if_pos rfl] at replayed
  · rintro trace suffix error other more ⟨accepted, longer⟩
    obtain ⟨⟨protocol, records⟩, replayed⟩ := Option.isSome_iff_exists.mp accepted
    obtain ⟨content, supported, bounded, known⟩ := replayTrace_sound replayed
    obtain rfl : trace = encodeReplayTrace protocol records := content
    rw [replayTrace_encode catalog supported bounded known suffix other, if_neg more] at longer
    cases longer

/-- A trace of a packet and its answer. -/
theorem replay_traces_bijective_two :
    let catalog : McPacketCatalog := ⟨fun _ _ _ => ["keep_alive", "pong"]⟩
    let records : List McReplayRecord :=
      [⟨.clientbound, .play, 50000000, 0, [1, 2]⟩, ⟨.serverbound, .play, 50000007, 1, [3]⟩]
    let trace := encodeReplayTrace 776 records
    trace.length = 55 ∧ replayTrace catalog (.bytes trace) none = some (776, records) ∧
      ¬ (replayTrace catalog (.bytes (trace ++ [0])) none).isSome := by
  intro catalog records trace
  have known : ∀ record ∈ records, record.Known catalog 776 := by
    rw [List.forall_mem_cons, List.forall_mem_singleton]
    exact ⟨⟨by decide, by decide, by decide, by decide⟩, by decide, by decide, by decide, by decide⟩
  have replayed := (replay_traces_bijective catalog).1 776 records none (by decide) (by decide)
    known
  have alone := (replay_traces_bijective catalog).2.2 trace [0] none none (by decide)
  exact ⟨by decide, replayed, fun longer => alone ⟨by rw [replayed]; rfl, longer⟩⟩

end McProtocol
