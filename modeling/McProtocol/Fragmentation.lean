import McProtocol.Stream
import McProtocol.Lib.Incremental

/-! # Fragmentation independence

What a frame decodes to does not depend on the feeds that brought it in. The pure
meaning of a frame makes an incremental scanner; the stream decoder, as long as it
is not refused memory, steps as the buffering session over that scanner does.
-/

namespace McProtocol

open Incremental

/-- A decoded packet, out of its arena. -/
structure StreamPacket where
  packetId : Int
  payload : List UInt8
  compressed : Bool
  deriving Repr, DecidableEq

/-- An error and its offset from where the decoding began. -/
abbrev StreamError := McErrorCode × Nat

def packetMeaning (mode : McDecodeMode) (packet : List UInt8) (compressed : Bool) :
    Except StreamError StreamPacket :=
  if packet.length = 0 then .error (.invalidPacketBody, 0)
  else
    match streamVarint packet mode with
    | .partialInput => .error (.invalidPacketBody, 0)
    | .invalid code offset => .error (code, offset)
    | .complete packetId idSize =>
        if packetId < 0 then .error (.invalidPacketBody, 0)
        else .ok ⟨packetId, packet.drop idSize, compressed⟩

/-- The packet of a compressed body, and whether zlib could give it. -/
def inflatedMeaning (zlib : Zlib) (mode : McDecodeMode) (compressed : List UInt8)
    (declaredSize : Nat) : Except StreamError StreamPacket :=
  match zlib.inflateOnce compressed declaredSize with
  | none => .error (.zlib, 0)
  | some step =>
      if step.status ≠ .streamEnd ∨ step.output.length ≠ declaredSize ∨
          mode = .strict ∧ step.rest.length ≠ 0 then .error (.zlib, 0)
      else packetMeaning mode step.output true

/-- Shift the offset of an error. -/
def behind {α : Type} (size : Nat) : Except StreamError α → Except StreamError α
  | .ok value => .ok value
  | .error (code, offset) => .error (code, size + offset)

def frameMeaning (zlib : Zlib) (config : McStreamDecoderConfig) (threshold : Int)
    (frame : List UInt8) : Except StreamError StreamPacket :=
  if threshold < 0 then packetMeaning config.mode frame false
  else
    match streamVarint frame config.mode with
    | .partialInput => .error (.compressionHeader, 0)
    | .invalid code offset => .error (code, offset)
    | .complete declared headerSize =>
        let body := frame.drop headerSize
        if declared < 0 then .error (.compressionHeader, 0)
        else if declared = 0 then
          if config.mode = .strict ∧ threshold ≤ body.length then .error (.compressionThreshold, 0)
          else behind headerSize (packetMeaning config.mode body false)
        else if config.maxDecompressedSize < declared.toNat then
          .error (.decompressedTooLarge, 0)
        else if config.mode = .strict ∧ declared < threshold then .error (.compressionThreshold, 0)
        else behind headerSize (inflatedMeaning zlib config.mode body declared.toNat)

def frameVerdict (zlib : Zlib) (config : McStreamDecoderConfig) (threshold : Int)
    (data : List UInt8) : Verdict StreamPacket StreamError :=
  match streamVarint data config.mode with
  | .partialInput => .needMore
  | .invalid code offset => .reject (code, offset)
  | .complete encodedSize headerSize =>
      if encodedSize ≤ 0 then .reject (.invalidLength, 0)
      else if config.maxFrameSize < encodedSize.toNat then .reject (.frameTooLarge, 0)
      else if data.length - headerSize < encodedSize.toNat then .needMore
      else
        match frameMeaning zlib config threshold
            ((data.drop headerSize).take encodedSize.toNat) with
        | .ok packet => .emit packet (headerSize + encodedSize.toNat)
        | .error (code, offset) => .reject (code, headerSize + offset)

theorem streamGroups_append {mode : McDecodeMode} {left result : Nat} {data : List UInt8}
    (decided : streamGroups mode left result data ≠ .partialInput) (more : List UInt8) :
    streamGroups mode left result (data ++ more) = streamGroups mode left result data := by
  induction left generalizing result data with
  | zero => rfl
  | succ left ih =>
      cases data with
      | nil => exact absurd rfl decided
      | cons byte data =>
          rw [List.cons_append]
          simp only [streamGroups] at decided ⊢
          split_ifs at decided ⊢ with masked stops refused
          · rfl
          · rfl
          · rfl
          · exact ih decided

theorem streamVarint_append {mode : McDecodeMode} {data : List UInt8}
    (decided : streamVarint data mode ≠ .partialInput) (more : List UInt8) :
    streamVarint (data ++ more) mode = streamVarint data mode :=
  streamGroups_append decided more

theorem streamGroups_size {mode : McDecodeMode} {left result size : Nat} {value : Int}
    {data : List UInt8} (inside : left ≤ 5)
    (complete : streamGroups mode left result data = .complete value size) :
    5 - left < size ∧ size ≤ 5 - left + data.length := by
  induction left generalizing result data with
  | zero => cases complete
  | succ left ih =>
      cases data with
      | nil => cases complete
      | cons byte data =>
          simp only [streamGroups] at complete
          rw [List.length_cons]
          split_ifs at complete with masked stops refused
          · obtain ⟨-, rfl⟩ := McVarIntStatus.complete.inj complete
            omega
          · have rest := ih (by omega) complete
            omega

theorem streamVarint_size {mode : McDecodeMode} {size : Nat} {value : Int} {data : List UInt8}
    (complete : streamVarint data mode = .complete value size) :
    0 < size ∧ size ≤ data.length := by
  have bounds := streamGroups_size (Nat.le_refl 5) complete
  omega

theorem frameVerdict_append {zlib : Zlib} {config : McStreamDecoderConfig} {threshold : Int}
    {data : List UInt8} (decided : frameVerdict zlib config threshold data ≠ .needMore)
    (more : List UInt8) :
    frameVerdict zlib config threshold (data ++ more) =
      frameVerdict zlib config threshold data := by
  have header : streamVarint data config.mode ≠ .partialInput := by
    intro short
    rw [frameVerdict, short] at decided
    exact decided rfl
  have same := streamVarint_append header more
  simp only [frameVerdict, same] at decided ⊢
  cases whole : streamVarint data config.mode with
  | partialInput => exact absurd whole header
  | invalid code offset => rfl
  | complete encodedSize headerSize =>
      have bounds := streamVarint_size whole
      simp only [whole] at decided ⊢
      by_cases negative : encodedSize ≤ 0
      · rw [if_pos negative, if_pos negative]
      · rw [if_neg negative] at decided ⊢
        rw [if_neg negative]
        by_cases large : config.maxFrameSize < encodedSize.toNat
        · rw [if_pos large, if_pos large]
        · rw [if_neg large] at decided ⊢
          rw [if_neg large]
          have enough : ¬ data.length - headerSize < encodedSize.toNat := by
            intro short
            rw [if_pos short] at decided
            exact decided rfl
          have longer : ¬ (data ++ more).length - headerSize < encodedSize.toNat := by
            rw [List.length_append]
            omega
          rw [if_neg enough, if_neg longer, List.drop_append_of_le_length bounds.2,
            List.take_append_of_le_length]
          rw [List.length_drop]
          omega

/-- The frames of a stream, found one by one. -/
def frameScanner (zlib : Zlib) (config : McStreamDecoderConfig) (threshold : Int) :
    Scanner UInt8 StreamPacket StreamError where
  step := frameVerdict zlib config threshold
  step_nil := rfl
  emit_size := by
    intro data packet size emitted
    rw [frameVerdict] at emitted
    cases header : streamVarint data config.mode with
    | partialInput => rw [header] at emitted; cases emitted
    | invalid code offset => rw [header] at emitted; cases emitted
    | complete encodedSize headerSize =>
        have bounds := streamVarint_size header
        simp only [header] at emitted
        split_ifs at emitted with negative large short
        cases meaning : frameMeaning zlib config threshold
            ((data.drop headerSize).take encodedSize.toNat) with
        | error e => rw [meaning] at emitted; cases emitted
        | ok packet =>
            rw [meaning] at emitted
            obtain ⟨-, rfl⟩ := Verdict.emit.inj emitted
            omega
  emit_stable more emitted := by
    rw [frameVerdict_append (by rw [emitted]; simp) more, emitted]
  reject_stable more rejected := by
    rw [frameVerdict_append (by rw [rejected]; simp) more, rejected]

theorem saturatingAdd_le {left : Nat} (small : left ≤ sizeMax) (right : Nat) :
    saturatingAdd left right ≤ sizeMax := by
  simp only [saturatingAdd]
  split <;> omega

theorem saturatingAdd_zero (left : Nat) : saturatingAdd left 0 = left := by
  simp only [saturatingAdd]
  split <;> omega

theorem saturatingAdd_assoc (left first second : Nat) :
    saturatingAdd (saturatingAdd left first) second = saturatingAdd left (first + second) := by
  simp only [saturatingAdd]
  split_ifs <;> omega

theorem growLoop_ge (maximum needed grown : Nat) : needed ≤ growLoop maximum needed grown := by
  induction grown using growLoop.induct maximum needed with
  | case1 grown below next stuck =>
      unfold growLoop
      rw [if_pos below]
      exact (if_pos stuck).ge
  | case2 grown below next moves ih =>
      unfold growLoop
      rw [if_pos below]
      exact ih.trans (if_neg moves).ge
  | case3 grown enough =>
      unfold growLoop
      rw [if_neg enough]
      omega

theorem McStreamDecoderConfig.limits {config : McStreamDecoderConfig}
    (accepted : ¬ config.Refused) :
    config.maxFrameSize ≤ uintMax ∧ config.maxDecompressedSize ≤ uintMax := by
  simp only [McStreamDecoderConfig.Refused, not_or, int32Max] at accepted
  simp only [uintMax]
  omega

theorem growLoop_le {maximum needed grown : Nat} (inside : grown ≤ maximum)
    (possible : needed ≤ maximum) : growLoop maximum needed grown ≤ maximum := by
  induction grown using growLoop.induct maximum needed with
  | case1 grown below next stuck =>
      unfold growLoop
      rw [if_pos below]
      exact (if_pos stuck).le.trans possible
  | case2 grown below next moves ih =>
      have smaller : next ≤ maximum := by
        simp only [next]
        split_ifs <;> omega
      unfold growLoop
      rw [if_pos below]
      exact (if_neg moves).le.trans (ih smaller)
  | case3 grown enough =>
      unfold growLoop
      rwa [if_neg enough]

theorem grownCapacity_le {maximum needed : Nat} (possible : needed ≤ maximum) (capacity : Nat) :
    grownCapacity maximum needed capacity ≤ maximum :=
  growLoop_le (Nat.min_le_right _ _) possible

/-- Some allocation of at most `maximum` bytes is refused. -/
def Heap.Refuses (heap : Heap) (maximum : Nat) : Prop :=
  ∃ serial size, size ≤ maximum ∧ heap.grant serial size = false

theorem Heap.ample_grants {maximum : Nat} (small : maximum ≤ ptrdiffMax) :
    ¬ Heap.ample.Refuses maximum := by
  rintro ⟨serial, size, inside, refused⟩
  exact absurd (inside.trans small) (of_decide_eq_false refused)

/-- A decoder that was refused memory, or reached one of its two size limits. -/
def McStreamDecoder.ResourceFailed (decoder : McStreamDecoder) : Prop :=
  decoder.failed = true ∧
    (decoder.lastError.code = .bufferLimit ∨ decoder.lastError.code = .outOfMemory)

instance : DecidablePred McStreamDecoder.ResourceFailed :=
  fun _ => inferInstanceAs (Decidable (_ ∧ _))

/-- What decoding a frame does not touch. -/
structure McStreamDecoder.SameStream (before after : McStreamDecoder) : Prop where
  config : after.config = before.config
  buffer : after.buffer = before.buffer
  streamOffset : after.streamOffset = before.streamOffset
  threshold : after.compressionThreshold = before.compressionThreshold

theorem McStreamDecoder.SameStream.trans {first second third : McStreamDecoder}
    (left : SameStream first second) (right : SameStream second third) :
    SameStream first third :=
  ⟨right.config.trans left.config, right.buffer.trans left.buffer,
    right.streamOffset.trans left.streamOffset, right.threshold.trans left.threshold⟩

namespace Feeding

/-- The packets the frames of this feed show. -/
def packets (feeding : Feeding) : List StreamPacket :=
  feeding.frames.map fun frame =>
    ⟨frame.packetId, feeding.decoder.bytes frame.payload, frame.compressed⟩

/-- Between two frames: nothing failed, the arena is an object of memory, and every
frame lies inside it. -/
structure Sound (feeding : Feeding) : Prop where
  clean : feeding.decoder.failed = false
  capacity : feeding.decoder.output.length ≤ feeding.decoder.outputCapacity
  object : feeding.decoder.outputCapacity ≤ ptrdiffMax
  offset_le : feeding.decoder.streamOffset ≤ sizeMax
  laid : ∀ frame ∈ feeding.frames, frame.payload.arena = feeding.decoder.arena ∧
    frame.payload.offset + frame.payload.size ≤ feeding.decoder.output.length

/-- A step does what the meaning of its input says, with errors counted from `base`,
unless memory ran out. -/
def Realises (step : FeedM Unit) (feeding : Feeding) (base : Nat) :
    Except StreamError StreamPacket → Prop
  | .ok packet => ∃ after, step feeding = (some (), after) ∧ after.Sound ∧
      feeding.decoder.SameStream after.decoder ∧ after.packets = feeding.packets ++ [packet]
  | .error (code, offset) => ∃ after, step feeding = (none, after) ∧
      after.decoder.failed = true ∧
      after.decoder.lastError =
        { mcErrorClear with code := code, offset := saturatingAdd base offset } ∧
      feeding.decoder.SameStream after.decoder ∧ after.packets = feeding.packets

/-- There may be no room for a packet: the arena is full, or the heap refuses. -/
def Starved (heap : Heap) (feeding : Feeding) : Prop :=
  feeding.decoder.config.maxOutputSize < feeding.decoder.output.length +
      max feeding.decoder.config.maxFrameSize feeding.decoder.config.maxDecompressedSize ∨
    heap.Refuses feeding.decoder.config.maxOutputSize

/-- The step was refused memory. -/
def OutOfResources (step : FeedM Unit) (feeding : Feeding) : Prop :=
  ∃ after, step feeding = (none, after) ∧ after.decoder.ResourceFailed

variable {feeding : Feeding} {base : Nat}

theorem fail_run (sound : feeding.Sound) (code : McErrorCode) (offset : Nat) :
    (streamFail code offset : FeedM Unit) feeding =
      (none, { feeding with
        decoder := { feeding.decoder with
          failed := true
          lastError := { mcErrorClear with code := code, offset := offset } } }) := by
  rw [streamFail, McStreamDecoder.fail, sound.clean]
  rfl

theorem realises_fail (sound : feeding.Sound) (code : McErrorCode) (offset : Nat) :
    Realises (streamFail code (saturatingAdd base offset)) feeding base (.error (code, offset)) :=
  ⟨_, fail_run sound code _, rfl, rfl, ⟨rfl, rfl, rfl, rfl⟩, rfl⟩

theorem realises_failHere (sound : feeding.Sound) (code : McErrorCode) :
    Realises (streamFail code base) feeding base (.error (code, 0)) := by
  have fails : Realises (streamFail code (saturatingAdd base 0)) feeding base (.error (code, 0)) :=
    realises_fail sound code 0
  rwa [saturatingAdd_zero] at fails

theorem outOfResources_fail (sound : feeding.Sound) {code : McErrorCode}
    (limit : code = .bufferLimit ∨ code = .outOfMemory) (offset : Nat) :
    OutOfResources (streamFail code offset) feeding :=
  ⟨_, fail_run sound code offset, rfl, limit⟩

/-- Appending to the arena leaves what earlier frames show. -/
theorem bytes_append {decoder : McStreamDecoder} {view : McView} (packet : List UInt8)
    (inside : view.offset + view.size ≤ decoder.output.length) :
    ({ decoder with output := decoder.output ++ packet } : McStreamDecoder).bytes view =
      decoder.bytes view := by
  simp only [McStreamDecoder.bytes]
  by_cases live : view.arena = decoder.arena
  · rw [if_pos live, if_pos live, List.drop_append_of_le_length (by omega),
      List.take_append_of_le_length]
    rw [List.length_drop]
    omega
  · rw [if_neg live, if_neg live]

/-- A packet laid behind what the arena holds. -/
def placed (feeding : Feeding) (packet : List UInt8) (packetId : Int) (idSize : Nat)
    (compressed : Bool) : Feeding where
  decoder := { feeding.decoder with output := feeding.decoder.output ++ packet }
  frames := feeding.frames ++
    [{ packetId := packetId
       payload :=
         { arena := feeding.decoder.arena
           offset := feeding.decoder.output.length + idSize
           size := packet.length - idSize }
       compressed := compressed }]

theorem realises_finishPacket (sound : feeding.Sound)
    {packet : List UInt8} (compressed : Bool)
    (room : feeding.decoder.output.length + packet.length ≤ feeding.decoder.outputCapacity) :
    Realises (streamFinishPacket packet compressed base) feeding base
      (packetMeaning feeding.decoder.config.mode packet compressed) := by
  rw [packetMeaning]
  by_cases empty : packet.length = 0
  · rw [if_pos empty]
    obtain ⟨after, run, rest⟩ := realises_failHere sound .invalidPacketBody
    exact ⟨after, by rw [streamFinishPacket, if_pos empty, run], rest⟩
  · rw [if_neg empty]
    cases header : streamVarint packet feeding.decoder.config.mode with
    | partialInput =>
        obtain ⟨after, run, rest⟩ := realises_fail sound .invalidPacketBody 0
        exact ⟨after, by simp only [streamFinishPacket, if_neg empty, header, run], rest⟩
    | invalid code offset =>
        obtain ⟨after, run, rest⟩ := realises_fail sound code offset
        exact ⟨after, by simp only [streamFinishPacket, if_neg empty, header, run], rest⟩
    | complete packetId idSize =>
        have bounds := streamVarint_size header
        by_cases negative : packetId < 0
        · obtain ⟨after, run, rest⟩ := realises_fail sound .invalidPacketBody 0
          simp only [if_pos negative]
          exact ⟨after, by simp only [streamFinishPacket, if_neg empty, header, if_pos negative, run],
            rest⟩
        · simp only [if_neg negative]
          have run : streamFinishPacket packet compressed base feeding =
              (some (), feeding.placed packet packetId idSize compressed) := by
            simp only [streamFinishPacket, if_neg empty, header, if_neg negative]
            rfl
          refine ⟨_, run, ⟨sound.clean, ?_, sound.object, sound.offset_le, ?_⟩,
            ⟨rfl, rfl, rfl, rfl⟩, ?_⟩
          · rw [placed, List.length_append]
            exact room
          · intro frame mem
            simp only [placed, List.mem_append, List.mem_singleton, List.length_append] at mem ⊢
            rcases mem with old | rfl
            · have laid := sound.laid frame old
              exact ⟨laid.1, by omega⟩
            · exact ⟨rfl, by dsimp only; omega⟩
          · simp only [packets, placed, List.map_append, List.map_cons, List.map_nil]
            congr 1
            · refine List.map_congr_left fun frame mem => ?_
              rw [bytes_append packet (sound.laid frame mem).2]
            · have shown : ({ feeding.decoder with
                  output := feeding.decoder.output ++ packet } : McStreamDecoder).bytes
                  ⟨feeding.decoder.arena, feeding.decoder.output.length + idSize,
                    packet.length - idSize⟩ = packet.drop idSize := by
                simp only [McStreamDecoder.bytes, if_true]
                rw [List.drop_append, List.drop_eq_nil_of_le (by omega), List.nil_append,
                  Nat.add_sub_cancel_left, List.take_of_length_le]
                rw [List.length_drop]
              rw [shown]

theorem outOfResources_bind {step : FeedM Unit} (out : OutOfResources step feeding)
    (next : Unit → FeedM Unit) : OutOfResources (step >>= next) feeding := by
  obtain ⟨after, run, failed⟩ := out
  exact ⟨after, Prog.bind_none run, failed⟩

/-- What a step comes to depends on where it ends only. -/
theorem Realises.congr {step other : FeedM Unit} {meaning : Except StreamError StreamPacket}
    (same : step feeding = other feeding) (realises : Realises other feeding base meaning) :
    Realises step feeding base meaning := by
  cases meaning with
  | ok packet => rwa [Realises, same]
  | error error => rwa [Realises, same]

/-- A step that keeps the stream and what the frames show. -/
structure Keeps (before after : Feeding) : Prop where
  sound : after.Sound
  same : before.decoder.SameStream after.decoder
  shown : after.packets = before.packets

theorem Keeps.refl (sound : feeding.Sound) : Keeps feeding feeding :=
  ⟨sound, ⟨rfl, rfl, rfl, rfl⟩, rfl⟩

/-- A step that only makes room may come first. -/
theorem Realises.after {next : Unit → FeedM Unit} {step : FeedM Unit} {after : Feeding}
    {meaning : Except StreamError StreamPacket} (run : step feeding = (some (), after))
    (keeps : Keeps feeding after) (realises : Realises (next ()) after base meaning) :
    Realises (step >>= next) feeding base meaning := by
  cases meaning with
  | ok packet =>
      obtain ⟨last, rest, sound, same', shown'⟩ := realises
      exact ⟨last, (Prog.bind_some run).trans rest, sound, keeps.same.trans same',
        keeps.shown ▸ shown'⟩
  | error error =>
      obtain ⟨last, rest, failed, recorded, same', shown'⟩ := realises
      exact ⟨last, (Prog.bind_some run).trans rest, failed, recorded, keeps.same.trans same',
        shown'.trans keeps.shown⟩

theorem Realises.behind {step : FeedM Unit} {size : Nat}
    {meaning : Except StreamError StreamPacket}
    (realises : Realises step feeding (saturatingAdd base size) meaning) :
    Realises step feeding base (McProtocol.behind size meaning) := by
  cases meaning with
  | ok packet => exact realises
  | error error =>
      obtain ⟨after, run, failed, recorded, rest⟩ := realises
      exact ⟨after, run, failed, by rw [recorded, saturatingAdd_assoc], rest⟩

/-- The arena replaced by a larger one. -/
def moved (feeding : Feeding) (grown : Nat) : Feeding where
  decoder :=
    { feeding.decoder with
      outputCapacity := grown
      arena := feeding.decoder.serial + 1
      serial := feeding.decoder.serial + 1 }
  frames := feeding.frames.map fun frame =>
    { frame with payload := { frame.payload with arena := feeding.decoder.serial + 1 } }

theorem keeps_moved (sound : feeding.Sound) {grown : Nat}
    (larger : feeding.decoder.output.length ≤ grown) (object : grown ≤ ptrdiffMax) :
    Keeps feeding (feeding.moved grown) where
  sound :=
    { clean := sound.clean
      capacity := larger
      object := object
      offset_le := sound.offset_le
      laid := by
        intro frame mem
        obtain ⟨old, before, rfl⟩ := List.mem_map.mp mem
        exact ⟨rfl, (sound.laid old before).2⟩ }
  same := ⟨rfl, rfl, rfl, rfl⟩
  shown := by
    simp only [packets, moved, List.map_map]
    refine List.map_congr_left fun frame mem => ?_
    simp only [Function.comp_apply, McStreamDecoder.bytes, (sound.laid frame mem).1, if_true]

theorem reserveOutput_cases (heap : Heap) (sound : feeding.Sound) {needed : Nat}
    (holds : feeding.decoder.output.length ≤ needed) :
    (∃ after, streamReserveOutput heap needed feeding = (some (), after) ∧ Keeps feeding after ∧
        after.decoder.output = feeding.decoder.output ∧ needed ≤ after.decoder.outputCapacity) ∨
      (feeding.decoder.config.maxOutputSize < needed ∨
          heap.Refuses feeding.decoder.config.maxOutputSize) ∧
        ∃ after, streamReserveOutput heap needed feeding = (none, after) ∧ Keeps feeding after := by
  by_cases limited : feeding.decoder.config.maxOutputSize < needed
  · exact .inr ⟨.inl limited, feeding, by simp only [streamReserveOutput, if_pos limited],
      .refl sound⟩
  · by_cases enough : needed ≤ feeding.decoder.outputCapacity
    · refine .inl ⟨feeding, ?_, .refl sound, rfl, enough⟩
      simp only [streamReserveOutput, if_neg limited, if_pos enough]
    · have larger : needed ≤ grownCapacity feeding.decoder.config.maxOutputSize needed
          feeding.decoder.outputCapacity := growLoop_ge _ _ _
      by_cases granted : heap.grant feeding.decoder.serial
          (grownCapacity feeding.decoder.config.maxOutputSize needed
            feeding.decoder.outputCapacity) = true
      · refine .inl ⟨feeding.moved _, ?_, keeps_moved sound (holds.trans larger)
          (heap.bounded _ _ granted), rfl, larger⟩
        simp only [streamReserveOutput, if_neg limited, if_neg enough, if_pos granted]
        rfl
      · refine .inr ⟨.inr ⟨_, _, grownCapacity_le (by omega) _, Bool.eq_false_of_not_eq_true granted⟩,
          { feeding with
            decoder := { feeding.decoder with serial := feeding.decoder.serial + 1 } }, ?_, ?_⟩
        · simp only [streamReserveOutput, if_neg limited, if_neg enough, if_neg granted]
        · exact ⟨⟨sound.clean, sound.capacity, sound.object, sound.offset_le, sound.laid⟩,
            ⟨rfl, rfl, rfl, rfl⟩, rfl⟩

/-- Room is made for a packet, or memory runs out. -/
theorem emitRoom_cases (heap : Heap) (sound : feeding.Sound)
    (accepted : ¬ feeding.decoder.config.Refused) {size : Nat}
    (small : size ≤
      max feeding.decoder.config.maxFrameSize feeding.decoder.config.maxDecompressedSize)
    (offset : Nat) :
    OutOfResources (streamEmitRoom heap size offset) feeding ∧ feeding.Starved heap ∨
      ∃ after, streamEmitRoom heap size offset feeding = (some (), after) ∧ Keeps feeding after ∧
        after.decoder.output.length + size ≤ after.decoder.outputCapacity := by
  have fits : ¬ sizeMax - feeding.decoder.output.length < size := by
    have object := sound.object
    have inside := sound.capacity
    have limits := McStreamDecoderConfig.limits accepted
    simp only [sizeMax, ptrdiffMax, uintMax] at *
    omega
  by_cases limited : feeding.decoder.config.maxOutputSize < feeding.decoder.output.length + size
  · obtain ⟨after, run, failed⟩ := outOfResources_fail sound (.inl rfl) offset
    exact .inl ⟨⟨after, by simp only [streamEmitRoom, if_neg fits, if_pos limited, run], failed⟩,
      .inl (by omega)⟩
  · obtain ⟨after, run, keeps, output, room⟩ | ⟨cause, after, run, keeps⟩ :=
      reserveOutput_cases heap sound (Nat.le_add_right feeding.decoder.output.length size)
    · refine .inr ⟨after, ?_, keeps, output ▸ room⟩
      simp only [streamEmitRoom, if_neg fits, if_neg limited, run]
    · obtain ⟨last, failing, failed⟩ := outOfResources_fail keeps.sound (.inr rfl) offset
      refine .inl ⟨⟨last, ?_, failed⟩, cause.imp (fun full => absurd full limited) id⟩
      simp only [streamEmitRoom, if_neg fits, if_neg limited, run, failing]

theorem emitUncompressed_cases (heap : Heap) (sound : feeding.Sound)
    (accepted : ¬ feeding.decoder.config.Refused) {packet : List UInt8}
    (small : packet.length ≤ feeding.decoder.config.maxFrameSize) (compressed : Bool) :
    OutOfResources (streamEmitUncompressed heap packet compressed base) feeding ∧
        feeding.Starved heap ∨
      Realises (streamEmitUncompressed heap packet compressed base) feeding base
        (packetMeaning feeding.decoder.config.mode packet compressed) := by
  obtain ⟨out, starved⟩ | ⟨after, run, keeps, room⟩ :=
    emitRoom_cases heap sound accepted (small.trans (Nat.le_max_left _ _)) base
  · exact .inl ⟨outOfResources_bind out _, starved⟩
  · have finished : Realises (streamFinishPacket packet compressed base) after base _ :=
      realises_finishPacket keeps.sound compressed room
    rw [keeps.same.config] at finished
    exact .inr (finished.after run keeps)

theorem emitCompressed_cases (zlib : Zlib) (heap : Heap) (sound : feeding.Sound)
    (accepted : ¬ feeding.decoder.config.Refused) {compressed : List UInt8} {declaredSize : Nat}
    (short : compressed.length ≤ feeding.decoder.config.maxFrameSize)
    (small : declaredSize ≤ feeding.decoder.config.maxDecompressedSize) :
    OutOfResources (streamEmitCompressed zlib heap compressed declaredSize base) feeding ∧
        feeding.Starved heap ∨
      Realises (streamEmitCompressed zlib heap compressed declaredSize base) feeding base
        (inflatedMeaning zlib feeding.decoder.config.mode compressed declaredSize) := by
  have inside : ¬ (uintMax < compressed.length ∨ uintMax < declaredSize) := by
    have limits := McStreamDecoderConfig.limits accepted
    omega
  rw [streamEmitCompressed, if_neg inside]
  obtain ⟨out, starved⟩ | ⟨after, run, keeps, room⟩ :=
    emitRoom_cases heap sound accepted (small.trans (Nat.le_max_right _ _)) base
  · exact .inl ⟨outOfResources_bind out _, starved⟩
  · refine .inr (Realises.after run keeps ?_)
    rw [inflatedMeaning, ← keeps.same.config]
    cases zlib.inflateOnce compressed declaredSize with
    | none => exact realises_failHere keeps.sound .zlib
    | some step =>
        by_cases bad : step.status ≠ .streamEnd ∨ step.output.length ≠ declaredSize ∨
            after.decoder.config.mode = .strict ∧ step.rest.length ≠ 0
        · simp only [if_pos bad]
          exact (realises_failHere keeps.sound .zlib).congr (if_pos bad)
        · have size : step.output.length = declaredSize := by tauto
          simp only [if_neg bad]
          exact (realises_finishPacket keeps.sound true (size ▸ room)).congr (if_neg bad)

/-- Decoding a frame realises its meaning, or memory runs out. -/
theorem decodeFrame_cases (zlib : Zlib) (heap : Heap) (base : Nat) (sound : feeding.Sound)
    (accepted : ¬ feeding.decoder.config.Refused) {frame : List UInt8}
    (small : frame.length ≤ feeding.decoder.config.maxFrameSize) :
    OutOfResources (streamDecodeFrame zlib heap frame base) feeding ∧ feeding.Starved heap ∨
      Realises (streamDecodeFrame zlib heap frame base) feeding base
        (frameMeaning zlib feeding.decoder.config feeding.decoder.compressionThreshold frame) := by
  rw [frameMeaning]
  by_cases plain : feeding.decoder.compressionThreshold < 0
  · have run : streamDecodeFrame zlib heap frame base feeding =
        streamEmitUncompressed heap frame false base feeding := if_pos plain
    rw [if_pos plain]
    obtain ⟨⟨after, out, failed⟩, starved⟩ | realises :=
      emitUncompressed_cases heap sound accepted small false
    · exact .inl ⟨⟨after, run.trans out, failed⟩, starved⟩
    · exact .inr (realises.congr run)
  · rw [if_neg plain]
    cases header : streamVarint frame feeding.decoder.config.mode with
    | partialInput =>
        refine .inr ((realises_fail sound .compressionHeader 0).congr ?_)
        simp only [streamDecodeFrame, if_neg plain, header]
    | invalid code offset =>
        refine .inr ((realises_fail sound code offset).congr ?_)
        simp only [streamDecodeFrame, if_neg plain, header]
    | complete declared headerSize =>
        have body : (frame.drop headerSize).length ≤ feeding.decoder.config.maxFrameSize := by
          rw [List.length_drop]
          omega
        dsimp only
        split_ifs with negative none strict large below
        · refine .inr ((realises_fail sound .compressionHeader 0).congr ?_)
          simp only [streamDecodeFrame, if_neg plain, header, if_pos negative]
        · refine .inr ((realises_failHere sound .compressionThreshold).congr ?_)
          simp only [streamDecodeFrame, if_neg plain, header, if_neg negative, if_pos none,
            if_pos strict]
        · have run : streamDecodeFrame zlib heap frame base feeding =
              streamEmitUncompressed heap (frame.drop headerSize) false
                (saturatingAdd base headerSize) feeding := by
            simp only [streamDecodeFrame, if_neg plain, header, if_neg negative, if_pos none,
              if_neg strict]
          obtain ⟨⟨after, out, failed⟩, starved⟩ | realises :=
            emitUncompressed_cases heap sound accepted body false
          · exact .inl ⟨⟨after, run.trans out, failed⟩, starved⟩
          · exact .inr (realises.behind.congr run)
        · refine .inr ((realises_failHere sound .decompressedTooLarge).congr ?_)
          simp only [streamDecodeFrame, if_neg plain, header, if_neg negative, if_neg none,
            if_pos large]
        · refine .inr ((realises_failHere sound .compressionThreshold).congr ?_)
          simp only [streamDecodeFrame, if_neg plain, header, if_neg negative, if_neg none,
            if_neg large, if_pos below]
        · have run : streamDecodeFrame zlib heap frame base feeding =
              streamEmitCompressed zlib heap (frame.drop headerSize) declared.toNat
                (saturatingAdd base headerSize) feeding := by
            simp only [streamDecodeFrame, if_neg plain, header, if_neg negative, if_neg none,
              if_neg large, if_neg below]
          obtain ⟨⟨after, out, failed⟩, starved⟩ | realises :=
            emitCompressed_cases zlib heap sound accepted body (Nat.le_of_not_lt large)
          · exact .inl ⟨⟨after, run.trans out, failed⟩, starved⟩
          · exact .inr (realises.behind.congr run)

theorem consume_eq (decoder : McStreamDecoder) (consumed : Nat) :
    decoder.consume consumed =
      { decoder with
        buffer := decoder.buffer.drop consumed
        streamOffset := saturatingAdd decoder.streamOffset consumed } := by
  by_cases none : consumed = 0
  · rw [McStreamDecoder.consume, if_pos none, none, saturatingAdd_zero, List.drop_zero]
  · rw [McStreamDecoder.consume, if_neg none]

/-- How the loop ends when the scanner, from `consumed` on, comes to `outcome`. -/
def Finished (feeding : Feeding) (consumed : Nat) (outcome : Outcome StreamPacket StreamError)
    (ended : Option Unit × Feeding) : Prop :=
  ended.2.packets = feeding.packets ++ outcome.frames ∧
    match outcome.error with
    | none => ended.1 = some () ∧ ended.2.Sound ∧
        ended.2.decoder.config = feeding.decoder.config ∧
        ended.2.decoder.compressionThreshold = feeding.decoder.compressionThreshold ∧
        ended.2.decoder.buffer = feeding.decoder.buffer.drop (consumed + outcome.taken) ∧
        ended.2.decoder.streamOffset =
          saturatingAdd feeding.decoder.streamOffset (consumed + outcome.taken)
    | some (code, offset) => ended.1 = none ∧ ended.2.decoder.failed = true ∧
        ended.2.decoder.lastError =
          { mcErrorClear with
            code := code
            offset := saturatingAdd feeding.decoder.streamOffset
              (consumed + outcome.taken + offset) }

theorem finished_stop (sound : feeding.Sound) (consumed : Nat) :
    Finished feeding consumed .idle (streamStop consumed feeding) := by
  have offset_le := saturatingAdd_le sound.offset_le consumed
  simp only [streamStop, consume_eq]
  exact ⟨(List.append_nil _).symm, rfl,
    ⟨sound.clean, sound.capacity, sound.object, offset_le, sound.laid⟩, rfl, rfl, rfl, rfl⟩

theorem finished_stopFailed (sound : feeding.Sound) (consumed : Nat) (code : McErrorCode)
    (offset : Nat) :
    Finished feeding consumed ⟨[], 0, some (code, offset)⟩
      (streamStopFailed consumed code offset feeding) := by
  have clean : (feeding.decoder.consume consumed).failed = false := by
    rw [consume_eq]
    exact sound.clean
  simp only [streamStopFailed, streamFail, McStreamDecoder.fail, clean, McStreamDecoder.absoluteOffset]
  simp only [consume_eq, saturatingAdd_assoc]
  exact ⟨(List.append_nil _).symm, rfl, rfl, rfl⟩

/-- A frame, and the loop behind it. -/
theorem Finished.cons {after : Feeding} {packet : StreamPacket} {consumed size : Nat}
    {outcome : Outcome StreamPacket StreamError} {ended : Option Unit × Feeding}
    (same : feeding.decoder.SameStream after.decoder)
    (shown : after.packets = feeding.packets ++ [packet])
    (finished : Finished after (consumed + size) outcome ended) :
    Finished feeding consumed ((⟨[packet], size, none⟩ : Outcome _ _).andThen outcome) ended := by
  obtain ⟨packets, rest⟩ := finished
  rw [Outcome.andThen_clean rfl]
  refine ⟨by rw [packets, shown, List.append_assoc], ?_⟩
  dsimp only
  rw [same.config, same.threshold, same.buffer, same.streamOffset] at rest
  simp only [← Nat.add_assoc]
  exact rest

/-- The loop and the scanner on what is behind `consumed`, when the next length is
complete; `ih` is about the frames behind this one, and `Cause` is why memory may run
out. -/
theorem feedLoop_frame (zlib : Zlib) (heap : Heap) {Cause : Prop} (sound : feeding.Sound)
    (cause : feeding.Starved heap → Cause) (accepted : ¬ feeding.decoder.config.Refused) {quota consumed headerSize : Nat}
    {encodedSize : Int} (left : ¬ feeding.decoder.buffer.length ≤ consumed)
    (header : streamVarint (feeding.decoder.buffer.drop consumed) feeding.decoder.config.mode =
      .complete encodedSize headerSize)
    (ih : ∀ {feeding : Feeding}, feeding.Sound → ¬ feeding.decoder.config.Refused →
      ∀ consumed : Nat, OutOfResources (feedLoop zlib heap quota consumed) feeding ∧ Cause ∨
        Finished feeding consumed
          ((frameScanner zlib feeding.decoder.config feeding.decoder.compressionThreshold).take
            quota (feeding.decoder.buffer.drop consumed))
          (feedLoop zlib heap quota consumed feeding)) :
    OutOfResources (feedLoop zlib heap (quota + 1) consumed) feeding ∧ Cause ∨
      Finished feeding consumed
        ((frameScanner zlib feeding.decoder.config feeding.decoder.compressionThreshold).take
          (quota + 1) (feeding.decoder.buffer.drop consumed))
        (feedLoop zlib heap (quota + 1) consumed feeding) := by
  have verdict : (frameScanner zlib feeding.decoder.config
      feeding.decoder.compressionThreshold).step (feeding.decoder.buffer.drop consumed) =
      frameVerdict zlib feeding.decoder.config feeding.decoder.compressionThreshold
        (feeding.decoder.buffer.drop consumed) := rfl
  simp only [frameVerdict, header] at verdict
  by_cases negative : encodedSize ≤ 0
  · rw [if_pos negative] at verdict
    have run : feedLoop zlib heap (quota + 1) consumed feeding =
        streamStopFailed consumed .invalidLength 0 feeding := by
      simp only [feedLoop, if_neg left, header, if_pos negative]
    rw [Scanner.take_reject verdict]
    exact .inr (run ▸ finished_stopFailed sound consumed .invalidLength 0)
  rw [if_neg negative] at verdict
  by_cases large : feeding.decoder.config.maxFrameSize < encodedSize.toNat
  · rw [if_pos large] at verdict
    have run : feedLoop zlib heap (quota + 1) consumed feeding =
        streamStopFailed consumed .frameTooLarge 0 feeding := by
      simp only [feedLoop, if_neg left, header, if_neg negative, if_pos large]
    rw [Scanner.take_reject verdict]
    exact .inr (run ▸ finished_stopFailed sound consumed .frameTooLarge 0)
  rw [if_neg large, List.length_drop, List.drop_drop] at verdict
  by_cases short : feeding.decoder.buffer.length - consumed - headerSize < encodedSize.toNat
  · rw [if_pos short] at verdict
    have run : feedLoop zlib heap (quota + 1) consumed feeding = streamStop consumed feeding := by
      simp only [feedLoop, if_neg left, header, if_neg negative, if_neg large, if_pos short]
    rw [Scanner.take_needMore verdict]
    exact .inr (run ▸ finished_stop sound consumed)
  rw [if_neg short] at verdict
  have small : ((feeding.decoder.buffer.drop (consumed + headerSize)).take
      encodedSize.toNat).length ≤ feeding.decoder.config.maxFrameSize :=
    (List.length_take_le _ _).trans (by omega)
  have refuses {after : Feeding} (decoded : streamDecodeFrame zlib heap
        ((feeding.decoder.buffer.drop (consumed + headerSize)).take encodedSize.toNat)
        (saturatingAdd feeding.decoder.streamOffset (consumed + headerSize)) feeding =
          (none, after)) :
      feedLoop zlib heap (quota + 1) consumed feeding =
        (none, { after with decoder := after.decoder.consume consumed }) := by
    simp only [feedLoop, if_neg left, header, if_neg negative, if_neg large, if_neg short,
      McStreamDecoder.absoluteOffset, decoded]
  have passes {after : Feeding} (decoded : streamDecodeFrame zlib heap
        ((feeding.decoder.buffer.drop (consumed + headerSize)).take encodedSize.toNat)
        (saturatingAdd feeding.decoder.streamOffset (consumed + headerSize)) feeding =
          (some (), after)) :
      feedLoop zlib heap (quota + 1) consumed feeding =
        feedLoop zlib heap quota (consumed + headerSize + encodedSize.toNat) after := by
    simp only [feedLoop, if_neg left, header, if_neg negative, if_neg large, if_neg short,
      McStreamDecoder.absoluteOffset, decoded]
  obtain ⟨⟨after, decoded, failed⟩, starved⟩ | realises :=
    decodeFrame_cases zlib heap
      (saturatingAdd feeding.decoder.streamOffset (consumed + headerSize)) sound accepted small
  · refine .inl ⟨⟨_, refuses decoded, ?_⟩, cause starved⟩
    simp only [consume_eq]
    exact failed
  · cases meaning : frameMeaning zlib feeding.decoder.config feeding.decoder.compressionThreshold
        ((feeding.decoder.buffer.drop (consumed + headerSize)).take encodedSize.toNat) with
    | error error =>
        obtain ⟨code, offset⟩ := error
        rw [meaning] at verdict realises
        obtain ⟨after, decoded, failed, recorded, same, shown⟩ := realises
        rw [Scanner.take_reject verdict, refuses decoded]
        simp only [consume_eq]
        refine .inr ⟨shown.trans (List.append_nil _).symm, rfl, failed, recorded.trans ?_⟩
        rw [saturatingAdd_assoc]
        simp only [Nat.add_zero, Nat.add_assoc]
    | ok packet =>
        rw [meaning] at verdict realises
        obtain ⟨after, decoded, sound', same, shown⟩ := realises
        rw [Scanner.take_emit verdict, passes decoded, List.drop_drop]
        obtain ⟨⟨last, ran, failed⟩, caused⟩ | finished :=
          ih sound' (same.config ▸ accepted) (consumed + (headerSize + encodedSize.toNat))
        · rw [← Nat.add_assoc] at ran
          exact .inl ⟨⟨last, (passes decoded).trans ran, failed⟩, caused⟩
        · rw [same.config, same.threshold, same.buffer] at finished
          rw [Nat.add_assoc]
          exact .inr (finished.cons same shown)

/-- One turn of the loop, whatever is behind `consumed`. -/
theorem feedLoop_turn (zlib : Zlib) (heap : Heap) {Cause : Prop} (sound : feeding.Sound)
    (cause : feeding.Starved heap → Cause) (accepted : ¬ feeding.decoder.config.Refused)
    (quota consumed : Nat)
    (ih : ∀ {feeding : Feeding}, feeding.Sound → ¬ feeding.decoder.config.Refused →
      ∀ consumed : Nat, OutOfResources (feedLoop zlib heap quota consumed) feeding ∧ Cause ∨
        Finished feeding consumed
          ((frameScanner zlib feeding.decoder.config feeding.decoder.compressionThreshold).take
            quota (feeding.decoder.buffer.drop consumed))
          (feedLoop zlib heap quota consumed feeding)) :
    OutOfResources (feedLoop zlib heap (quota + 1) consumed) feeding ∧ Cause ∨
      Finished feeding consumed
        ((frameScanner zlib feeding.decoder.config feeding.decoder.compressionThreshold).take
          (quota + 1) (feeding.decoder.buffer.drop consumed))
        (feedLoop zlib heap (quota + 1) consumed feeding) := by
  by_cases drained : feeding.decoder.buffer.length ≤ consumed
  · rw [List.drop_eq_nil_of_le drained, Scanner.take_nil]
    have run : feedLoop zlib heap (quota + 1) consumed feeding = streamStop consumed feeding :=
      if_pos drained
    exact .inr (run ▸ finished_stop sound consumed)
  · cases header : streamVarint (feeding.decoder.buffer.drop consumed)
        feeding.decoder.config.mode with
    | partialInput =>
        have waits : frameVerdict zlib feeding.decoder.config
            feeding.decoder.compressionThreshold (feeding.decoder.buffer.drop consumed) =
              .needMore := by
          rw [frameVerdict, header]
        have run : feedLoop zlib heap (quota + 1) consumed feeding =
            streamStop consumed feeding := by
          simp only [feedLoop, if_neg drained, header]
        rw [Scanner.take_needMore waits]
        exact .inr (run ▸ finished_stop sound consumed)
    | invalid code offset =>
        have rejects : frameVerdict zlib feeding.decoder.config
            feeding.decoder.compressionThreshold (feeding.decoder.buffer.drop consumed) =
              .reject (code, offset) := by
          rw [frameVerdict, header]
        have run : feedLoop zlib heap (quota + 1) consumed feeding =
            streamStopFailed consumed code offset feeding := by
          simp only [feedLoop, if_neg drained, header]
        rw [Scanner.take_reject rejects]
        exact .inr (run ▸ finished_stopFailed sound consumed code offset)
    | complete encodedSize headerSize =>
        exact feedLoop_frame zlib heap sound cause accepted drained header
          fun sound accepted consumed => ih sound accepted consumed

/-- The loop finds the frames the scanner finds, or memory runs out. -/
theorem feedLoop_cases (zlib : Zlib) (heap : Heap) (sound : feeding.Sound)
    (accepted : ¬ feeding.decoder.config.Refused) (quota consumed : Nat) :
    OutOfResources (feedLoop zlib heap quota consumed) feeding ∧ True ∨
      Finished feeding consumed
        ((frameScanner zlib feeding.decoder.config feeding.decoder.compressionThreshold).take quota
          (feeding.decoder.buffer.drop consumed))
        (feedLoop zlib heap quota consumed feeding) := by
  induction quota generalizing feeding consumed with
  | zero => exact .inr (finished_stop sound consumed)
  | succ quota ih =>
      exact feedLoop_turn zlib heap sound (fun _ => trivial) accepted quota consumed
        fun sound accepted consumed => ih sound accepted consumed

/-- A loop that is to find one frame finds it when there is room. -/
theorem feedLoop_one (zlib : Zlib) (heap : Heap) (sound : feeding.Sound)
    (accepted : ¬ feeding.decoder.config.Refused) (fed : ¬ feeding.Starved heap) (consumed : Nat) :
    Finished feeding consumed
      ((frameScanner zlib feeding.decoder.config feeding.decoder.compressionThreshold).take 1
        (feeding.decoder.buffer.drop consumed))
      (feedLoop zlib heap 1 consumed feeding) := by
  have turn := feedLoop_turn zlib heap sound id accepted 0 consumed
    fun sound _ consumed => .inr (finished_stop sound consumed)
  exact turn.resolve_left fun out => fed out.2

end Feeding

/-- The packets a call returns, read out of the arena before the next call. -/
def feedPackets (zlib : Zlib) (heap : Heap) (decoder : McStreamDecoder) (call : FeedCall) :
    List StreamPacket × McStreamDecoder :=
  let (result, decoder) := mcStreamDecoderFeed zlib heap decoder call
  (Feeding.packets ⟨decoder, result.frames⟩, decoder)

/-- A sequence of feeds, with the packets of all of them. -/
def feedAll (zlib : Zlib) (heap : Heap) :
    List FeedCall → McStreamDecoder → List StreamPacket × McStreamDecoder
  | [], decoder => ([], decoder)
  | call :: calls, decoder =>
      let (packets, decoder) := feedPackets zlib heap decoder call
      let (more, decoder) := feedAll zlib heap calls decoder
      (packets ++ more, decoder)

/-- The error a stream was rejected with, at its absolute offset. -/
def rejection (taken : Nat) (error : StreamError) : McError :=
  { mcErrorClear with code := error.1, offset := saturatingAdd 0 (taken + error.2) }

/-- The decoder is where the session over the same input is. -/
def McStreamDecoder.Follows (config : McStreamDecoderConfig) (threshold : Int)
    (decoder : McStreamDecoder) (session : Session UInt8 StreamError) : Prop :=
  match session.error with
  | none => decoder.failed = false ∧ decoder.config = config ∧
      decoder.compressionThreshold = threshold ∧ decoder.buffer = session.rest ∧
      decoder.streamOffset = saturatingAdd 0 session.taken ∧
      decoder.outputCapacity ≤ ptrdiffMax
  | some error => decoder.failed = true ∧ decoder.lastError = rejection session.taken error

section Calls

variable {zlib : Zlib} {heap : Heap} {config : McStreamDecoderConfig} {threshold : Int}
  {decoder : McStreamDecoder} {session : Session UInt8 StreamError} {call : FeedCall}

theorem feed_failed (valid : ¬ call.Invalid) (failed : decoder.failed = true) :
    feedPackets zlib heap decoder call = ([], decoder) := by
  simp only [feedPackets, mcStreamDecoderFeed, if_neg valid, if_pos failed, feedFailed]
  rfl

theorem McStreamDecoder.fail_resource (clean : decoder.failed = false) {code : McErrorCode}
    (limit : code = .bufferLimit ∨ code = .outOfMemory) (offset : Nat) :
    (decoder.fail code offset).ResourceFailed := by
  rw [McStreamDecoder.fail, clean]
  exact ⟨rfl, limit⟩

/-- There may be no room for `needed` bytes of input. -/
def McStreamDecoder.Overfed (heap : Heap) (decoder : McStreamDecoder) (needed : Nat) : Prop :=
  decoder.config.maxBufferedSize < needed ∨ heap.Refuses decoder.config.maxBufferedSize

theorem streamReserve_frame (heap : Heap) (decoder : McStreamDecoder) (needed : Nat) :
    ∃ held capacity serial,
      streamReserve heap decoder needed =
        (held, { decoder with bufferCapacity := capacity, serial := serial }) ∧
      (held = false → decoder.Overfed heap needed) := by
  by_cases limited : decoder.config.maxBufferedSize < needed
  · refine ⟨false, decoder.bufferCapacity, decoder.serial, ?_, fun _ => .inl limited⟩
    simp only [streamReserve, if_pos limited]
  by_cases enough : needed ≤ decoder.bufferCapacity
  · refine ⟨true, decoder.bufferCapacity, decoder.serial, ?_, Bool.noConfusion⟩
    simp only [streamReserve, if_neg limited, if_pos enough]
  by_cases granted : heap.grant decoder.serial
      (grownCapacity decoder.config.maxBufferedSize needed decoder.bufferCapacity) = true
  · refine ⟨true, grownCapacity decoder.config.maxBufferedSize needed decoder.bufferCapacity,
      decoder.serial + 1, ?_, Bool.noConfusion⟩
    simp only [streamReserve, if_neg limited, if_neg enough, if_pos granted]
  · refine ⟨false, decoder.bufferCapacity, decoder.serial + 1, ?_, fun _ => .inr ⟨_, _,
      grownCapacity_le (Nat.le_of_not_lt limited) _, Bool.eq_false_of_not_eq_true granted⟩⟩
    simp only [streamReserve, if_neg limited, if_neg enough, if_neg granted]

/-- What the loop starts from, once the input is buffered. -/
def McStreamDecoder.buffering (decoder : McStreamDecoder) (data : List UInt8)
    (capacity serial : Nat) : Feeding where
  decoder :=
    { decoder with
      compressionTransitionReady := false
      output := []
      buffer := decoder.buffer ++ data
      bufferCapacity := capacity
      serial := serial }
  frames := []

/-- Whether a call stops at a frame boundary with input left. -/
def Feeding.ready (feeding : Feeding) (frameCapacity : Nat) : Bool :=
  feeding.frames.length ≠ 0 ∧ feeding.frames.length = frameCapacity ∧
    feeding.decoder.buffer.length ≠ 0

/-- How a call returns behind its loop. -/
def feedReturn (frameCapacity : Nat) : Option Unit × Feeding → FeedResult × McStreamDecoder
  | (none, feeding) => feedFailed feeding.frames feeding.decoder
  | (some (), feeding) =>
      (⟨true, feeding.frames, mcErrorClear⟩,
        { feeding.decoder with compressionTransitionReady := feeding.ready frameCapacity })

/-- The ways of a call on a decoder that has not failed. -/
theorem feed_run (valid : ¬ call.Invalid) (clean : decoder.failed = false) :
    (mcStreamDecoderFeed zlib heap decoder call).2.ResourceFailed ∧
        decoder.Overfed heap (decoder.buffer.length + call.data.size) ∨
      ∃ capacity serial, mcStreamDecoderFeed zlib heap decoder call =
        feedReturn call.frameCapacity (feedLoop zlib heap call.frameCapacity 0
          (decoder.buffering call.data.content capacity serial)) := by
  have failing : ¬ decoder.failed = true := by
    rw [clean]
    exact Bool.false_ne_true
  by_cases limited : decoder.config.maxBufferedSize - decoder.buffer.length < call.data.size
  · refine .inl ⟨?_, .inl (by omega)⟩
    simp only [mcStreamDecoderFeed, if_neg valid, if_neg failing, if_pos limited, feedFailed]
    refine McStreamDecoder.fail_resource ?_ (.inl rfl) _
    exact clean
  · obtain ⟨held, capacity, serial, reserve, cause⟩ := streamReserve_frame heap
      { decoder with compressionTransitionReady := false, output := [] }
      (decoder.buffer.length + call.data.size)
    cases held with
    | false =>
        refine .inl ⟨?_, cause rfl⟩
        simp only [mcStreamDecoderFeed, if_neg valid, if_neg failing, if_neg limited, reserve,
          feedFailed]
        refine McStreamDecoder.fail_resource ?_ (.inr rfl) _
        exact clean
    | true =>
        refine .inr ⟨capacity, serial, ?_⟩
        cases looped : feedLoop zlib heap call.frameCapacity 0
            (decoder.buffering call.data.content capacity serial) with | mk ended feeding
        have run := looped
        simp only [McStreamDecoder.buffering] at run
        cases ended with
        | none =>
            simp only [mcStreamDecoderFeed, if_neg valid, if_neg failing, if_neg limited, reserve,
              run, feedReturn]
        | some done =>
            simp only [mcStreamDecoderFeed, if_neg valid, if_neg failing, if_neg limited, reserve,
              run, feedReturn]
            rfl

/-- Behind a loop that ended as `outcome` says, the decoder follows the session. -/
theorem follows_finished {data : List UInt8} {capacity serial taken : Nat}
    {outcome : Outcome StreamPacket StreamError} {ended : Option Unit × Feeding}
    (offset : decoder.streamOffset = saturatingAdd 0 taken)
    (finished : Feeding.Finished (decoder.buffering data capacity serial) 0 outcome ended)
    (ready : Bool) :
    McStreamDecoder.Follows decoder.config decoder.compressionThreshold
      { ended.2.decoder with compressionTransitionReady := ready }
      ⟨(decoder.buffer ++ data).drop outcome.taken, taken + outcome.taken, outcome.error⟩ := by
  obtain ⟨frames, taken', error⟩ := outcome
  obtain ⟨packets, rest⟩ := finished
  cases error with
  | none =>
      obtain ⟨-, sound, config, threshold, buffer, offset'⟩ := rest
      refine ⟨sound.clean, config, threshold, ?_, ?_, sound.object⟩
      · rw [Nat.zero_add] at buffer
        exact buffer
      · rw [Nat.zero_add] at offset'
        refine offset'.trans ?_
        simp only [McStreamDecoder.buffering, offset, saturatingAdd_assoc]
  | some error =>
      obtain ⟨-, failed, recorded⟩ := rest
      refine ⟨failed, recorded.trans ?_⟩
      simp only [McStreamDecoder.buffering, offset, saturatingAdd_assoc, rejection, Nat.zero_add,
        Nat.add_assoc]

/-- The loop of a call starts from sound ground. -/
theorem sound_buffering (clean : decoder.failed = false)
    (offset : decoder.streamOffset ≤ sizeMax) (object : decoder.outputCapacity ≤ ptrdiffMax)
    (data : List UInt8) (capacity serial : Nat) :
    (decoder.buffering data capacity serial).Sound where
  clean := clean
  capacity := Nat.zero_le _
  object := object
  offset_le := offset
  laid := by simp [McStreamDecoder.buffering]

/-- A call whose loop ends as the scanner says does what the session does. -/
theorem feed_follows {capacity serial : Nat} (state : session.error = none)
    (buffer : decoder.buffer = session.rest)
    (offset : decoder.streamOffset = saturatingAdd 0 session.taken)
    (run : mcStreamDecoderFeed zlib heap decoder call =
      feedReturn call.frameCapacity (feedLoop zlib heap call.frameCapacity 0
        (decoder.buffering call.data.content capacity serial)))
    (finished : Feeding.Finished (decoder.buffering call.data.content capacity serial) 0
      ((frameScanner zlib decoder.config decoder.compressionThreshold).take call.frameCapacity
        (decoder.buffer ++ call.data.content))
      (feedLoop zlib heap call.frameCapacity 0
        (decoder.buffering call.data.content capacity serial))) :
    (feedPackets zlib heap decoder call).1 =
        (session.feed (frameScanner zlib decoder.config decoder.compressionThreshold)
          call.data.content call.frameCapacity).1 ∧
      (feedPackets zlib heap decoder call).2.Follows decoder.config decoder.compressionThreshold
        (session.feed (frameScanner zlib decoder.config decoder.compressionThreshold)
          call.data.content call.frameCapacity).2 := by
  have follows := follows_finished offset finished
  obtain ⟨packets, rest⟩ := finished
  simp only [Session.feed, state, ← buffer]
  cases looped : feedLoop zlib heap call.frameCapacity 0
      (decoder.buffering call.data.content capacity serial) with
  | mk ended after =>
      rw [looped] at packets rest run follows
      rw [feedPackets, run]
      cases ended with
      | none => exact ⟨packets, follows after.decoder.compressionTransitionReady⟩
      | some done => exact ⟨packets, follows (after.ready call.frameCapacity)⟩

/-- A call that did not meet an error returns success, and the transition flag tells
whether it filled its quota and left input. -/
theorem feed_clean {capacity serial : Nat} {outcome : Outcome StreamPacket StreamError}
    (run : mcStreamDecoderFeed zlib heap decoder call =
      feedReturn call.frameCapacity (feedLoop zlib heap call.frameCapacity 0
        (decoder.buffering call.data.content capacity serial)))
    (finished : Feeding.Finished (decoder.buffering call.data.content capacity serial) 0 outcome
      (feedLoop zlib heap call.frameCapacity 0
        (decoder.buffering call.data.content capacity serial)))
    (clean : outcome.error = none) :
    (mcStreamDecoderFeed zlib heap decoder call).1.ok = true ∧
      (mcStreamDecoderFeed zlib heap decoder call).2.compressionTransitionReady =
        decide ((feedPackets zlib heap decoder call).1.length ≠ 0 ∧
          (feedPackets zlib heap decoder call).1.length = call.frameCapacity ∧
          (feedPackets zlib heap decoder call).2.buffer.length ≠ 0) := by
  obtain ⟨-, rest⟩ := finished
  rw [clean] at rest
  cases looped : feedLoop zlib heap call.frameCapacity 0
      (decoder.buffering call.data.content capacity serial) with
  | mk ended after =>
      rw [looped] at rest run
      rw [feedPackets, run]
      cases ended with
      | none => exact absurd rest.1 (Option.some_ne_none ()).symm
      | some done =>
          simp only [feedReturn, Feeding.packets, List.length_map]
          exact ⟨trivial, rfl⟩

/-- A call does what the session does, or memory runs out. -/
theorem feed_cases (accepted : ¬ config.Refused) (valid : ¬ call.Invalid)
    (follows : decoder.Follows config threshold session) :
    (feedPackets zlib heap decoder call).2.ResourceFailed ∨
      (feedPackets zlib heap decoder call).1 =
          (session.feed (frameScanner zlib config threshold) call.data.content
            call.frameCapacity).1 ∧
        (feedPackets zlib heap decoder call).2.Follows config threshold
          (session.feed (frameScanner zlib config threshold) call.data.content
            call.frameCapacity).2 := by
  cases state : session.error with
  | some error =>
      have recorded := follows
      rw [McStreamDecoder.Follows, state] at recorded
      rw [feed_failed valid recorded.1, Session.feed, state]
      exact .inr ⟨rfl, follows⟩
  | none =>
      rw [McStreamDecoder.Follows, state] at follows
      obtain ⟨clean, rfl, rfl, buffer, offset, object⟩ := follows
      obtain ⟨failed, -⟩ | ⟨capacity, serial, run⟩ := feed_run valid clean
      · exact .inl failed
      · have sound := sound_buffering clean (offset ▸ saturatingAdd_le (Nat.zero_le _) _) object
          call.data.content capacity serial
        obtain ⟨⟨after, looped, failed⟩, -⟩ | finished :=
          Feeding.feedLoop_cases zlib heap sound accepted call.frameCapacity 0
        · rw [looped] at run
          left
          rw [feedPackets, run]
          exact failed
        · exact .inr (feed_follows state buffer offset run finished)

/-- With room for a packet and for the input, a call for one frame does what the
session does. -/
theorem feed_one (accepted : ¬ config.Refused) (valid : ¬ call.Invalid)
    (one : call.frameCapacity = 1) (state : session.error = none)
    (follows : decoder.Follows config threshold session)
    (output : max config.maxFrameSize config.maxDecompressedSize ≤ config.maxOutputSize)
    (input : decoder.buffer.length + call.data.size ≤ config.maxBufferedSize)
    (memory : ¬ heap.Refuses (max config.maxBufferedSize config.maxOutputSize)) :
    ((feedPackets zlib heap decoder call).1 =
        (session.feed (frameScanner zlib config threshold) call.data.content 1).1 ∧
      (feedPackets zlib heap decoder call).2.Follows config threshold
        (session.feed (frameScanner zlib config threshold) call.data.content 1).2) ∧
      ((session.feed (frameScanner zlib config threshold) call.data.content 1).2.error = none →
        (mcStreamDecoderFeed zlib heap decoder call).1.ok = true ∧
          (mcStreamDecoderFeed zlib heap decoder call).2.compressionTransitionReady =
            decide ((feedPackets zlib heap decoder call).1.length ≠ 0 ∧
              (feedPackets zlib heap decoder call).1.length = 1 ∧
              (feedPackets zlib heap decoder call).2.buffer.length ≠ 0)) := by
  rw [McStreamDecoder.Follows, state] at follows
  obtain ⟨clean, rfl, rfl, buffer, offset, object⟩ := follows
  have granted {maximum : Nat}
      (inside : maximum ≤ max decoder.config.maxBufferedSize decoder.config.maxOutputSize) :
      ¬ heap.Refuses maximum := by
    rintro ⟨serial, size, small, refused⟩
    exact memory ⟨serial, size, small.trans inside, refused⟩
  obtain ⟨-, overfed⟩ | ⟨capacity, serial, run⟩ := feed_run valid clean
  · obtain full | refused := overfed
    · omega
    · exact absurd refused (granted (Nat.le_max_left _ _))
  · have sound := sound_buffering clean (offset ▸ saturatingAdd_le (Nat.zero_le _) _) object
      call.data.content capacity serial
    have fed : ¬ (decoder.buffering call.data.content capacity serial).Starved heap := by
      rintro (full | refused)
      · simp only [McStreamDecoder.buffering, List.length_nil, Nat.zero_add] at full
        omega
      · exact granted (Nat.le_max_right _ _) refused
    have finished := Feeding.feedLoop_one zlib heap sound accepted fed 0
    rw [← one] at finished ⊢
    refine ⟨feed_follows state buffer offset run finished, fun clean => feed_clean run finished ?_⟩
    simp only [Session.feed, state, ← buffer] at clean
    exact clean

/-- What a sequence of calls is to the session: input and quota of each. -/
def FeedCall.plan (calls : List FeedCall) : List (List UInt8 × Nat) :=
  calls.map fun call => (call.data.content, call.frameCapacity)

theorem feedAll_failed {calls : List FeedCall} (valid : ∀ call ∈ calls, ¬ call.Invalid)
    (failed : decoder.failed = true) : feedAll zlib heap calls decoder = ([], decoder) := by
  induction calls with
  | nil => rfl
  | cons call calls ih =>
      obtain ⟨valid, rest⟩ := List.forall_mem_cons.mp valid
      simp only [feedAll, feed_failed valid failed, ih rest, List.nil_append]

/-- A sequence of calls does what the session does, or memory runs out. -/
theorem feedAll_cases (accepted : ¬ config.Refused) {calls : List FeedCall}
    (valid : ∀ call ∈ calls, ¬ call.Invalid) (follows : decoder.Follows config threshold session) :
    (feedAll zlib heap calls decoder).2.ResourceFailed ∨
      (feedAll zlib heap calls decoder).1 =
          (session.run (frameScanner zlib config threshold) (FeedCall.plan calls)).1 ∧
        (feedAll zlib heap calls decoder).2.Follows config threshold
          (session.run (frameScanner zlib config threshold) (FeedCall.plan calls)).2 := by
  induction calls generalizing decoder session with
  | nil => exact .inr ⟨rfl, follows⟩
  | cons call calls ih =>
      obtain ⟨valid, rest⟩ := List.forall_mem_cons.mp valid
      obtain failed | ⟨packets, follows⟩ := feed_cases accepted valid follows
      · left
        have stays : feedAll zlib heap calls (feedPackets zlib heap decoder call).2 =
            ([], (feedPackets zlib heap decoder call).2) :=
          feedAll_failed rest failed.1
        simp only [feedAll, stays]
        exact failed
      · obtain failed | ⟨more, follows⟩ := ih rest follows
        · exact .inl failed
        · refine .inr ⟨?_, follows⟩
          exact congrArg₂ (· ++ ·) packets more

end Calls

/-- A stream delivered: every byte fed, in feeds that make room for a frame, until one
produces no frame or the decoder fails. A failed decoder keeps its first error, so the
last one tells whether any feed ran out of memory. -/
structure Delivers (zlib : Zlib) (heap : Heap) (decoder : McStreamDecoder) (stream : List UInt8)
    (calls : List FeedCall) : Prop where
  valid : ∀ call ∈ calls, ¬ call.Invalid
  room : ∀ call ∈ calls, 1 ≤ call.frameCapacity
  whole : (calls.map fun call => call.data.content).flatten = stream
  exhausted : ∀ last ∈ calls.getLast?,
    (feedPackets zlib heap (feedAll zlib heap calls.dropLast decoder).2 last).1 = [] ∨
      (feedAll zlib heap calls decoder).2.failed = true
  resources : ¬ (feedAll zlib heap calls decoder).2.ResourceFailed

section Streams

variable {zlib : Zlib} {heap : Heap} {config : McStreamDecoderConfig} {threshold : Int}
  {decoder : McStreamDecoder} {stream : List UInt8} {calls : List FeedCall}

theorem feedAll_append (first second : List FeedCall) :
    feedAll zlib heap (first ++ second) decoder =
      ((feedAll zlib heap first decoder).1 ++
          (feedAll zlib heap second (feedAll zlib heap first decoder).2).1,
        (feedAll zlib heap second (feedAll zlib heap first decoder).2).2) := by
  induction first generalizing decoder with
  | nil => rfl
  | cons call first ih => simp only [List.cons_append, feedAll, ih, List.append_assoc]

theorem McStreamDecoder.Follows.failed {session : Session UInt8 StreamError}
    (follows : decoder.Follows config threshold session) (failed : decoder.failed = true) :
    session.error ≠ none := by
  intro clean
  rw [McStreamDecoder.Follows, clean, failed] at follows
  exact Bool.noConfusion follows.1

theorem Delivers.drained (accepted : ¬ config.Refused)
    (follows : decoder.Follows config threshold Session.fresh)
    (delivers : Delivers zlib heap decoder stream calls) :
    Session.Drained (frameScanner zlib config threshold)
      (Session.fresh.run (frameScanner zlib config threshold) (FeedCall.plan calls)).2 := by
  cases calls using List.reverseRecOn with
  | nil => exact fun _ => rfl
  | append_singleton before last _ =>
      have valid := List.forall_mem_append.mp delivers.valid
      have quiet := delivers.exhausted last (by simp)
      rw [List.dropLast_concat] at quiet
      obtain out | ⟨-, ran⟩ := feedAll_cases accepted delivers.valid follows
      · exact absurd out delivers.resources
      obtain quiet | failed := quiet
      · have final : (feedAll zlib heap (before ++ [last]) decoder).2 =
            (feedPackets zlib heap (feedAll zlib heap before decoder).2 last).2 := by
          rw [feedAll_append]
          rfl
        have resources := delivers.resources
        rw [final] at resources
        obtain out | ⟨-, ran⟩ :=
          (feedAll_cases accepted valid.1 follows :
            (feedAll zlib heap before decoder).2.ResourceFailed ∨ _)
        · rw [feed_failed (valid.2 last (List.mem_singleton_self last)) out.1] at resources
          exact absurd out resources
        · obtain out | ⟨same, -⟩ :=
            (feed_cases accepted (valid.2 last (List.mem_singleton_self last)) ran :
              (feedPackets zlib heap _ last).2.ResourceFailed ∨ _)
          · exact absurd out resources
          · have room := delivers.room last (by simp)
            rw [FeedCall.plan, List.map_append, Session.run_append]
            exact Session.drained_feed room (same.symm.trans quiet)
      · exact fun clean => absurd clean (ran.failed failed)

/-- A delivered stream is decoded as one pass over it does. -/
theorem Delivers.all (accepted : ¬ config.Refused)
    (follows : decoder.Follows config threshold Session.fresh)
    (delivers : Delivers zlib heap decoder stream calls) :
    ∃ session : Session UInt8 StreamError,
      (feedAll zlib heap calls decoder).2.Follows config threshold session ∧
        (frameScanner zlib config threshold).all stream =
          ⟨(feedAll zlib heap calls decoder).1, session.taken, session.error⟩ ∧
        (session.error = none → session.rest = stream.drop session.taken) := by
  obtain failed | ⟨packets, ran⟩ := feedAll_cases accepted delivers.valid follows
  · exact absurd failed delivers.resources
  · have input : ((FeedCall.plan calls).map Prod.fst).flatten = stream := by
      rw [← delivers.whole, FeedCall.plan, List.map_map]
      rfl
    have drained := delivers.drained accepted follows
    have whole := Session.run_drained drained
    rw [input] at whole
    refine ⟨_, ran, packets ▸ whole, ?_⟩
    intro clean
    have rest := Session.run_fresh_rest clean
    rwa [input] at rest

/-- How finishing a stream ends. -/
def finishError (session : Session UInt8 StreamError) : Option McError :=
  match session.error with
  | some error => some (rejection session.taken error)
  | none =>
      if session.rest.length = 0 then none
      else some (rejection session.taken (.partialInput, session.rest.length))

theorem finish_follows {session : Session UInt8 StreamError}
    (follows : decoder.Follows config threshold session) :
    (mcStreamDecoderFinish decoder).1 = finishError session := by
  cases state : session.error with
  | some error =>
      rw [McStreamDecoder.Follows, state] at follows
      simp only [mcStreamDecoderFinish, if_pos follows.1, finishError, state, follows.2]
  | none =>
      rw [McStreamDecoder.Follows, state] at follows
      obtain ⟨clean, -, -, buffer, offset, -⟩ := follows
      simp only [mcStreamDecoderFinish, finishError, state, clean, buffer, McStreamDecoder.fail,
        McStreamDecoder.absoluteOffset, offset, saturatingAdd_assoc, rejection]
      by_cases drained : session.rest.length = 0
      · simp [drained]
      · simp [drained]

/-- A decoder as created, under an accepted threshold. -/
theorem follows_fresh {config : Option McStreamDecoderConfig}
    (created : mcStreamDecoderCreate config true = .ok decoder)
    (set : (mcStreamDecoderSetCompression decoder threshold).1 = none) :
    ¬ (config.getD mcStreamDecoderConfigInit).Refused ∧
      (mcStreamDecoderSetCompression decoder threshold).2.Follows
        (config.getD mcStreamDecoderConfigInit) threshold Session.fresh := by
  simp only [mcStreamDecoderCreate] at created
  split_ifs at created with refused
  · cases created
    refine ⟨refused, ?_⟩
    by_cases low : threshold < -1
    · simp only [mcStreamDecoderSetCompression, if_pos low] at set
      cases set
    · simp only [mcStreamDecoderSetCompression, if_neg low, Bool.false_eq_true, if_false,
        List.length_nil, ne_eq, not_true_eq_false, false_and]
      exact ⟨rfl, rfl, rfl, rfl, rfl, Nat.zero_le _⟩

/-- However a stream is cut into feeds, the decoder returns the same packets and ends
the same way: with success, or with one error code at one absolute offset. -/
theorem fragmentation_independent (zlib : Zlib) (config : Option McStreamDecoderConfig)
    (threshold : Int) (stream : List UInt8) (created : mcStreamDecoderCreate config true = .ok decoder)
    (set : (mcStreamDecoderSetCompression decoder threshold).1 = none) {heap₁ heap₂ : Heap}
    {calls₁ calls₂ : List FeedCall}
    (first : Delivers zlib heap₁ (mcStreamDecoderSetCompression decoder threshold).2 stream calls₁)
    (second : Delivers zlib heap₂ (mcStreamDecoderSetCompression decoder threshold).2 stream
      calls₂) :
    let decoder := (mcStreamDecoderSetCompression decoder threshold).2
    (feedAll zlib heap₁ calls₁ decoder).1 = (feedAll zlib heap₂ calls₂ decoder).1 ∧
      (mcStreamDecoderFinish (feedAll zlib heap₁ calls₁ decoder).2).1 =
        (mcStreamDecoderFinish (feedAll zlib heap₂ calls₂ decoder).2).1 := by
  obtain ⟨accepted, follows⟩ := follows_fresh created set
  obtain ⟨left, followsLeft, wholeLeft, restLeft⟩ := first.all accepted follows
  obtain ⟨right, followsRight, wholeRight, restRight⟩ := second.all accepted follows
  have same := wholeLeft.symm.trans wholeRight
  have packets := congrArg Outcome.frames same
  have taken : left.taken = right.taken := congrArg Outcome.taken same
  have error : left.error = right.error := congrArg Outcome.error same
  refine ⟨packets, ?_⟩
  rw [finish_follows followsLeft, finish_follows followsRight, finishError, finishError, ← error,
    ← taken]
  cases state : left.error with
  | some error => rfl
  | none =>
      rw [restLeft state, restRight (error ▸ state), taken]

end Streams

def feedOf (data : List UInt8) (frameCapacity : Nat) : FeedCall :=
  ⟨data, frameCapacity, false, false⟩

/-- A compressed packet, fed at once and byte by byte. -/
theorem fragmentation_independent_compressed :
    let zlib := Zlib.knowing [7, 42] [120, 156, 99, 215, 2, 0, 0, 58, 0, 50]
    let stream := [11, 2, 120, 156, 99, 215, 2, 0, 0, 58, 0, 50]
    let decoder := (mcStreamDecoderSetCompression
      ((mcStreamDecoderCreate none true).toOption.get (by decide)) 2).2
    let whole := feedAll zlib .ample [feedOf stream 4, feedOf [] 4] decoder
    let bytewise := feedAll zlib .ample
      (stream.map (fun byte => feedOf [byte] 1) ++ [feedOf [] 1]) decoder
    whole.1 = [⟨7, [42], true⟩] ∧ whole.1 = bytewise.1 ∧
      (mcStreamDecoderFinish whole.2).1 = (mcStreamDecoderFinish bytewise.2).1 := by
  intro zlib stream decoder whole bytewise
  refine ⟨by decide +kernel, fragmentation_independent zlib none 2 stream rfl rfl ?_ ?_⟩
  · exact ⟨by decide, by decide, by decide, by decide +kernel, by decide +kernel⟩
  · exact ⟨by decide, by decide, by decide, by decide +kernel, by decide +kernel⟩

end McProtocol
