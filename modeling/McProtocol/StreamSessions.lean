import McProtocol.StreamRuns

/-! # Sessions of the stream decoder

A session ends with the first failure: whatever is called after it is refused with the
same error. Reset begins another one, of which nothing the old session left behind can
be told.
-/

namespace McProtocol

/-- The answer of a call that returns no frames. -/
def answerOf (error : Option McError) : FeedResult :=
  ⟨error.isNone, [], error.getD mcErrorClear⟩

def StreamCall.answer (zlib : Zlib) (decoder : McStreamDecoder) : StreamCall → FeedResult
  | .feed heap call => (mcStreamDecoderFeed zlib heap decoder call).1
  | .setCompression threshold => answerOf (mcStreamDecoderSetCompression decoder threshold).1
  | .finish => answerOf (mcStreamDecoderFinish decoder).1
  | .reset => answerOf none

/-- The decoder that calls made one after another leave. -/
def StreamCall.run (zlib : Zlib) (calls : List StreamCall) (decoder : McStreamDecoder) :
    McStreamDecoder :=
  calls.foldl (StreamCall.perform zlib) decoder

/-- A call that works on the stream. -/
def StreamCall.Decodes : StreamCall → Prop
  | .feed _ _ => True
  | .finish => True
  | .setCompression _ => False
  | .reset => False

/-- A call that begins no other session, with a threshold there is. -/
def StreamCall.Continues : StreamCall → Prop
  | .feed _ _ => True
  | .finish => True
  | .setCompression threshold => -1 ≤ threshold
  | .reset => False

section Failure

variable {zlib : Zlib} {decoder : McStreamDecoder}

theorem McStreamDecoder.fail_failed (failed : decoder.failed = true) (code : McErrorCode)
    (offset : Nat) : decoder.fail code offset = decoder := if_pos failed

theorem McStreamDecoder.fail_fails (code : McErrorCode) (offset : Nat) :
    (decoder.fail code offset).failed = true := by
  unfold McStreamDecoder.fail
  split_ifs with failed
  · exact failed
  · rfl

/-- A failed decoder answers every call with its error, and stays as it is. -/
theorem StreamCall.failed_answer (failed : decoder.failed = true) {call : StreamCall}
    (continues : call.Continues) :
    call.answer zlib decoder = ⟨false, [], decoder.lastError⟩ ∧
      call.perform zlib decoder = decoder := by
  cases call with
  | feed heap call =>
      have refused : mcStreamDecoderFeed zlib heap decoder call = feedFailed [] decoder := by
        unfold mcStreamDecoderFeed
        dsimp only
        rw [McStreamDecoder.fail_failed failed, if_pos failed, ite_self]
      exact ⟨congrArg Prod.fst refused, congrArg Prod.snd refused⟩
  | setCompression threshold =>
      have accepted : ¬ threshold < -1 := Int.not_lt.mpr continues
      have refused : mcStreamDecoderSetCompression decoder threshold =
          (some decoder.lastError, decoder) := by
        unfold mcStreamDecoderSetCompression
        rw [if_neg accepted, if_pos failed]
      simp only [answer, perform, refused, answerOf, Option.isNone_some, Option.getD_some,
        and_self]
  | finish =>
      have refused : mcStreamDecoderFinish decoder = (some decoder.lastError, decoder) :=
        if_pos failed
      simp only [answer, perform, refused, answerOf, Option.isNone_some, Option.getD_some,
        and_self]
  | reset => exact continues.elim

theorem StreamCall.failed_run (failed : decoder.failed = true) {calls : List StreamCall}
    (continuing : ∀ call ∈ calls, call.Continues) : run zlib calls decoder = decoder := by
  induction calls with
  | nil => rfl
  | cons call calls ih =>
      obtain ⟨first, rest⟩ := List.forall_mem_cons.mp continuing
      have same : run zlib calls (call.perform zlib decoder) = run zlib calls decoder := by
        rw [(failed_answer failed first).2]
      exact same.trans (ih rest)

/-- The loop of a feed refuses nothing without a failure on record. -/
theorem McStreamDecoder.Bounded.feedLoop_refused (bounded : decoder.Bounded)
    (clean : decoder.failed = false) {heap : Heap} {data : List UInt8}
    {capacity serial quota : Nat} {after : Feeding}
    (refused : feedLoop zlib heap quota 0 (decoder.buffering data capacity serial) = (none, after)) :
    after.decoder.failed = true := by
  have sound := sound_buffering clean bounded.offset_le bounded.object data capacity serial
  obtain ⟨⟨out, ran, failed, -⟩, -⟩ | ⟨-, ended⟩ :=
    Feeding.feedLoop_cases zlib heap sound bounded.accepted quota 0
  · cases refused.symm.trans ran
    exact failed
  · rw [refused] at ended
    split at ended
    · exact nomatch ended.1
    · exact ended.2.1

/-- A refused feed returns the error on record. -/
theorem feed_error {heap : Heap} {call : FeedCall}
    (refused : (mcStreamDecoderFeed zlib heap decoder call).1.ok = false) :
    (mcStreamDecoderFeed zlib heap decoder call).2.lastError =
      (mcStreamDecoderFeed zlib heap decoder call).1.error := by
  unfold mcStreamDecoderFeed at refused ⊢
  dsimp only [feedFailed] at refused ⊢
  split_ifs at refused ⊢ with invalid failed limited
  · rfl
  · rfl
  · rfl
  · cases reserved : streamReserve heap
        { decoder with compressionTransitionReady := false, output := [] }
        (decoder.buffer.length + call.data.size) with | mk held reserving
    rw [reserved] at refused
    cases held with
    | false => rfl
    | true =>
        dsimp only at refused ⊢
        cases looped : feedLoop zlib heap call.frameCapacity 0
            ⟨{ reserving with buffer := reserving.buffer ++ call.data.content }, []⟩
          with | mk ended feeding
        rw [looped] at refused
        cases ended with
        | none => rfl
        | some done => cases refused

theorem McStreamDecoder.Bounded.feed_refused (bounded : decoder.Bounded)
    {heap : Heap} {call : FeedCall}
    (refused : (mcStreamDecoderFeed zlib heap decoder call).1.ok = false) :
    (mcStreamDecoderFeed zlib heap decoder call).2.failed = true := by
  cases failed : decoder.failed with
  | true =>
      have stays : (mcStreamDecoderFeed zlib heap decoder call).2 = decoder :=
        (StreamCall.failed_answer failed (show (StreamCall.feed heap call).Continues from trivial)).2
      rw [stays]
      exact failed
  | false =>
      by_cases invalid : call.Invalid
      · simp only [mcStreamDecoderFeed, if_pos invalid]
        exact McStreamDecoder.fail_fails _ _
      · obtain ⟨failed, -⟩ | ⟨capacity, serial, run⟩ := feed_run invalid failed
        · exact failed.1
        · rw [run] at refused ⊢
          cases looped : feedLoop zlib heap call.frameCapacity 0
              (decoder.buffering call.data.content capacity serial) with | mk ended feeding
          rw [looped] at refused
          cases ended with
          | none => exact bounded.feedLoop_refused failed looped
          | some done => cases refused

/-- A call that is refused leaves its error on record. -/
theorem StreamCall.refused_failed (bounded : decoder.Bounded) {call : StreamCall}
    (decodes : call.Decodes) (refused : (call.answer zlib decoder).ok = false) :
    (call.perform zlib decoder).failed = true ∧
      (call.perform zlib decoder).lastError = (call.answer zlib decoder).error := by
  cases call with
  | feed heap call => exact ⟨bounded.feed_refused refused, feed_error refused⟩
  | setCompression threshold => exact decodes.elim
  | finish =>
      simp only [answer, perform, mcStreamDecoderFinish] at refused ⊢
      split_ifs at refused ⊢ with failed buffered
      · exact ⟨failed, rfl⟩
      · exact ⟨McStreamDecoder.fail_fails _ _, rfl⟩
      · cases refused
  | reset => exact decodes.elim

end Failure

/-- Once a feed or a finish is refused, every call until reset is refused with that very
error and returns no frame, and neither the buffered input nor the threshold changes. -/
theorem streamDecoder_failure_terminal (zlib : Zlib) {decoder : McStreamDecoder}
    (reachable : decoder.Reachable zlib) {first : StreamCall} (decodes : first.Decodes)
    (refused : (first.answer zlib decoder).ok = false) {later : List StreamCall}
    (continuing : ∀ call ∈ later, call.Continues) :
    let failed := first.perform zlib decoder
    let after := StreamCall.run zlib later failed
    (∀ call : StreamCall, call.Continues →
        call.answer zlib after = ⟨false, [], (first.answer zlib decoder).error⟩) ∧
      mcStreamDecoderBufferedSize after = mcStreamDecoderBufferedSize failed ∧
      after.compressionThreshold = failed.compressionThreshold := by
  intro failed after
  obtain ⟨recorded, error⟩ := StreamCall.refused_failed reachable.bounded decodes refused
  have stays : after = failed := StreamCall.failed_run recorded continuing
  rw [stays, ← error]
  exact ⟨fun call continues => (StreamCall.failed_answer recorded continues).1, rfl, rfl⟩

/-- A second frame of length zero, behind a frame that is emitted. -/
theorem streamDecoder_failure_terminal_length :
    let zlib := Zlib.knowing [] []
    let created := (mcStreamDecoderCreate none true).toOption.get (by decide)
    let first := StreamCall.feed .ample (feedOf [1, 42, 0, 7] 4)
    let later := [.finish, .setCompression 256, .feed .ample (feedOf [1, 2] 1)]
    let after := StreamCall.run zlib later (first.perform zlib created)
    (first.answer zlib created).frames.length = 1 ∧
      StreamCall.finish.answer zlib after = ⟨false, [], (first.answer zlib created).error⟩ := by
  intro zlib created first later after
  have accepted : mcStreamDecoderCreate none true = .ok created := rfl
  have refused : (first.answer zlib created).ok = false := by decide +kernel
  have continuing : ∀ call ∈ later, call.Continues := by
    simp [later, StreamCall.Continues]
  exact ⟨by decide +kernel,
    (streamDecoder_failure_terminal zlib (.create accepted) (show first.Decodes from trivial) refused
      continuing).1 .finish trivial⟩

/-- What a decoder holds of memory: nothing a caller sees depends on it. -/
structure DecoderMemory where
  bufferCapacity : Nat
  outputCapacity : Nat
  arena : Nat
  serial : Nat
  deriving Repr, DecidableEq

def McStreamDecoder.memory (decoder : McStreamDecoder) : DecoderMemory :=
  ⟨decoder.bufferCapacity, decoder.outputCapacity, decoder.arena, decoder.serial⟩

def McStreamDecoder.moveTo (decoder : McStreamDecoder) (memory : DecoderMemory) :
    McStreamDecoder :=
  { decoder with
    bufferCapacity := memory.bufferCapacity
    outputCapacity := memory.outputCapacity
    arena := memory.arena
    serial := memory.serial }

/-- Refused memory, by the input buffer or by the arena. -/
def McStreamDecoder.OutOfMemory (decoder : McStreamDecoder) : Prop :=
  decoder.failed = true ∧ decoder.lastError.code = .outOfMemory

instance : DecidablePred McStreamDecoder.OutOfMemory :=
  fun _ => inferInstanceAs (Decidable (_ ∧ _))

namespace McStreamDecoder

variable {decoder : McStreamDecoder}

@[simp] theorem moveTo_moveTo (first second : DecoderMemory) :
    (decoder.moveTo first).moveTo second = decoder.moveTo second := rfl

theorem moveTo_fail (memory : DecoderMemory) (code : McErrorCode) (offset : Nat) :
    (decoder.moveTo memory).fail code offset = (decoder.fail code offset).moveTo memory := by
  unfold fail
  split_ifs with there here here
  · rfl
  · exact absurd there here
  · exact absurd here there
  · rfl

theorem moveTo_consume (memory : DecoderMemory) (consumed : Nat) :
    (decoder.moveTo memory).consume consumed = (decoder.consume consumed).moveTo memory := by
  unfold consume
  split_ifs <;> rfl

theorem moveTo_setCompression (memory : DecoderMemory) (threshold : Int) :
    mcStreamDecoderSetCompression (decoder.moveTo memory) threshold =
      ((mcStreamDecoderSetCompression decoder threshold).1,
        (mcStreamDecoderSetCompression decoder threshold).2.moveTo memory) := by
  by_cases low : threshold < -1
  · simp only [mcStreamDecoderSetCompression, if_pos low]
    rfl
  by_cases failed : decoder.failed = true
  · have moved : (decoder.moveTo memory).failed = true := failed
    simp only [mcStreamDecoderSetCompression, if_neg low, if_pos failed, if_pos moved]
    rfl
  have running : ¬ (decoder.moveTo memory).failed = true := failed
  by_cases pending : decoder.buffer.length ≠ 0 ∧ decoder.compressionTransitionReady = false
  · have moved : (decoder.moveTo memory).buffer.length ≠ 0 ∧
        (decoder.moveTo memory).compressionTransitionReady = false := pending
    simp only [mcStreamDecoderSetCompression, if_neg low, if_neg failed, if_neg running,
      if_pos pending, if_pos moved]
    rfl
  · have moved : ¬ ((decoder.moveTo memory).buffer.length ≠ 0 ∧
        (decoder.moveTo memory).compressionTransitionReady = false) := pending
    simp only [mcStreamDecoderSetCompression, if_neg low, if_neg failed, if_neg running,
      if_neg pending, if_neg moved]
    rfl

theorem moveTo_finish (memory : DecoderMemory) :
    mcStreamDecoderFinish (decoder.moveTo memory) =
      ((mcStreamDecoderFinish decoder).1, (mcStreamDecoderFinish decoder).2.moveTo memory) := by
  by_cases failed : decoder.failed = true
  · have moved : (decoder.moveTo memory).failed = true := failed
    simp only [mcStreamDecoderFinish, if_pos failed, if_pos moved]
    rfl
  have running : ¬ (decoder.moveTo memory).failed = true := failed
  by_cases buffered : decoder.buffer.length ≠ 0
  · have moved : (decoder.moveTo memory).buffer.length ≠ 0 := buffered
    simp only [mcStreamDecoderFinish, if_neg failed, if_neg running, if_pos buffered,
      if_pos moved, moveTo_fail]
    rfl
  · have moved : ¬ (decoder.moveTo memory).buffer.length ≠ 0 := buffered
    simp only [mcStreamDecoderFinish, if_neg failed, if_neg running, if_neg buffered,
      if_neg moved]

theorem fail_outOfMemory (clean : decoder.failed = false) (offset : Nat) :
    (decoder.fail .outOfMemory offset).OutOfMemory := by
  rw [fail, clean]
  exact ⟨rfl, rfl⟩

end McStreamDecoder

def McDecodedFrame.moveTo (frame : McDecodedFrame) (arena : Nat) : McDecodedFrame :=
  { frame with payload := { frame.payload with arena } }

namespace Feeding

def moveTo (feeding : Feeding) (memory : DecoderMemory) : Feeding :=
  ⟨feeding.decoder.moveTo memory, feeding.frames.map fun frame => frame.moveTo memory.arena⟩

/-- Every frame of the feed lies in the arena of the decoder. -/
def Lodged (feeding : Feeding) : Prop :=
  ∀ frame ∈ feeding.frames, frame.payload.arena = feeding.decoder.arena

variable {feeding : Feeding}

theorem moveTo_again (first second : DecoderMemory) :
    (feeding.moveTo first).moveTo second = feeding.moveTo second := by
  simp only [moveTo, List.map_map, McStreamDecoder.moveTo_moveTo]
  rfl

theorem lodged_moveTo (memory : DecoderMemory) : (feeding.moveTo memory).Lodged := by
  intro frame moved
  obtain ⟨frame, -, rfl⟩ := List.mem_map.mp moved
  rfl

/-- A feed that stays where it is. -/
theorem Lodged.moveTo_memory (lodged : feeding.Lodged) :
    feeding.moveTo feeding.decoder.memory = feeding := by
  have stay : feeding.frames.map (fun frame => frame.moveTo feeding.decoder.arena) =
      feeding.frames := by
    refine (List.map_congr_left fun frame shown => ?_).trans (List.map_id _)
    simp only [McDecodedFrame.moveTo, ← lodged frame shown, id]
  simp only [moveTo, McStreamDecoder.memory, stay]
  rfl

/-- The packets do not tell where they lie. -/
theorem Lodged.packets_moveTo (lodged : feeding.Lodged) (memory : DecoderMemory) :
    (feeding.moveTo memory).packets = feeding.packets := by
  simp only [packets, moveTo, List.map_map]
  refine List.map_congr_left fun frame shown => ?_
  have home : frame.payload.arena = feeding.decoder.arena := lodged frame shown
  simp only [Function.comp_apply, McDecodedFrame.moveTo, McStreamDecoder.bytes,
    McStreamDecoder.moveTo, home, if_true]

/-- Between two frames: nothing failed, and the frames are where the arena is. -/
structure Settled (feeding : Feeding) : Prop where
  clean : feeding.decoder.failed = false
  lodged : feeding.Lodged

def RunsOut (ended : Option Unit × Feeding) : Prop :=
  ended.1 = none ∧ ended.2.decoder.OutOfMemory

/-- The two steps end alike on feeds that differ in their memory alone, unless one of
them is refused memory. -/
def Twins (left right : FeedM Unit) (feeding : Feeding) : Prop :=
  ∀ memory, RunsOut (left feeding) ∨ RunsOut (right (feeding.moveTo memory)) ∨
    (∃ moved, right (feeding.moveTo memory) = ((left feeding).1, (left feeding).2.moveTo moved)) ∧
      (left feeding).2.Lodged ∧ ((left feeding).1 = some () → (left feeding).2.decoder.failed = false)

theorem settled_moveTo (settled : feeding.Settled) (memory : DecoderMemory) :
    (feeding.moveTo memory).Settled :=
  ⟨settled.clean, lodged_moveTo memory⟩

/-- Which way the steps go is told by the limits and the threshold. -/
theorem Twins.congr {left right leftWay rightWay : FeedM Unit}
    (twins : Twins leftWay rightWay feeding)
    (ways : ∀ other : Feeding, other.decoder.config = feeding.decoder.config →
      other.decoder.compressionThreshold = feeding.decoder.compressionThreshold →
      left other = leftWay other ∧ right other = rightWay other) : Twins left right feeding := by
  intro memory
  rw [(ways feeding rfl rfl).1, (ways (feeding.moveTo memory) rfl rfl).2]
  exact twins memory

theorem twins_fail (lodged : feeding.Lodged) (code : McErrorCode) (offset : Nat) :
    Twins (streamFail code offset) (streamFail code offset) feeding := by
  intro memory
  have kept : (feeding.decoder.fail code offset).arena = feeding.decoder.arena := by
    unfold McStreamDecoder.fail
    split_ifs <;> rfl
  refine .inr (.inr ⟨⟨memory, ?_⟩, ?_, nofun⟩)
  · simp only [streamFail, moveTo, McStreamDecoder.moveTo_fail]
  · intro frame shown
    exact (lodged frame shown).trans kept.symm

theorem Twins.bind {left right : FeedM Unit} {leftRest rightRest : Unit → FeedM Unit}
    (twins : Twins left right feeding)
    (rest : ∀ after : Feeding, after.Settled →
      after.decoder.config = (left feeding).2.decoder.config →
      Twins (leftRest ()) (rightRest ()) after) :
    Twins (left >>= leftRest) (right >>= rightRest) feeding := by
  intro memory
  obtain ⟨refused, out⟩ | ⟨refused, out⟩ | ⟨⟨moved, same⟩, lodged, clean⟩ := twins memory
  · have stops : (left >>= leftRest) feeding = (none, (left feeding).2) :=
      Prog.bind_none (Prod.ext refused rfl)
    rw [stops]
    exact .inl ⟨rfl, out⟩
  · have stops : (right >>= rightRest) (feeding.moveTo memory) =
        (none, (right (feeding.moveTo memory)).2) :=
      Prog.bind_none (Prod.ext refused rfl)
    rw [stops]
    exact .inr (.inl ⟨rfl, out⟩)
  · rcases ran : left feeding with ⟨_ | u, after⟩
    · rw [ran] at same lodged
      rw [Prog.bind_none ran, Prog.bind_none same]
      exact .inr (.inr ⟨⟨moved, rfl⟩, lodged, nofun⟩)
    · rw [ran] at same lodged clean rest
      rw [Prog.bind_some ran, Prog.bind_some same]
      exact rest after ⟨clean rfl, lodged⟩ rfl moved

/-- A reservation of output moves the feed, or does not succeed. -/
theorem reserveOutput_moves (heap : Heap) (needed : Nat) (lodged : feeding.Lodged) :
    ∃ memory, streamReserveOutput heap needed feeding = (some (), feeding.moveTo memory) ∨
      streamReserveOutput heap needed feeding = (none, feeding.moveTo memory) := by
  unfold streamReserveOutput
  dsimp only
  split_ifs with limited enough granted
  · exact ⟨feeding.decoder.memory, .inr (by rw [lodged.moveTo_memory])⟩
  · exact ⟨feeding.decoder.memory, .inl (by rw [lodged.moveTo_memory])⟩
  · exact ⟨⟨feeding.decoder.bufferCapacity, _, feeding.decoder.serial + 1, _⟩, .inl rfl⟩
  · refine ⟨{ feeding.decoder.memory with serial := feeding.decoder.serial + 1 }, .inr ?_⟩
    have stay := congrArg Feeding.frames lodged.moveTo_memory
    simp only [moveTo, McStreamDecoder.memory] at stay ⊢
    rw [stay]
    rfl

/-- Room for a packet is made by moving the feed, or memory runs out. -/
theorem emitRoom_moves (heap : Heap) {packetSize : Nat} (packetOffset : Nat)
    (settled : feeding.Settled)
    (fits : ¬ sizeMax - feeding.decoder.output.length < packetSize)
    (possible : ¬ feeding.decoder.config.maxOutputSize <
      feeding.decoder.output.length + packetSize) :
    RunsOut (streamEmitRoom heap packetSize packetOffset feeding) ∨
      ∃ memory, streamEmitRoom heap packetSize packetOffset feeding =
        (some (), feeding.moveTo memory) := by
  obtain ⟨memory, reserved | refused⟩ := reserveOutput_moves heap
    (feeding.decoder.output.length + packetSize) settled.lodged
  · refine .inr ⟨memory, ?_⟩
    simp only [streamEmitRoom, if_neg fits, if_neg possible, reserved]
  · left
    simp only [streamEmitRoom, if_neg fits, if_neg possible, refused, streamFail]
    exact ⟨rfl, McStreamDecoder.fail_outOfMemory (settled_moveTo settled memory).clean _⟩

theorem emitRoom_twins (leftHeap rightHeap : Heap) (packetSize packetOffset : Nat)
    (settled : feeding.Settled) :
    Twins (streamEmitRoom leftHeap packetSize packetOffset)
      (streamEmitRoom rightHeap packetSize packetOffset) feeding := by
  by_cases wraps : sizeMax - feeding.decoder.output.length < packetSize
  · intro memory
    have left : streamEmitRoom leftHeap packetSize packetOffset feeding =
        streamFail .integerOverflow packetOffset feeding := if_pos wraps
    have right : streamEmitRoom rightHeap packetSize packetOffset (feeding.moveTo memory) =
        streamFail .integerOverflow packetOffset (feeding.moveTo memory) := if_pos wraps
    rw [left, right]
    exact twins_fail settled.lodged _ _ memory
  by_cases limited : feeding.decoder.config.maxOutputSize <
      feeding.decoder.output.length + packetSize
  · intro memory
    have left : streamEmitRoom leftHeap packetSize packetOffset feeding =
        streamFail .bufferLimit packetOffset feeding := (if_neg wraps).trans (if_pos limited)
    have right : streamEmitRoom rightHeap packetSize packetOffset (feeding.moveTo memory) =
        streamFail .bufferLimit packetOffset (feeding.moveTo memory) :=
      (if_neg wraps).trans (if_pos limited)
    rw [left, right]
    exact twins_fail settled.lodged _ _ memory
  intro memory
  obtain out | ⟨first, left⟩ := emitRoom_moves leftHeap packetOffset settled wraps limited
  · exact .inl out
  obtain out | ⟨second, right⟩ := emitRoom_moves rightHeap packetOffset
    (settled_moveTo settled memory) wraps limited
  · exact .inr (.inl out)
  · rw [left, right, moveTo_again]
    refine .inr (.inr ⟨⟨second, ?_⟩, lodged_moveTo first, fun _ => settled.clean⟩)
    rw [moveTo_again]

theorem finishPacket_twins (packet : List UInt8) (compressed : Bool) (packetOffset : Nat)
    (settled : feeding.Settled) :
    Twins (streamFinishPacket packet compressed packetOffset)
      (streamFinishPacket packet compressed packetOffset) feeding := by
  have fails (code : McErrorCode) (offset : Nat)
      (way : ∀ other : Feeding, other.decoder.config = feeding.decoder.config →
        streamFinishPacket packet compressed packetOffset other = streamFail code offset other) :
      Twins (streamFinishPacket packet compressed packetOffset)
        (streamFinishPacket packet compressed packetOffset) feeding :=
    (twins_fail settled.lodged code offset).congr fun other same _ =>
      ⟨way other same, way other same⟩
  by_cases empty : packet.length = 0
  · exact fails _ _ fun other _ => if_pos empty
  cases read : streamVarint packet feeding.decoder.config.mode with
  | partialInput =>
      refine fails .invalidPacketBody (saturatingAdd packetOffset 0) fun other same => ?_
      simp only [streamFinishPacket, if_neg empty, same, read]
  | invalid code offset =>
      refine fails code (saturatingAdd packetOffset offset) fun other same => ?_
      simp only [streamFinishPacket, if_neg empty, same, read]
  | complete packetId idSize =>
      by_cases negative : packetId < 0
      · refine fails .invalidPacketBody (saturatingAdd packetOffset 0) fun other same => ?_
        simp only [streamFinishPacket, if_neg empty, same, read, if_pos negative]
      · intro memory
        have moved : streamVarint packet (feeding.moveTo memory).decoder.config.mode =
            .complete packetId idSize := read
        simp only [streamFinishPacket, if_neg empty, read, moved, if_neg negative]
        refine .inr (.inr ⟨⟨memory, ?_⟩, ?_, fun _ => settled.clean⟩)
        · simp only [moveTo, List.map_append]
          rfl
        · intro frame shown
          obtain earlier | last := List.mem_append.mp shown
          · exact settled.lodged frame earlier
          · rw [List.mem_singleton.mp last]

theorem emitUncompressed_twins (leftHeap rightHeap : Heap) (packet : List UInt8)
    (compressed : Bool) (packetOffset : Nat) (settled : feeding.Settled) :
    Twins (streamEmitUncompressed leftHeap packet compressed packetOffset)
      (streamEmitUncompressed rightHeap packet compressed packetOffset) feeding :=
  (emitRoom_twins leftHeap rightHeap _ _ settled).bind
    fun _ settled _ => finishPacket_twins packet compressed packetOffset settled

theorem emitCompressed_twins (zlib : Zlib) (leftHeap rightHeap : Heap) (compressed : List UInt8)
    (declaredSize packetOffset : Nat) (settled : feeding.Settled) :
    Twins (streamEmitCompressed zlib leftHeap compressed declaredSize packetOffset)
      (streamEmitCompressed zlib rightHeap compressed declaredSize packetOffset) feeding := by
  unfold streamEmitCompressed
  split_ifs with large
  · exact twins_fail settled.lodged _ _
  · refine (emitRoom_twins leftHeap rightHeap _ _ settled).bind fun after settled _ => ?_
    cases zlib.inflateOnce compressed declaredSize with
    | none => exact twins_fail settled.lodged _ _
    | some step =>
        by_cases short : step.status ≠ .streamEnd ∨ step.output.length ≠ declaredSize ∨
            after.decoder.config.mode = .strict ∧ step.rest.length ≠ 0
        · refine (twins_fail settled.lodged .zlib packetOffset).congr fun other same _ => ?_
          rw [← same] at short
          exact ⟨if_pos short, if_pos short⟩
        · refine (finishPacket_twins step.output true packetOffset settled).congr
            fun other same _ => ?_
          rw [← same] at short
          exact ⟨if_neg short, if_neg short⟩

theorem decodeFrame_twins (zlib : Zlib) (leftHeap rightHeap : Heap) (frame : List UInt8)
    (frameOffset : Nat) (settled : feeding.Settled) :
    Twins (streamDecodeFrame zlib leftHeap frame frameOffset)
      (streamDecodeFrame zlib rightHeap frame frameOffset) feeding := by
  have fails (code : McErrorCode) (offset : Nat)
      (way : ∀ (heap : Heap) (other : Feeding), other.decoder.config = feeding.decoder.config →
        other.decoder.compressionThreshold = feeding.decoder.compressionThreshold →
        streamDecodeFrame zlib heap frame frameOffset other = streamFail code offset other) :
      Twins (streamDecodeFrame zlib leftHeap frame frameOffset)
        (streamDecodeFrame zlib rightHeap frame frameOffset) feeding :=
    (twins_fail settled.lodged code offset).congr fun other same threshold =>
      ⟨way leftHeap other same threshold, way rightHeap other same threshold⟩
  by_cases bare : feeding.decoder.compressionThreshold < 0
  · refine (emitUncompressed_twins leftHeap rightHeap frame false frameOffset settled).congr
      fun other same threshold => ?_
    rw [← threshold] at bare
    exact ⟨if_pos bare, if_pos bare⟩
  cases read : streamVarint frame feeding.decoder.config.mode with
  | partialInput =>
      refine fails .compressionHeader (saturatingAdd frameOffset 0)
        fun heap other same threshold => ?_
      simp only [streamDecodeFrame, threshold, if_neg bare, same, read]
  | invalid code offset =>
      refine fails code (saturatingAdd frameOffset offset) fun heap other same threshold => ?_
      simp only [streamDecodeFrame, threshold, if_neg bare, same, read]
  | complete declared headerSize =>
      by_cases negative : declared < 0
      · refine fails .compressionHeader (saturatingAdd frameOffset 0)
          fun heap other same threshold => ?_
        simp only [streamDecodeFrame, threshold, if_neg bare, same, read, if_pos negative]
      by_cases stored : declared = 0
      · by_cases long : feeding.decoder.config.mode = .strict ∧
            feeding.decoder.compressionThreshold ≤ (frame.drop headerSize).length
        · refine fails .compressionThreshold frameOffset fun heap other same threshold => ?_
          simp only [streamDecodeFrame, threshold, if_neg bare, same, read, if_neg negative,
            if_pos stored, if_pos long]
        · refine (emitUncompressed_twins leftHeap rightHeap (frame.drop headerSize) false
            (saturatingAdd frameOffset headerSize) settled).congr fun other same threshold => ?_
          simp only [streamDecodeFrame, threshold, if_neg bare, same, read, if_neg negative,
            if_pos stored, if_neg long, and_self]
      by_cases large : feeding.decoder.config.maxDecompressedSize < declared.toNat
      · refine fails .decompressedTooLarge frameOffset fun heap other same threshold => ?_
        simp only [streamDecodeFrame, threshold, if_neg bare, same, read, if_neg negative,
          if_neg stored, if_pos large]
      by_cases small : feeding.decoder.config.mode = .strict ∧
          declared < feeding.decoder.compressionThreshold
      · refine fails .compressionThreshold frameOffset fun heap other same threshold => ?_
        simp only [streamDecodeFrame, threshold, if_neg bare, same, read, if_neg negative,
          if_neg stored, if_neg large, if_pos small]
      · refine (emitCompressed_twins zlib leftHeap rightHeap (frame.drop headerSize) declared.toNat
          (saturatingAdd frameOffset headerSize) settled).congr fun other same threshold => ?_
        simp only [streamDecodeFrame, threshold, if_neg bare, same, read, if_neg negative,
          if_neg stored, if_neg large, if_neg small, and_self]

theorem moveTo_consumed (memory : DecoderMemory) (consumed : Nat) :
    Feeding.mk ((feeding.moveTo memory).decoder.consume consumed) (feeding.moveTo memory).frames =
      (Feeding.mk (feeding.decoder.consume consumed) feeding.frames).moveTo memory := by
  simp only [moveTo, McStreamDecoder.moveTo_consume]

theorem lodged_consume (lodged : feeding.Lodged) (consumed : Nat) :
    (Feeding.mk (feeding.decoder.consume consumed) feeding.frames).Lodged := by
  rw [consume_eq]
  exact lodged

theorem settled_consume (settled : feeding.Settled) (consumed : Nat) :
    (Feeding.mk (feeding.decoder.consume consumed) feeding.frames).Settled := by
  refine ⟨?_, lodged_consume settled.lodged consumed⟩
  rw [consume_eq]
  exact settled.clean

theorem stop_twins (consumed : Nat) (settled : feeding.Settled) :
    Twins (streamStop consumed) (streamStop consumed) feeding := by
  intro memory
  have kept := settled_consume settled consumed
  refine .inr (.inr ⟨⟨memory, ?_⟩, kept.lodged, fun _ => kept.clean⟩)
  exact congrArg (Prod.mk (some ())) (moveTo_consumed memory consumed)

theorem stopFailed_twins (consumed : Nat) (code : McErrorCode) (relative : Nat)
    (settled : feeding.Settled) :
    Twins (streamStopFailed consumed code relative) (streamStopFailed consumed code relative)
      feeding := by
  intro memory
  have fails := twins_fail (settled_consume settled consumed).lodged code
    ((feeding.decoder.consume consumed).absoluteOffset relative) memory
  rw [← moveTo_consumed] at fails
  have offset : ((feeding.moveTo memory).decoder.consume consumed).absoluteOffset relative =
      (feeding.decoder.consume consumed).absoluteOffset relative := by
    rw [consume_eq, consume_eq]
    rfl
  simp only [streamStopFailed, offset]
  exact fails

theorem RunsOut.consumed {ended : Option Unit × Feeding} (out : RunsOut ended) (consumed : Nat) :
    RunsOut (none, { ended.2 with decoder := ended.2.decoder.consume consumed }) := by
  refine ⟨rfl, ?_⟩
  rw [consume_eq]
  exact out.2

/-- What is in the buffer decides the turn, and the buffer is the same. -/
theorem feedLoop_twins (zlib : Zlib) (leftHeap rightHeap : Heap) (quota consumed : Nat)
    (settled : feeding.Settled) :
    Twins (feedLoop zlib leftHeap quota consumed) (feedLoop zlib rightHeap quota consumed)
      feeding := by
  induction quota generalizing feeding consumed with
  | zero => exact stop_twins consumed settled
  | succ quota ih =>
      intro memory
      have stops (way : ∀ (heap : Heap) (other : Feeding),
          other.decoder.buffer = feeding.decoder.buffer →
          other.decoder.config = feeding.decoder.config →
          feedLoop zlib heap (quota + 1) consumed other = streamStop consumed other) := by
        have twins := stop_twins consumed settled memory
        rwa [← way leftHeap feeding rfl rfl, ← way rightHeap (feeding.moveTo memory) rfl rfl]
          at twins
      have fails (code : McErrorCode) (relative : Nat) (way : ∀ (heap : Heap) (other : Feeding),
          other.decoder.buffer = feeding.decoder.buffer →
          other.decoder.config = feeding.decoder.config →
          feedLoop zlib heap (quota + 1) consumed other =
            streamStopFailed consumed code relative other) := by
        have twins := stopFailed_twins consumed code relative settled memory
        rwa [← way leftHeap feeding rfl rfl, ← way rightHeap (feeding.moveTo memory) rfl rfl]
          at twins
      by_cases drained : feeding.decoder.buffer.length ≤ consumed
      · exact stops fun heap other buffer _ => if_pos (buffer ▸ drained)
      cases read : streamVarint (feeding.decoder.buffer.drop consumed)
          feeding.decoder.config.mode with
      | partialInput =>
          refine stops fun heap other buffer config => ?_
          simp only [feedLoop, buffer, config, if_neg drained, read]
      | invalid code offset =>
          refine fails code offset fun heap other buffer config => ?_
          simp only [feedLoop, buffer, config, if_neg drained, read]
      | complete encodedSize headerSize =>
          by_cases negative : encodedSize ≤ 0
          · refine fails .invalidLength 0 fun heap other buffer config => ?_
            simp only [feedLoop, buffer, config, if_neg drained, read, if_pos negative]
          by_cases large : feeding.decoder.config.maxFrameSize < encodedSize.toNat
          · refine fails .frameTooLarge 0 fun heap other buffer config => ?_
            simp only [feedLoop, buffer, config, if_neg drained, read, if_neg negative,
              if_pos large]
          by_cases short :
              feeding.decoder.buffer.length - consumed - headerSize < encodedSize.toNat
          · refine stops fun heap other buffer config => ?_
            simp only [feedLoop, buffer, config, if_neg drained, read, if_neg negative,
              if_neg large, if_pos short]
          let frame := (feeding.decoder.buffer.drop (consumed + headerSize)).take encodedSize.toNat
          let frameOffset := feeding.decoder.absoluteOffset (consumed + headerSize)
          let behind := consumed + headerSize + encodedSize.toNat
          have refuses (heap : Heap) (other : Feeding) {after : Feeding}
              (buffer : other.decoder.buffer = feeding.decoder.buffer)
              (config : other.decoder.config = feeding.decoder.config)
              (offset : other.decoder.streamOffset = feeding.decoder.streamOffset)
              (refused : streamDecodeFrame zlib heap
                ((feeding.decoder.buffer.drop (consumed + headerSize)).take encodedSize.toNat)
                (saturatingAdd feeding.decoder.streamOffset (consumed + headerSize)) other =
                  (none, after)) :
              feedLoop zlib heap (quota + 1) consumed other =
                (none, { after with decoder := after.decoder.consume consumed }) := by
            simp only [feedLoop, buffer, config, if_neg drained, read, if_neg negative,
              if_neg large, if_neg short, McStreamDecoder.absoluteOffset, offset, refused]
          have passes (heap : Heap) (other : Feeding) {after : Feeding}
              (buffer : other.decoder.buffer = feeding.decoder.buffer)
              (config : other.decoder.config = feeding.decoder.config)
              (offset : other.decoder.streamOffset = feeding.decoder.streamOffset)
              (passed : streamDecodeFrame zlib heap
                ((feeding.decoder.buffer.drop (consumed + headerSize)).take encodedSize.toNat)
                (saturatingAdd feeding.decoder.streamOffset (consumed + headerSize)) other =
                  (some (), after)) :
              feedLoop zlib heap (quota + 1) consumed other =
                feedLoop zlib heap quota behind after := by
            simp only [feedLoop, buffer, config, if_neg drained, read, if_neg negative,
              if_neg large, if_neg short, McStreamDecoder.absoluteOffset, offset, passed]
            rfl
          obtain ⟨refused, out⟩ | ⟨refused, out⟩ | ⟨⟨moved, same⟩, lodged, clean⟩ :=
            decodeFrame_twins zlib leftHeap rightHeap frame frameOffset settled memory
          · have ended : streamDecodeFrame zlib leftHeap frame frameOffset feeding = (none, _) :=
              Prod.ext refused rfl
            rw [refuses leftHeap feeding rfl rfl rfl ended]
            exact .inl (RunsOut.consumed ⟨refused, out⟩ consumed)
          · have ended : streamDecodeFrame zlib rightHeap frame frameOffset
                (feeding.moveTo memory) = (none, _) := Prod.ext refused rfl
            rw [refuses rightHeap (feeding.moveTo memory) rfl rfl rfl ended]
            exact .inr (.inl (RunsOut.consumed ⟨refused, out⟩ consumed))
          · rcases ran : streamDecodeFrame zlib leftHeap frame frameOffset feeding with ⟨_ | u, after⟩
            · rw [ran] at same lodged
              rw [refuses leftHeap feeding rfl rfl rfl ran,
                refuses rightHeap (feeding.moveTo memory) rfl rfl rfl same]
              refine .inr (.inr ⟨⟨moved, ?_⟩, ?_, fun done => ?_⟩)
              · exact congrArg (Prod.mk none) (moveTo_consumed moved consumed)
              · exact lodged_consume lodged consumed
              · cases done
            · rw [ran] at same lodged clean
              rw [passes leftHeap feeding rfl rfl rfl ran,
                passes rightHeap (feeding.moveTo memory) rfl rfl rfl same]
              exact ih behind ⟨clean rfl, lodged⟩ moved

end Feeding

/-- What a caller sees of a call: its return, the frames by what they show, and the size
of the input that stays buffered. -/
structure StreamObservation where
  ok : Bool
  error : McError
  packets : List StreamPacket
  buffered : Nat
  deriving DecidableEq

def StreamCall.observe (zlib : Zlib) (decoder : McStreamDecoder) (call : StreamCall) :
    StreamObservation where
  ok := (call.answer zlib decoder).ok
  error := (call.answer zlib decoder).error
  packets := Feeding.packets ⟨call.perform zlib decoder, (call.answer zlib decoder).frames⟩
  buffered := mcStreamDecoderBufferedSize (call.perform zlib decoder)

def StreamCall.observations (zlib : Zlib) : List StreamCall → McStreamDecoder →
    List StreamObservation
  | [], _ => []
  | call :: calls, decoder =>
      call.observe zlib decoder :: observations zlib calls (call.perform zlib decoder)

/-- No allocation of the calls is refused: a refused one leaves the decoder failed. -/
def StreamCall.Allocated (zlib : Zlib) : List StreamCall → McStreamDecoder → Prop
  | [], _ => True
  | call :: calls, decoder =>
      ¬ (call.perform zlib decoder).OutOfMemory ∧ Allocated zlib calls (call.perform zlib decoder)

/-- The same call, on another heap. -/
inductive StreamCall.SameCall : StreamCall → StreamCall → Prop where
  | feed (left right : Heap) (call : FeedCall) : SameCall (.feed left call) (.feed right call)
  | setCompression (threshold : Int) : SameCall (.setCompression threshold) (.setCompression threshold)
  | finish : SameCall .finish .finish
  | reset : SameCall .reset .reset

section TwoRuns

variable {zlib : Zlib} {decoder : McStreamDecoder}

/-- The ways of a call on a decoder that has not failed, with what each returns. -/
theorem feed_ways (zlib : Zlib) (heap : Heap) {call : FeedCall} (valid : ¬ call.Invalid)
    (clean : decoder.failed = false)
    (fits : ¬ decoder.config.maxBufferedSize - decoder.buffer.length < call.data.size) :
    (mcStreamDecoderFeed zlib heap decoder call).2.OutOfMemory ∨
      ∃ capacity serial, mcStreamDecoderFeed zlib heap decoder call =
        feedReturn call.frameCapacity (feedLoop zlib heap call.frameCapacity 0
          (decoder.buffering call.data.content capacity serial)) := by
  have failing : ¬ decoder.failed = true := by
    rw [clean]
    exact Bool.false_ne_true
  obtain ⟨held, capacity, serial, reserve, -⟩ := streamReserve_frame heap
    { decoder with compressionTransitionReady := false, output := [] }
    (decoder.buffer.length + call.data.size)
  cases held with
  | false =>
      left
      simp only [mcStreamDecoderFeed, if_neg valid, if_neg failing, if_neg fits, reserve,
        feedFailed]
      refine McStreamDecoder.fail_outOfMemory ?_ _
      exact clean
  | true =>
      refine .inr ⟨capacity, serial, ?_⟩
      cases looped : feedLoop zlib heap call.frameCapacity 0
          (decoder.buffering call.data.content capacity serial) with | mk ended feeding
      have run := looped
      simp only [McStreamDecoder.buffering] at run
      cases ended with
      | none =>
          simp only [mcStreamDecoderFeed, if_neg valid, if_neg failing, if_neg fits, reserve,
            run, feedReturn]
      | some done =>
          simp only [mcStreamDecoderFeed, if_neg valid, if_neg failing, if_neg fits, reserve,
            run, feedReturn]
          rfl

/-- A refusal ahead of the loop. -/
theorem observe_refused {left right : Heap} {call : FeedCall} {memory : DecoderMemory}
    (refused : McStreamDecoder)
    (leftWay : mcStreamDecoderFeed zlib left decoder call = feedFailed [] refused)
    (rightWay : mcStreamDecoderFeed zlib right (decoder.moveTo memory) call =
      feedFailed [] (refused.moveTo memory)) :
    (StreamCall.feed right call).observe zlib (decoder.moveTo memory) =
        (StreamCall.feed left call).observe zlib decoder ∧
      ∃ moved, (mcStreamDecoderFeed zlib right (decoder.moveTo memory) call).2 =
        (mcStreamDecoderFeed zlib left decoder call).2.moveTo moved := by
  simp only [StreamCall.observe, StreamCall.answer, StreamCall.perform, leftWay, rightWay]
  exact ⟨rfl, memory, rfl⟩

theorem observe_feed_moved {left right : Heap} {call : FeedCall} {memory : DecoderMemory}
    (leftFine : ¬ (mcStreamDecoderFeed zlib left decoder call).2.OutOfMemory)
    (rightFine : ¬ (mcStreamDecoderFeed zlib right (decoder.moveTo memory) call).2.OutOfMemory) :
    (StreamCall.feed right call).observe zlib (decoder.moveTo memory) =
        (StreamCall.feed left call).observe zlib decoder ∧
      ∃ moved, (mcStreamDecoderFeed zlib right (decoder.moveTo memory) call).2 =
        (mcStreamDecoderFeed zlib left decoder call).2.moveTo moved := by
  by_cases invalid : call.Invalid
  · refine observe_refused
      (decoder.fail .invalidArgument (decoder.absoluteOffset decoder.buffer.length))
      (if_pos invalid) ?_
    rw [← McStreamDecoder.moveTo_fail]
    exact if_pos invalid
  cases clean : decoder.failed with
  | true =>
      exact observe_refused decoder ((if_neg invalid).trans (if_pos clean))
        ((if_neg invalid).trans (if_pos clean))
  | false =>
      have failing : ¬ decoder.failed = true := by
        rw [clean]
        exact Bool.false_ne_true
      by_cases limited : decoder.config.maxBufferedSize - decoder.buffer.length < call.data.size
      · refine observe_refused
          (({ decoder with compressionTransitionReady := false, output := [] } :
            McStreamDecoder).fail .bufferLimit (decoder.absoluteOffset decoder.buffer.length))
          ((if_neg invalid).trans ((if_neg failing).trans (if_pos limited))) ?_
        rw [← McStreamDecoder.moveTo_fail]
        exact (if_neg invalid).trans ((if_neg failing).trans (if_pos limited))
      obtain out | ⟨capacity, serial, leftWay⟩ := feed_ways zlib left invalid clean limited
      · exact absurd out leftFine
      have moving : (decoder.moveTo memory).failed = false := clean
      obtain out | ⟨capacity', serial', rightWay⟩ := feed_ways zlib right invalid moving limited
      · exact absurd out rightFine
      have moves : (decoder.moveTo memory).buffering call.data.content capacity' serial' =
          (decoder.buffering call.data.content capacity serial).moveTo
            { memory with bufferCapacity := capacity', serial := serial' } := rfl
      rw [moves] at rightWay
      have settled : (decoder.buffering call.data.content capacity serial).Settled :=
        ⟨clean, fun frame shown => nomatch shown⟩
      have twins := Feeding.feedLoop_twins zlib left right call.frameCapacity 0 settled
        { memory with bufferCapacity := capacity', serial := serial' }
      rw [leftWay] at leftFine
      rw [rightWay] at rightFine
      have ends (ended : Option Unit × Feeding) (out : Feeding.RunsOut ended) :
          (feedReturn call.frameCapacity ended).2.OutOfMemory := by
        obtain ⟨refused | done, after⟩ := ended
        · exact out.2
        · exact nomatch out.1
      obtain out | out | ⟨⟨moved, same⟩, lodged, -⟩ := twins
      · exact absurd (ends _ out) leftFine
      · exact absurd (ends _ out) rightFine
      rw [same] at rightWay
      simp only [StreamCall.observe, StreamCall.answer, StreamCall.perform, leftWay, rightWay]
      rcases ran : feedLoop zlib left call.frameCapacity 0
          (decoder.buffering call.data.content capacity serial) with ⟨_ | u, after⟩
      · rw [ran] at lodged
        have packets : (after.moveTo moved).packets = after.packets := lodged.packets_moveTo moved
        refine ⟨?_, moved, rfl⟩
        exact congrArg (StreamObservation.mk false after.decoder.lastError ·
          after.decoder.buffer.length) packets
      · rw [ran] at lodged
        have packets : (after.moveTo moved).packets = after.packets := lodged.packets_moveTo moved
        have frames : (after.moveTo moved).frames.length = after.frames.length :=
          List.length_map _
        refine ⟨?_, moved, ?_⟩
        · exact congrArg (StreamObservation.mk true mcErrorClear · after.decoder.buffer.length)
            packets
        · simp only [feedReturn, Feeding.ready, frames]
          rfl

/-- Calls that differ in their heaps alone, on decoders that differ in their memory
alone. -/
theorem StreamCall.SameCall.observe {left right : StreamCall} (same : SameCall left right)
    {memory : DecoderMemory} (leftFine : ¬ (left.perform zlib decoder).OutOfMemory)
    (rightFine : ¬ (right.perform zlib (decoder.moveTo memory)).OutOfMemory) :
    right.observe zlib (decoder.moveTo memory) = left.observe zlib decoder ∧
      ∃ moved, right.perform zlib (decoder.moveTo memory) =
        (left.perform zlib decoder).moveTo moved := by
  cases same with
  | feed left right call => exact observe_feed_moved leftFine rightFine
  | setCompression threshold =>
      simp only [StreamCall.observe, StreamCall.answer, StreamCall.perform,
        McStreamDecoder.moveTo_setCompression]
      exact ⟨rfl, memory, rfl⟩
  | finish =>
      simp only [StreamCall.observe, StreamCall.answer, StreamCall.perform,
        McStreamDecoder.moveTo_finish]
      exact ⟨rfl, memory, rfl⟩
  | reset => exact ⟨rfl, memory, rfl⟩

theorem StreamCall.observations_moved {left right : List StreamCall}
    (same : List.Forall₂ SameCall left right) (memory : DecoderMemory)
    (leftFine : Allocated zlib left decoder)
    (rightFine : Allocated zlib right (decoder.moveTo memory)) :
    observations zlib right (decoder.moveTo memory) = observations zlib left decoder := by
  induction same generalizing decoder memory with
  | nil => rfl
  | cons first _ ih =>
      obtain ⟨seen, moved, performed⟩ := first.observe leftFine.1 rightFine.1
      have rest := rightFine.2
      rw [performed] at rest
      simp only [observations]
      rw [seen, performed, ih moved leftFine.2 rest]

end TwoRuns

/-- Whatever a decoder has been through, after reset it does what a decoder created with
the same configuration does, call by call, as long as memory is granted. -/
theorem streamDecoder_reset_fresh (zlib : Zlib) {decoder : McStreamDecoder}
    (reachable : decoder.Reachable zlib) :
    ∃ fresh, mcStreamDecoderCreate (some decoder.config) true = .ok fresh ∧
      ∀ left right : List StreamCall, List.Forall₂ StreamCall.SameCall left right →
        StreamCall.Allocated zlib left fresh →
        StreamCall.Allocated zlib right (mcStreamDecoderReset decoder) →
        StreamCall.observations zlib right (mcStreamDecoderReset decoder) =
          StreamCall.observations zlib left fresh := by
  have accepted : ¬ decoder.config.Refused := reachable.bounded.accepted
  refine ⟨_, (if_neg accepted).trans (if_neg Bool.false_ne_true), ?_⟩
  intro left right same leftFine rightFine
  exact StreamCall.observations_moved same decoder.memory leftFine rightFine

/-- A decoder that failed behind a compressed packet, with a threshold and a grown arena. -/
theorem streamDecoder_reset_fresh_compressed :
    let zlib := Zlib.knowing [7, 42] [120, 156, 99, 215, 2, 0, 0, 58, 0, 50]
    let created := (mcStreamDecoderCreate none true).toOption.get (by decide)
    let feed := StreamCall.feed .ample
      (feedOf [11, 2, 120, 156, 99, 215, 2, 0, 0, 58, 0, 50, 0, 9] 3)
    let spoiled := StreamCall.run zlib [.setCompression 2, feed] created
    let calls := [StreamCall.feed .ample (feedOf [2, 7, 42, 1] 4), .finish]
    spoiled.failed = true ∧
      StreamCall.observations zlib calls (mcStreamDecoderReset spoiled) =
        StreamCall.observations zlib calls created := by
  intro zlib created feed spoiled calls
  have accepted : mcStreamDecoderCreate none true = .ok created := rfl
  have reachable : spoiled.Reachable zlib :=
    .call feed (.call (.setCompression 2) (.create accepted))
  have same : List.Forall₂ StreamCall.SameCall calls calls :=
    .cons (.feed _ _ _) (.cons .finish .nil)
  obtain ⟨fresh, again, runs⟩ := streamDecoder_reset_fresh zlib reachable
  have alike : mcStreamDecoderCreate (some spoiled.config) true = .ok created := by
    decide +kernel
  have anew : fresh = created := Except.ok.inj (again.symm.trans alike)
  subst anew
  refine ⟨by decide +kernel, runs calls calls same ?_ ?_⟩
  · exact ⟨by decide +kernel, by decide +kernel, trivial⟩
  · exact ⟨by decide +kernel, by decide +kernel, trivial⟩

end McProtocol
