import McProtocol.Fragmentation

/-! # Runs of the stream decoder

Whatever sequence of calls a decoder has been through, its sizes stay within its
capacities and these within its limits, and the probe for a buffered frame answers what
a feed without input would do.
-/

namespace McProtocol

/-- A call of the decoder's interface. Every feed may find another heap. -/
inductive StreamCall where
  | feed (heap : Heap) (call : FeedCall)
  | setCompression (threshold : Int)
  | finish
  | reset

def StreamCall.perform (zlib : Zlib) (decoder : McStreamDecoder) : StreamCall → McStreamDecoder
  | .feed heap call => (mcStreamDecoderFeed zlib heap decoder call).2
  | .setCompression threshold => (mcStreamDecoderSetCompression decoder threshold).2
  | .finish => (mcStreamDecoderFinish decoder).2
  | .reset => mcStreamDecoderReset decoder

/-- The decoders that calls lead to. -/
inductive McStreamDecoder.Reachable (zlib : Zlib) : McStreamDecoder → Prop where
  | create {config : Option McStreamDecoderConfig} {granted : Bool} {decoder : McStreamDecoder} :
      mcStreamDecoderCreate config granted = .ok decoder → Reachable zlib decoder
  | call {decoder : McStreamDecoder} (call : StreamCall) :
      Reachable zlib decoder → Reachable zlib (call.perform zlib decoder)

/-- Sizes are within capacities and capacities within limits. -/
structure McStreamDecoder.Bounded (decoder : McStreamDecoder) : Prop where
  accepted : ¬ decoder.config.Refused
  buffered : decoder.buffer.length ≤ decoder.bufferCapacity
  bufferLimit : decoder.bufferCapacity ≤ decoder.config.maxBufferedSize
  laidOut : decoder.output.length ≤ decoder.outputCapacity
  outputLimit : decoder.outputCapacity ≤ decoder.config.maxOutputSize
  object : decoder.outputCapacity ≤ ptrdiffMax
  offset_le : decoder.streamOffset ≤ sizeMax

namespace McStreamDecoder.Bounded

variable {decoder : McStreamDecoder} (bounded : decoder.Bounded)
include bounded

theorem fail (code : McErrorCode) (offset : Nat) : (decoder.fail code offset).Bounded := by
  unfold McStreamDecoder.fail
  split_ifs with failed
  · exact bounded
  · exact { bounded with }

theorem consume (consumed : Nat) : (decoder.consume consumed).Bounded := by
  rw [Feeding.consume_eq]
  refine { bounded with buffered := ?_, offset_le := saturatingAdd_le bounded.offset_le consumed }
  have buffered := bounded.buffered
  simp only [List.length_drop]
  omega

theorem setCompression (threshold : Int) :
    (mcStreamDecoderSetCompression decoder threshold).2.Bounded := by
  unfold mcStreamDecoderSetCompression
  split_ifs
  · exact bounded
  · exact bounded
  · exact bounded
  · exact { bounded with }

theorem finish : (mcStreamDecoderFinish decoder).2.Bounded := by
  unfold mcStreamDecoderFinish
  split_ifs
  · exact bounded
  · exact bounded.fail _ _
  · exact bounded

theorem reset : (mcStreamDecoderReset decoder).Bounded :=
  { bounded with
    buffered := Nat.zero_le _
    laidOut := Nat.zero_le _
    offset_le := Nat.zero_le _ }

/-- What every feed starts with. -/
theorem emptied :
    ({ decoder with compressionTransitionReady := false, output := [] } : McStreamDecoder).Bounded :=
  { bounded with laidOut := Nat.zero_le _ }

/-- A reservation that succeeds leaves room for `needed` bytes. -/
theorem reserve (heap : Heap) (needed : Nat) :
    (streamReserve heap decoder needed).2.Bounded ∧
      ((streamReserve heap decoder needed).1 = true →
        needed ≤ (streamReserve heap decoder needed).2.bufferCapacity) := by
  have buffered := bounded.buffered
  unfold streamReserve
  dsimp only
  split_ifs with limited enough granted
  · exact ⟨bounded, nofun⟩
  · exact ⟨bounded, fun _ => enough⟩
  · have larger := growLoop_ge decoder.config.maxBufferedSize needed
      (min (if decoder.bufferCapacity = 0 then 4096 else decoder.bufferCapacity)
        decoder.config.maxBufferedSize)
    have grown : needed ≤
        grownCapacity decoder.config.maxBufferedSize needed decoder.bufferCapacity := larger
    refine ⟨{ bounded with buffered := ?_, bufferLimit := ?_ }, fun _ => grown⟩
    · exact buffered.trans ((Nat.le_of_not_le enough).trans grown)
    · exact grownCapacity_le (Nat.le_of_not_lt limited) _
  · exact ⟨{ bounded with }, nofun⟩

end McStreamDecoder.Bounded

theorem mcStreamDecoderCreate_bounded {config : Option McStreamDecoderConfig} {granted : Bool}
    {decoder : McStreamDecoder} (created : mcStreamDecoderCreate config granted = .ok decoder) :
    decoder.Bounded := by
  unfold mcStreamDecoderCreate at created
  dsimp only at created
  split_ifs at created with refused ungranted
  cases created
  exact ⟨refused, Nat.le_refl 0, Nat.zero_le _, Nat.le_refl 0, Nat.zero_le _, Nat.zero_le _,
    Nat.zero_le _⟩

namespace Feeding

variable {feeding : Feeding} (bounded : feeding.decoder.Bounded)
include bounded

/-- A reservation of output that succeeds leaves room, and keeps the number of frames. -/
theorem bounded_reserveOutput (heap : Heap) (needed : Nat) :
    (streamReserveOutput heap needed feeding).2.decoder.Bounded ∧
      ((streamReserveOutput heap needed feeding).1 = some () →
        needed ≤ (streamReserveOutput heap needed feeding).2.decoder.outputCapacity) ∧
      (streamReserveOutput heap needed feeding).2.decoder.output = feeding.decoder.output := by
  unfold streamReserveOutput
  dsimp only
  split_ifs with limited enough granted
  · exact ⟨bounded, nofun, rfl⟩
  · exact ⟨bounded, fun _ => enough, rfl⟩
  · have grown : needed ≤
        grownCapacity feeding.decoder.config.maxOutputSize needed feeding.decoder.outputCapacity :=
      growLoop_ge ..
    refine ⟨{ bounded with laidOut := ?_, outputLimit := ?_, object := ?_ }, fun _ => grown, rfl⟩
    · exact bounded.laidOut.trans ((Nat.le_of_not_le enough).trans grown)
    · exact grownCapacity_le (Nat.le_of_not_lt limited) _
    · exact heap.bounded _ _ granted
  · exact ⟨{ bounded with }, nofun, rfl⟩

theorem bounded_finishPacket {packet : List UInt8}
    (room : feeding.decoder.output.length + packet.length ≤ feeding.decoder.outputCapacity)
    (compressed : Bool) (packetOffset : Nat) :
    (streamFinishPacket packet compressed packetOffset feeding).2.decoder.Bounded := by
  unfold streamFinishPacket
  dsimp only
  split_ifs with empty
  · exact bounded.fail _ _
  · cases streamVarint packet feeding.decoder.config.mode with
    | partialInput => exact bounded.fail _ _
    | invalid code offset => exact bounded.fail _ _
    | complete packetId idSize =>
        dsimp only
        split_ifs with negative
        · exact bounded.fail _ _
        · refine { bounded with laidOut := ?_ }
          rw [List.length_append]
          exact room

theorem bounded_emitRoom (heap : Heap) (packetSize packetOffset : Nat) :
    (streamEmitRoom heap packetSize packetOffset feeding).2.decoder.Bounded ∧
      ((streamEmitRoom heap packetSize packetOffset feeding).1 = some () →
        (streamEmitRoom heap packetSize packetOffset feeding).2.decoder.output.length + packetSize ≤
          (streamEmitRoom heap packetSize packetOffset feeding).2.decoder.outputCapacity) := by
  unfold streamEmitRoom
  dsimp only
  split_ifs with wraps limited
  · exact ⟨bounded.fail _ _, nofun⟩
  · exact ⟨bounded.fail _ _, nofun⟩
  · obtain ⟨kept, room, same⟩ := bounded_reserveOutput bounded heap
      (feeding.decoder.output.length + packetSize)
    rcases run : streamReserveOutput heap (feeding.decoder.output.length + packetSize) feeding with
      ⟨_ | u, held⟩
    · rw [run] at kept
      exact ⟨kept.fail _ _, nofun⟩
    · rw [run] at kept room same
      refine ⟨kept, fun _ => ?_⟩
      dsimp only at same ⊢
      rw [same]
      exact room rfl

/-- A packet is laid out in the room made for it. -/
theorem bounded_emitRoom_then (heap : Heap) {packetSize packetOffset : Nat}
    {rest : Unit → FeedM Unit}
    (behind : ∀ {feeding : Feeding}, feeding.decoder.Bounded →
      feeding.decoder.output.length + packetSize ≤ feeding.decoder.outputCapacity →
      (rest () feeding).2.decoder.Bounded) :
    ((streamEmitRoom heap packetSize packetOffset >>= rest) feeding).2.decoder.Bounded := by
  obtain ⟨kept, room⟩ := bounded_emitRoom bounded heap packetSize packetOffset
  rcases run : streamEmitRoom heap packetSize packetOffset feeding with ⟨_ | u, after⟩
  · rw [run] at kept
    rw [Prog.bind_none run]
    exact kept
  · rw [run] at kept room
    rw [Prog.bind_some run]
    exact behind kept (room rfl)

theorem bounded_emitUncompressed (heap : Heap) (packet : List UInt8) (compressed : Bool)
    (packetOffset : Nat) :
    (streamEmitUncompressed heap packet compressed packetOffset feeding).2.decoder.Bounded :=
  bounded_emitRoom_then bounded heap fun kept room => bounded_finishPacket kept room _ _

theorem bounded_emitCompressed (zlib : Zlib) (heap : Heap) (compressed : List UInt8)
    (declaredSize packetOffset : Nat) :
    (streamEmitCompressed zlib heap compressed declaredSize packetOffset feeding).2.decoder.Bounded := by
  unfold streamEmitCompressed
  split_ifs with large
  · exact bounded.fail _ _
  · refine bounded_emitRoom_then bounded heap fun {feeding} kept room => ?_
    cases zlib.inflateOnce compressed declaredSize with
    | none => exact kept.fail _ _
    | some step =>
        dsimp only
        split_ifs with short
        · exact kept.fail _ _
        · have whole : step.output.length = declaredSize := by
            by_contra other
            exact short (.inr (.inl other))
          exact bounded_finishPacket kept (whole ▸ room) _ _

theorem bounded_decodeFrame (zlib : Zlib) (heap : Heap) (frame : List UInt8) (frameOffset : Nat) :
    (streamDecodeFrame zlib heap frame frameOffset feeding).2.decoder.Bounded := by
  unfold streamDecodeFrame
  dsimp only
  split_ifs with bare
  · exact bounded_emitUncompressed bounded heap _ _ _
  · cases streamVarint frame feeding.decoder.config.mode with
    | partialInput => exact bounded.fail _ _
    | invalid code offset => exact bounded.fail _ _
    | complete declared headerSize =>
        dsimp only
        split_ifs
        · exact bounded.fail _ _
        · exact bounded.fail _ _
        · exact bounded_emitUncompressed bounded heap _ _ _
        · exact bounded.fail _ _
        · exact bounded.fail _ _
        · exact bounded_emitCompressed bounded zlib heap _ _ _

theorem bounded_stopFailed (consumed : Nat) (code : McErrorCode) (relative : Nat) :
    (streamStopFailed consumed code relative feeding).2.decoder.Bounded :=
  (bounded.consume consumed).fail _ _

theorem bounded_feedLoop (zlib : Zlib) (heap : Heap) (quota consumed : Nat) :
    (feedLoop zlib heap quota consumed feeding).2.decoder.Bounded := by
  induction quota generalizing feeding consumed with
  | zero => exact bounded.consume consumed
  | succ quota ih =>
      unfold feedLoop
      dsimp only
      split_ifs with drained
      · exact bounded.consume consumed
      · cases streamVarint (feeding.decoder.buffer.drop consumed) feeding.decoder.config.mode with
        | partialInput => exact bounded.consume consumed
        | invalid code offset => exact bounded_stopFailed bounded consumed code offset
        | complete encodedSize headerSize =>
            dsimp only
            split_ifs
            · exact bounded_stopFailed bounded consumed _ _
            · exact bounded_stopFailed bounded consumed _ _
            · exact bounded.consume consumed
            · have decoded := bounded_decodeFrame bounded zlib heap
                ((feeding.decoder.buffer.drop (consumed + headerSize)).take encodedSize.toNat)
                (feeding.decoder.absoluteOffset (consumed + headerSize))
              split
              · rename_i failed run
                rw [run] at decoded
                exact decoded.consume consumed
              · rename_i emitted run
                rw [run] at decoded
                exact ih decoded _

end Feeding

/-- The input is buffered in the room reserved for it. -/
theorem McStreamDecoder.Bounded.buffering {decoder held : McStreamDecoder}
    (bounded : decoder.Bounded) {heap : Heap} {data : Buffer}
    (run : streamReserve heap { decoder with compressionTransitionReady := false, output := [] }
      (decoder.buffer.length + data.size) = (true, held)) :
    ({ held with buffer := held.buffer ++ data.content } : McStreamDecoder).Bounded ∧
      held.config = decoder.config := by
  obtain ⟨kept, room⟩ := bounded.emptied.reserve heap (decoder.buffer.length + data.size)
  obtain ⟨_, capacity, serial, reserved, -⟩ := streamReserve_frame heap
    { decoder with compressionTransitionReady := false, output := [] }
    (decoder.buffer.length + data.size)
  rw [run] at kept room reserved
  have same : held.buffer = decoder.buffer := by
    rw [(Prod.mk.inj reserved).2]
  have shown : data.content.length ≤ data.size := by
    cases data with
    | null size => exact Nat.zero_le _
    | bytes content => exact Nat.le_refl _
  refine ⟨{ kept with buffered := ?_ }, by rw [(Prod.mk.inj reserved).2]⟩
  rw [List.length_append, same]
  exact (Nat.add_le_add_left shown _).trans (room rfl)

theorem McStreamDecoder.Bounded.feed {decoder : McStreamDecoder} (bounded : decoder.Bounded)
    (zlib : Zlib) (heap : Heap) (call : FeedCall) :
    (mcStreamDecoderFeed zlib heap decoder call).2.Bounded := by
  unfold mcStreamDecoderFeed
  dsimp only [feedFailed]
  split_ifs with invalid failed limited
  · exact bounded.fail _ _
  · exact bounded
  · exact bounded.emptied.fail _ _
  · obtain ⟨kept, -⟩ := bounded.emptied.reserve heap (decoder.buffer.length + call.data.size)
    split
    · rename_i held run
      rw [run] at kept
      exact kept.fail _ _
    · rename_i held run
      have looped := Feeding.bounded_feedLoop
        (show (Feeding.mk { held with buffer := held.buffer ++ call.data.content } []).decoder.Bounded
          from (bounded.buffering run).1) zlib heap call.frameCapacity 0
      split
      · rename_i feeding ended
        rw [ended] at looped
        exact looped
      · rename_i feeding ended
        rw [ended] at looped
        exact { looped with }

/-- Along any sequence of calls. -/
theorem McStreamDecoder.Reachable.bounded {zlib : Zlib} {decoder : McStreamDecoder}
    (reachable : decoder.Reachable zlib) : decoder.Bounded := by
  induction reachable with
  | create created => exact mcStreamDecoderCreate_bounded created
  | call call _ ih =>
      cases call with
      | feed heap call => exact ih.feed zlib heap call
      | setCompression threshold => exact ih.setCompression threshold
      | finish => exact ih.finish
      | reset => exact ih.reset

/-- A feed without input that is to find one frame. -/
def probeCall : FeedCall where
  data := .null 0
  frameCapacity := 1
  framesNull := false
  frameCountNull := false

theorem probeCall_valid : ¬ probeCall.Invalid := by decide

/-- The call that is probed for would emit a frame, or fail. -/
def FeedResult.Answers (result : FeedResult) : Prop :=
  result.frames.length = 1 ∨ result.ok = false

namespace Feeding

variable {feeding after : Feeding}

/-- A packet is one frame more. -/
theorem finishPacket_frames {packet : List UInt8} {compressed : Bool} {packetOffset : Nat}
    (run : streamFinishPacket packet compressed packetOffset feeding = (some (), after)) :
    after.frames.length = feeding.frames.length + 1 := by
  unfold streamFinishPacket at run
  dsimp only at run
  split_ifs at run with empty
  · cases run
  · cases read : streamVarint packet feeding.decoder.config.mode with
    | partialInput => rw [read] at run; cases run
    | invalid code offset => rw [read] at run; cases run
    | complete packetId idSize =>
        rw [read] at run
        dsimp only at run
        split_ifs at run with negative
        · cases run
        · cases run
          rw [List.length_append]
          rfl

theorem reserveOutput_frames {heap : Heap} {needed : Nat}
    (run : streamReserveOutput heap needed feeding = (some (), after)) :
    after.frames.length = feeding.frames.length := by
  unfold streamReserveOutput at run
  dsimp only at run
  split_ifs at run with limited enough granted
  · cases run
  · cases run
    rfl
  · cases run
    exact List.length_map _
  · cases run

theorem emitRoom_frames {heap : Heap} {packetSize packetOffset : Nat}
    (run : streamEmitRoom heap packetSize packetOffset feeding = (some (), after)) :
    after.frames.length = feeding.frames.length := by
  unfold streamEmitRoom at run
  dsimp only at run
  split_ifs at run with wraps limited
  · cases run
  · cases run
  · rcases reserved : streamReserveOutput heap (feeding.decoder.output.length + packetSize) feeding
      with ⟨_ | u, held⟩
    · rw [reserved] at run
      cases run
    · rw [reserved] at run
      cases run
      exact reserveOutput_frames reserved

theorem emitUncompressed_frames {heap : Heap} {packet : List UInt8} {compressed : Bool}
    {packetOffset : Nat}
    (run : streamEmitUncompressed heap packet compressed packetOffset feeding = (some (), after)) :
    after.frames.length = feeding.frames.length + 1 := by
  obtain ⟨u, held, room, finished⟩ := Prog.bind_eq_some run
  rw [finishPacket_frames finished, emitRoom_frames room]

theorem emitCompressed_frames {zlib : Zlib} {heap : Heap} {compressed : List UInt8}
    {declaredSize packetOffset : Nat}
    (run : streamEmitCompressed zlib heap compressed declaredSize packetOffset feeding =
      (some (), after)) :
    after.frames.length = feeding.frames.length + 1 := by
  unfold streamEmitCompressed at run
  split_ifs at run with large
  · cases run
  · obtain ⟨u, held, room, inflated⟩ := Prog.bind_eq_some run
    rw [← emitRoom_frames room]
    cases found : zlib.inflateOnce compressed declaredSize with
    | none => rw [found] at inflated; cases inflated
    | some step =>
        rw [found] at inflated
        dsimp only at inflated
        split_ifs at inflated with short
        · cases inflated
        · exact finishPacket_frames inflated

theorem decodeFrame_frames {zlib : Zlib} {heap : Heap} {frame : List UInt8} {frameOffset : Nat}
    (run : streamDecodeFrame zlib heap frame frameOffset feeding = (some (), after)) :
    after.frames.length = feeding.frames.length + 1 := by
  unfold streamDecodeFrame at run
  dsimp only at run
  split_ifs at run with bare
  · exact emitUncompressed_frames run
  · cases read : streamVarint frame feeding.decoder.config.mode with
    | partialInput => rw [read] at run; cases run
    | invalid code offset => rw [read] at run; cases run
    | complete declared headerSize =>
        rw [read] at run
        dsimp only at run
        split_ifs at run
        · cases run
        · cases run
        · exact emitUncompressed_frames run
        · cases run
        · cases run
        · exact emitCompressed_frames run

/-- The loop goes where the probe looks: without a frame in sight it does nothing. -/
theorem feedLoop_unready (zlib : Zlib) (heap : Heap) (feeding : Feeding)
    (clean : feeding.decoder.failed = false)
    (unready : streamDecoderFrameReady feeding.decoder = false) :
    feedLoop zlib heap 1 0 feeding = (some (), feeding) := by
  rw [streamDecoderFrameReady, clean, if_neg Bool.false_ne_true] at unready
  unfold feedLoop
  dsimp only
  rw [List.drop_zero]
  by_cases drained : feeding.decoder.buffer.length = 0
  · rw [if_pos (by omega)]
    rfl
  · rw [if_neg drained] at unready
    rw [if_neg (by omega)]
    cases read : streamVarint feeding.decoder.buffer feeding.decoder.config.mode with
    | partialInput => rfl
    | invalid code offset => rw [read] at unready; cases unready
    | complete encodedSize headerSize =>
        rw [read] at unready
        dsimp only at unready ⊢
        split_ifs at unready with refused
        rw [not_or] at refused
        have short := of_decide_eq_false unready
        rw [if_neg refused.1, if_neg refused.2, if_pos (by omega)]
        rfl

/-- With a frame or an error in sight the loop emits the one or meets the other. -/
theorem feedLoop_ready (zlib : Zlib) (heap : Heap) (feeding : Feeding)
    (clean : feeding.decoder.failed = false)
    (ready : streamDecoderFrameReady feeding.decoder = true) :
    (feedLoop zlib heap 1 0 feeding).1 = none ∨
      (feedLoop zlib heap 1 0 feeding).2.frames.length = feeding.frames.length + 1 := by
  rw [streamDecoderFrameReady, clean, if_neg Bool.false_ne_true] at ready
  unfold feedLoop
  dsimp only
  rw [List.drop_zero]
  by_cases drained : feeding.decoder.buffer.length = 0
  · rw [if_pos drained] at ready
    cases ready
  · rw [if_neg drained] at ready
    rw [if_neg (by omega)]
    cases read : streamVarint feeding.decoder.buffer feeding.decoder.config.mode with
    | partialInput => rw [read] at ready; cases ready
    | invalid code offset => exact .inl rfl
    | complete encodedSize headerSize =>
        rw [read] at ready
        dsimp only at ready ⊢
        by_cases negative : encodedSize ≤ 0
        · rw [if_pos negative]
          exact .inl rfl
        by_cases large : feeding.decoder.config.maxFrameSize < encodedSize.toNat
        · rw [if_neg negative, if_pos large]
          exact .inl rfl
        rw [if_neg (not_or.2 ⟨negative, large⟩)] at ready
        have whole := of_decide_eq_true ready
        rw [if_neg negative, if_neg large, if_neg (by omega)]
        rcases decoded : streamDecodeFrame zlib heap
            ((feeding.decoder.buffer.drop (0 + headerSize)).take encodedSize.toNat)
            (feeding.decoder.absoluteOffset (0 + headerSize)) feeding with ⟨_ | u, after⟩
        · exact .inl rfl
        · have emitted : after.frames.length = feeding.frames.length + 1 :=
            decodeFrame_frames decoded
          exact .inr emitted

end Feeding

namespace McStreamDecoder.Bounded

variable {decoder : McStreamDecoder} (bounded : decoder.Bounded) (zlib : Zlib) (heap : Heap)
include bounded

/-- There is always room for no input. -/
theorem feed_probe (clean : decoder.failed = false) :
    mcStreamDecoderFeed zlib heap decoder probeCall =
      feedReturn 1 (feedLoop zlib heap 1 0
        (decoder.buffering [] decoder.bufferCapacity decoder.serial)) := by
  have buffered := bounded.buffered
  have limit := bounded.bufferLimit
  have failing : ¬ decoder.failed = true := by
    rw [clean]
    exact Bool.false_ne_true
  have fits : ¬ decoder.config.maxBufferedSize - decoder.buffer.length < probeCall.data.size :=
    Nat.not_lt_zero _
  have reserve : streamReserve heap
      { decoder with compressionTransitionReady := false, output := [] }
      (decoder.buffer.length + probeCall.data.size) =
        (true, { decoder with compressionTransitionReady := false, output := [] }) := by
    have limited : ¬ decoder.config.maxBufferedSize < decoder.buffer.length + 0 := by omega
    have enough : decoder.buffer.length + 0 ≤ decoder.bufferCapacity := by omega
    exact (if_neg limited).trans (if_pos enough)
  simp only [mcStreamDecoderFeed, if_neg probeCall_valid, if_neg failing, if_neg fits, reserve]
  rcases looped : feedLoop zlib heap 1 0
      (decoder.buffering [] decoder.bufferCapacity decoder.serial) with ⟨_ | u, feeding⟩
  · simp only [McStreamDecoder.buffering] at looped
    simp only [probeCall, Buffer.content, looped, feedReturn]
  · simp only [McStreamDecoder.buffering] at looped
    simp only [probeCall, Buffer.content, looped, feedReturn]
    rfl

/-- What the loop of that call starts from. -/
def probing (decoder : McStreamDecoder) : Feeding :=
  decoder.buffering [] decoder.bufferCapacity decoder.serial

omit bounded in
theorem probing_ready :
    streamDecoderFrameReady (probing decoder).decoder = streamDecoderFrameReady decoder := by
  simp only [streamDecoderFrameReady, probing, McStreamDecoder.buffering, List.append_nil]

/-- Without a frame or an error in sight that feed finds nothing and keeps the input. -/
theorem feed_unready (unready : streamDecoderFrameReady decoder = false) :
    (mcStreamDecoderFeed zlib heap decoder probeCall).1 = ⟨true, [], mcErrorClear⟩ ∧
      (mcStreamDecoderFeed zlib heap decoder probeCall).2.buffer = decoder.buffer := by
  have clean : decoder.failed = false := by
    by_contra failed
    have ready : streamDecoderFrameReady decoder = true :=
      if_pos (Bool.eq_true_of_not_eq_false failed)
    rw [ready] at unready
    cases unready
  have looped := Feeding.feedLoop_unready zlib heap (probing decoder) clean
    (probing_ready.trans unready)
  rw [bounded.feed_probe zlib heap clean, ← probing, looped]
  exact ⟨rfl, List.append_nil _⟩

/-- The probe says whether a feed without input would emit a frame or fail. -/
theorem frameReady_iff :
    streamDecoderFrameReady decoder = true ↔
      (mcStreamDecoderFeed zlib heap decoder probeCall).1.Answers := by
  constructor
  · intro ready
    cases failed : decoder.failed with
    | true =>
        have run : mcStreamDecoderFeed zlib heap decoder probeCall = feedFailed [] decoder := by
          simp only [mcStreamDecoderFeed, if_neg probeCall_valid, if_pos failed]
        rw [run]
        exact .inr rfl
    | false =>
        have looped := Feeding.feedLoop_ready zlib heap (probing decoder) failed
          (probing_ready.trans ready)
        rw [bounded.feed_probe zlib heap failed, ← probing]
        rcases run : feedLoop zlib heap 1 0 (probing decoder) with ⟨_ | u, feeding⟩
        · exact .inr rfl
        · rw [run] at looped
          obtain refused | answered := looped
          · cases refused
          · exact .inl answered
  · intro answers
    by_contra unready
    rw [(bounded.feed_unready zlib heap (Bool.eq_false_of_not_eq_true unready)).1] at answers
    obtain one | failing := answers
    · cases one
    · cases failing

end McStreamDecoder.Bounded

end McProtocol
