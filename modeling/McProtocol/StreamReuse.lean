import McProtocol.Lib.Relational
import McProtocol.FrameViews

/-! # Memory that is kept

A decoder that is reset keeps its buffers, and so does one that was fed. What it decodes does not
depend on them, as long as the memory it asks for is there.
-/

namespace McProtocol

/-- The decoder without its memory. -/
def McStreamDecoder.stream (decoder : McStreamDecoder) : McStreamDecoder :=
  { decoder with
    bufferCapacity := 0
    outputCapacity := 0
    arena := 0
    serial := 0 }

/-- The frame without the arena it lies in. -/
def McDecodedFrame.unplaced (frame : McDecodedFrame) : McDecodedFrame :=
  { frame with payload := { frame.payload with arena := 0 } }

def Feeding.stream (feeding : Feeding) : Feeding :=
  ⟨feeding.decoder.stream, feeding.frames.map McDecodedFrame.unplaced⟩

/-- Two feeds that differ in their memory only, of which there is enough. -/
structure Feeding.Alike (heap : Heap) (feeding other : Feeding) : Prop where
  stream_eq : feeding.stream = other.stream
  memory : ¬ heap.Refuses feeding.decoder.config.maxOutputSize

namespace Feeding.Alike

variable {heap : Heap} {feeding other : Feeding}

theorem of_parts (decoders : feeding.decoder.stream = other.decoder.stream)
    (frames : feeding.frames.map McDecodedFrame.unplaced =
      other.frames.map McDecodedFrame.unplaced)
    (memory : ¬ heap.Refuses feeding.decoder.config.maxOutputSize) :
    feeding.Alike heap other :=
  ⟨congrArg₂ Feeding.mk decoders frames, memory⟩

theorem decoder_eq (alike : feeding.Alike heap other) :
    feeding.decoder.stream = other.decoder.stream :=
  congrArg Feeding.decoder alike.stream_eq

theorem config (alike : feeding.Alike heap other) :
    other.decoder.config = feeding.decoder.config :=
  (congrArg McStreamDecoder.config alike.decoder_eq).symm

theorem mode (alike : feeding.Alike heap other) :
    other.decoder.config.mode = feeding.decoder.config.mode :=
  congrArg McStreamDecoderConfig.mode alike.config

theorem buffer (alike : feeding.Alike heap other) :
    other.decoder.buffer = feeding.decoder.buffer :=
  (congrArg McStreamDecoder.buffer alike.decoder_eq).symm

theorem output (alike : feeding.Alike heap other) :
    other.decoder.output = feeding.decoder.output :=
  (congrArg McStreamDecoder.output alike.decoder_eq).symm

theorem threshold (alike : feeding.Alike heap other) :
    other.decoder.compressionThreshold = feeding.decoder.compressionThreshold :=
  (congrArg McStreamDecoder.compressionThreshold alike.decoder_eq).symm

theorem offset (alike : feeding.Alike heap other) :
    other.decoder.streamOffset = feeding.decoder.streamOffset :=
  (congrArg McStreamDecoder.streamOffset alike.decoder_eq).symm

theorem frames_eq (alike : feeding.Alike heap other) :
    feeding.frames.map McDecodedFrame.unplaced = other.frames.map McDecodedFrame.unplaced :=
  congrArg Feeding.frames alike.stream_eq

end Feeding.Alike

theorem stream_fail (decoder : McStreamDecoder) (code : McErrorCode) (offset : Nat) :
    (decoder.fail code offset).stream = decoder.stream.fail code offset := by
  unfold McStreamDecoder.fail McStreamDecoder.stream
  dsimp only
  split_ifs
  · rfl
  · rfl

theorem stream_consume (decoder : McStreamDecoder) (consumed : Nat) :
    (decoder.consume consumed).stream = decoder.stream.consume consumed := by
  unfold McStreamDecoder.consume McStreamDecoder.stream
  dsimp only
  split_ifs
  · rfl
  · rfl

section steps

variable {heap : Heap}

/-- A step of a feed that does not depend on memory. -/
abbrev Unaware (heap : Heap) {α : Type} (step : FeedM α) : Prop :=
  Prog.Agrees (Feeding.Alike heap) step

theorem unaware_fail {α : Type} (code : McErrorCode) (offset : Nat) :
    Unaware heap (streamFail code offset : FeedM α) := by
  intro feeding other alike
  refine ⟨rfl, .of_parts ?_ alike.frames_eq ?_⟩
  · change (feeding.decoder.fail code offset).stream = (other.decoder.fail code offset).stream
    rw [stream_fail, stream_fail, alike.decoder_eq]
  · have same := (feeding.decoder.sameMake_fail code offset).config
    change ¬ heap.Refuses (feeding.decoder.fail code offset).config.maxOutputSize
    rw [same]
    exact alike.memory

theorem Feeding.Alike.consume {feeding other : Feeding} (alike : feeding.Alike heap other)
    (consumed : Nat) :
    Feeding.Alike heap { feeding with decoder := feeding.decoder.consume consumed }
      { other with decoder := other.decoder.consume consumed } := by
  refine .of_parts ?_ alike.frames_eq ?_
  · rw [stream_consume, stream_consume, alike.decoder_eq]
  · have same := (feeding.decoder.sameMake_consume consumed).config
    change ¬ heap.Refuses (feeding.decoder.consume consumed).config.maxOutputSize
    rw [same]
    exact alike.memory

theorem unaware_stop (consumed : Nat) : Unaware heap (streamStop consumed) :=
  fun _ _ alike => ⟨rfl, alike.consume consumed⟩

theorem unaware_stopFailed (consumed : Nat) (code : McErrorCode) (relative : Nat) :
    Unaware heap (streamStopFailed consumed code relative) := by
  intro feeding other alike
  have behind := alike.consume consumed
  have offsets : (other.decoder.consume consumed).absoluteOffset relative =
      (feeding.decoder.consume consumed).absoluteOffset relative := by
    have offset := behind.offset
    dsimp only at offset
    rw [McStreamDecoder.absoluteOffset, McStreamDecoder.absoluteOffset, offset]
  unfold streamStopFailed
  dsimp only
  rw [offsets]
  exact unaware_fail code _ _ _ behind

/-- Room for the output is made without a trace. -/
theorem reserveOutput_traceless {needed : Nat} {feeding : Feeding}
    (memory : ¬ heap.Refuses feeding.decoder.config.maxOutputSize)
    (possible : needed ≤ feeding.decoder.config.maxOutputSize) :
    ∃ after, streamReserveOutput heap needed feeding = (some (), after) ∧
      after.stream = feeding.stream := by
  unfold streamReserveOutput
  dsimp only
  rw [if_neg (not_lt.mpr possible)]
  split_ifs with enough granted
  · exact ⟨feeding, rfl, rfl⟩
  · refine ⟨_, rfl, ?_⟩
    change Feeding.mk _ (List.map _ (List.map _ _)) = Feeding.mk _ _
    rw [List.map_map]
    rfl
  · have fits := grownCapacity_le possible feeding.decoder.outputCapacity
    rw [Bool.not_eq_true] at granted
    exact absurd ⟨_, _, fits, granted⟩ memory

theorem unaware_emitRoom (packetSize packetOffset : Nat) :
    Unaware heap (streamEmitRoom heap packetSize packetOffset) := by
  intro feeding other alike
  unfold streamEmitRoom
  dsimp only
  rw [alike.output, alike.config]
  split_ifs with wraps limited
  · exact unaware_fail _ _ _ _ alike
  · exact unaware_fail _ _ _ _ alike
  · rw [not_lt] at limited
    have memory := alike.memory
    obtain ⟨after, run, same⟩ := reserveOutput_traceless alike.memory limited
    rw [← alike.config] at limited memory
    obtain ⟨behind, ran, also⟩ := reserveOutput_traceless memory limited
    have config : after.stream.decoder.config = feeding.stream.decoder.config := by rw [same]
    change after.decoder.config = feeding.decoder.config at config
    rw [run, ran]
    refine ⟨rfl, ?_, ?_⟩
    · exact same.trans (alike.stream_eq.trans also.symm)
    · change ¬ heap.Refuses after.decoder.config.maxOutputSize
      rw [config]
      exact alike.memory

theorem unaware_finishPacket (packet : List UInt8) (compressed : Bool) (packetOffset : Nat) :
    Unaware heap (streamFinishPacket packet compressed packetOffset) := by
  intro feeding other alike
  unfold streamFinishPacket
  dsimp only
  rw [alike.mode]
  split_ifs with empty
  · exact unaware_fail _ _ _ _ alike
  · cases streamVarint packet feeding.decoder.config.mode with
    | partialInput => exact unaware_fail _ _ _ _ alike
    | invalid code offset => exact unaware_fail _ _ _ _ alike
    | complete packetId idSize =>
        dsimp only
        split_ifs with negative
        · exact unaware_fail _ _ _ _ alike
        · refine ⟨rfl, .of_parts ?_ ?_ alike.memory⟩
          · change { feeding.decoder.stream with output := feeding.decoder.output ++ packet } =
              { other.decoder.stream with output := other.decoder.output ++ packet }
            rw [alike.decoder_eq, alike.output]
          · change List.map _ (feeding.frames ++ _) = List.map _ (other.frames ++ _)
            rw [List.map_append, List.map_append, alike.frames_eq, alike.output]
            rfl

theorem unaware_emitUncompressed (packet : List UInt8) (compressed : Bool) (packetOffset : Nat) :
    Unaware heap (streamEmitUncompressed heap packet compressed packetOffset) :=
  .bind (unaware_emitRoom _ _) fun _ => unaware_finishPacket packet compressed packetOffset

theorem unaware_emitCompressed (zlib : Zlib) (compressed : List UInt8)
    (declaredSize packetOffset : Nat) :
    Unaware heap (streamEmitCompressed zlib heap compressed declaredSize packetOffset) := by
  unfold streamEmitCompressed
  refine .ite (unaware_fail _ _) (.bind (unaware_emitRoom _ _) fun _ => ?_)
  cases zlib.inflateOnce compressed declaredSize with
  | none => exact unaware_fail _ _
  | some step =>
      intro feeding other alike
      dsimp only
      rw [alike.config]
      split_ifs
      · exact unaware_fail _ _ _ _ alike
      · exact unaware_finishPacket _ _ _ _ _ alike

theorem unaware_decodeFrame (zlib : Zlib) (frame : List UInt8) (frameOffset : Nat) :
    Unaware heap (streamDecodeFrame zlib heap frame frameOffset) := by
  intro feeding other alike
  unfold streamDecodeFrame
  dsimp only
  rw [alike.config, alike.threshold]
  split_ifs with bare
  · exact unaware_emitUncompressed _ _ _ _ _ alike
  · cases streamVarint frame feeding.decoder.config.mode with
    | partialInput => exact unaware_fail _ _ _ _ alike
    | invalid code offset => exact unaware_fail _ _ _ _ alike
    | complete declared headerSize =>
        dsimp only
        split_ifs
        · exact unaware_fail _ _ _ _ alike
        · exact unaware_fail _ _ _ _ alike
        · exact unaware_emitUncompressed _ _ _ _ _ alike
        · exact unaware_fail _ _ _ _ alike
        · exact unaware_fail _ _ _ _ alike
        · exact unaware_emitCompressed _ _ _ _ _ _ alike

theorem unaware_feedLoop (zlib : Zlib) (quota consumed : Nat) :
    Unaware heap (feedLoop zlib heap quota consumed) := by
  induction quota generalizing consumed with
  | zero => exact unaware_stop consumed
  | succ quota ih =>
      intro feeding other alike
      have offsets (relative : Nat) : other.decoder.absoluteOffset relative =
          feeding.decoder.absoluteOffset relative := by
        rw [McStreamDecoder.absoluteOffset, McStreamDecoder.absoluteOffset, alike.offset]
      unfold feedLoop
      dsimp only
      simp only [alike.config, alike.buffer, offsets]
      split_ifs with drained
      · exact unaware_stop consumed _ _ alike
      · cases streamVarint (feeding.decoder.buffer.drop consumed) feeding.decoder.config.mode with
        | partialInput => exact unaware_stop consumed _ _ alike
        | invalid code offset => exact unaware_stopFailed consumed _ _ _ _ alike
        | complete encodedSize headerSize =>
            dsimp only
            split_ifs
            · exact unaware_stopFailed consumed _ _ _ _ alike
            · exact unaware_stopFailed consumed _ _ _ _ alike
            · exact unaware_stop consumed _ _ alike
            · obtain ⟨value, after⟩ := unaware_decodeFrame zlib
                ((feeding.decoder.buffer.drop (consumed + headerSize)).take encodedSize.toNat)
                (feeding.decoder.absoluteOffset (consumed + headerSize)) _ _ alike
              rcases run : streamDecodeFrame zlib heap
                ((feeding.decoder.buffer.drop (consumed + headerSize)).take encodedSize.toNat)
                (feeding.decoder.absoluteOffset (consumed + headerSize)) feeding with ⟨_ | u, left⟩
              · rcases ran : streamDecodeFrame zlib heap
                  ((feeding.decoder.buffer.drop (consumed + headerSize)).take encodedSize.toNat)
                  (feeding.decoder.absoluteOffset (consumed + headerSize)) other with
                    ⟨_ | u, right⟩
                · rw [run, ran] at after
                  exact ⟨rfl, after.consume consumed⟩
                · rw [run, ran] at value
                  cases value
              · rcases ran : streamDecodeFrame zlib heap
                  ((feeding.decoder.buffer.drop (consumed + headerSize)).take encodedSize.toNat)
                  (feeding.decoder.absoluteOffset (consumed + headerSize)) other with
                    ⟨_ | u, right⟩
                · rw [run, ran] at value
                  cases value
                · rw [run, ran] at after
                  exact ih _ _ _ after

end steps

/-- What a call finds of a decoder, besides memory: the output is one of the call before. -/
def McStreamDecoder.session (decoder : McStreamDecoder) : McStreamDecoder :=
  { decoder.stream with output := [] }

/-- What the views of a feed show, from what they say of it without their arena. -/
theorem Feeding.Arranged.packets_eq {feeding : Feeding} (arranged : feeding.Arranged) :
    feeding.packets = feeding.stream.packets := by
  simp only [Feeding.packets, Feeding.stream, List.map_map]
  refine List.map_congr_left fun frame mem => ?_
  have lies := (arranged.laid frame mem).1
  simp only [Function.comp_apply, McStreamDecoder.bytes, McDecodedFrame.unplaced,
    McStreamDecoder.stream, lies, if_true]

/-- Two calls that answer the same and leave the same. -/
structure SameFeed (call other : FeedResult × McStreamDecoder) : Prop where
  ok : call.1.ok = other.1.ok
  error : call.1.error = other.1.error
  packets : call.1.ok = true →
    (call.1.views call.2).packets = (other.1.views other.2).packets
  session : call.2.session = other.2.session

theorem session_fail (decoder : McStreamDecoder) (code : McErrorCode) (offset : Nat) :
    (decoder.fail code offset).session = decoder.session.fail code offset := by
  unfold McStreamDecoder.fail McStreamDecoder.session McStreamDecoder.stream
  dsimp only
  split_ifs
  · rfl
  · rfl

theorem setCompression_session (decoder : McStreamDecoder) (threshold : Int) :
    mcStreamDecoderSetCompression decoder.session threshold =
      ((mcStreamDecoderSetCompression decoder threshold).1,
        (mcStreamDecoderSetCompression decoder threshold).2.session) := by
  unfold mcStreamDecoderSetCompression McStreamDecoder.session McStreamDecoder.stream
  dsimp only
  split_ifs
  · rfl
  · rfl
  · rfl
  · rfl

section call

variable {decoder other : McStreamDecoder}

theorem sameFeed_failed (frames shown : List McDecodedFrame)
    (same : decoder.session = other.session) :
    SameFeed (feedFailed frames decoder) (feedFailed shown other) where
  ok := rfl
  error := (congrArg McStreamDecoder.lastError same :)
  packets accepted := by cases accepted
  session := same

theorem sameFeed_refused (code : McErrorCode) (same : decoder.session = other.session) :
    SameFeed (feedFailed [] (decoder.fail code (decoder.absoluteOffset decoder.buffer.length)))
      (feedFailed [] (other.fail code (other.absoluteOffset other.buffer.length))) := by
  have buffer : decoder.buffer = other.buffer := (congrArg McStreamDecoder.buffer same :)
  have offset : decoder.streamOffset = other.streamOffset :=
    (congrArg McStreamDecoder.streamOffset same :)
  apply sameFeed_failed
  rw [session_fail, session_fail, same, McStreamDecoder.absoluteOffset,
    McStreamDecoder.absoluteOffset, buffer, offset]

/-- What every feed starts from. -/
def McStreamDecoder.starting (decoder : McStreamDecoder) : McStreamDecoder :=
  { decoder with compressionTransitionReady := false, output := [] }

theorem session_starting (same : decoder.session = other.session) :
    decoder.starting.session = other.starting.session :=
  (congrArg (fun decoder : McStreamDecoder =>
    { decoder with compressionTransitionReady := false }) same :)

/-- The loops of two calls that differ in memory. -/
theorem sameFeed_loop {zlib : Zlib} {heap : Heap} (same : decoder.session = other.session)
    (output : ¬ heap.Refuses decoder.config.maxOutputSize) (data : List UInt8)
    (quota capacity serial capacity' serial' : Nat) :
    SameFeed (feedReturn quota (feedLoop zlib heap quota 0 (decoder.buffering data capacity serial)))
      (feedReturn quota (feedLoop zlib heap quota 0 (other.buffering data capacity' serial'))) := by
  have arranged (decoder : McStreamDecoder) (capacity serial : Nat) :
      (decoder.buffering data capacity serial).Arranged :=
    ⟨fun _ there => absurd there List.not_mem_nil, .nil⟩
  have alike : Feeding.Alike heap (decoder.buffering data capacity serial)
      (other.buffering data capacity' serial') := by
    refine .of_parts ?_ rfl output
    exact (congrArg (fun decoder : McStreamDecoder => { decoder with
      compressionTransitionReady := false
      buffer := decoder.buffer ++ data }) same :)
  have left := Feeding.arranged_moves.loop zlib heap _ quota 0 (arranged decoder capacity serial)
  have right := Feeding.arranged_moves.loop zlib heap _ quota 0 (arranged other capacity' serial')
  obtain ⟨value, after⟩ := unaware_feedLoop zlib quota 0 _ _ alike
  rcases run : feedLoop zlib heap quota 0 (decoder.buffering data capacity serial) with
    ⟨_ | ⟨⟩, feeding⟩
  · rcases ran : feedLoop zlib heap quota 0 (other.buffering data capacity' serial') with
      ⟨_ | ⟨⟩, behind⟩
    · rw [run, ran] at after
      apply sameFeed_failed
      exact (congrArg (fun decoder : McStreamDecoder => { decoder with output := [] })
        after.decoder_eq :)
    · rw [run, ran] at value
      cases value
  · rcases ran : feedLoop zlib heap quota 0 (other.buffering data capacity' serial') with
      ⟨_ | ⟨⟩, behind⟩
    · rw [run, ran] at value
      cases value
    · rw [run, ran] at after
      rw [run] at left
      rw [ran] at right
      have count : feeding.frames.length = behind.frames.length := by
        rw [← List.length_map, after.frames_eq, List.length_map]
      have ready : feeding.ready quota = behind.ready quota := by
        rw [Feeding.ready, Feeding.ready, count, after.buffer]
      refine ⟨rfl, rfl, fun _ => ?_, ?_⟩
      · change feeding.packets = behind.packets
        rw [left.packets_eq, right.packets_eq, after.stream_eq]
      · have streams := after.decoder_eq
        change { feeding.decoder.stream with
            output := [], compressionTransitionReady := feeding.ready quota } =
          { behind.decoder.stream with
            output := [], compressionTransitionReady := behind.ready quota }
        rw [streams, ready]

/-- What a feed comes to that is not refused for its size: the loop runs, or there is more in the
buffer than may be. -/
theorem feed_provided {zlib : Zlib} {heap : Heap} {call : FeedCall} (valid : ¬ call.Invalid)
    (clean : ¬ decoder.failed = true)
    (fits : ¬ decoder.config.maxBufferedSize - decoder.buffer.length < call.data.size)
    (memory : ¬ heap.Refuses decoder.config.maxBufferedSize) :
    if decoder.config.maxBufferedSize < decoder.buffer.length + call.data.size then
      mcStreamDecoderFeed zlib heap decoder call = feedFailed []
        (decoder.starting.fail .outOfMemory
          (decoder.starting.absoluteOffset decoder.starting.buffer.length))
    else ∃ capacity serial, mcStreamDecoderFeed zlib heap decoder call =
      feedReturn call.frameCapacity (feedLoop zlib heap call.frameCapacity 0
        (decoder.buffering call.data.content capacity serial)) := by
  split_ifs with overfull
  · have refused : streamReserve heap decoder.starting (decoder.buffer.length + call.data.size) =
        (false, decoder.starting) :=
      if_pos overfull
    simp only [McStreamDecoder.starting] at refused ⊢
    simp only [mcStreamDecoderFeed, if_neg valid, if_neg clean, if_neg fits, refused]
  · obtain ⟨-, more | refuses⟩ | ran := @feed_run zlib heap decoder call valid
      (Bool.eq_false_of_not_eq_true clean)
    · exact absurd more overfull
    · exact absurd refuses memory
    · exact ran

/-- A feed does not depend on the memory that the decoder has kept. -/
theorem feed_session {zlib : Zlib} {heap : Heap} (same : decoder.session = other.session)
    (buffering : ¬ heap.Refuses decoder.config.maxBufferedSize)
    (output : ¬ heap.Refuses decoder.config.maxOutputSize) (call : FeedCall) :
    SameFeed (mcStreamDecoderFeed zlib heap decoder call)
      (mcStreamDecoderFeed zlib heap other call) := by
  have buffer : other.buffer = decoder.buffer := (congrArg McStreamDecoder.buffer same.symm :)
  have config : other.config = decoder.config := (congrArg McStreamDecoder.config same.symm :)
  have broken : other.failed = decoder.failed := (congrArg McStreamDecoder.failed same.symm :)
  by_cases invalid : call.Invalid
  · simp only [mcStreamDecoderFeed, if_pos invalid]
    exact sameFeed_refused _ same
  by_cases failed : decoder.failed = true
  · have failing : other.failed = true := broken.trans failed
    simp only [mcStreamDecoderFeed, if_neg invalid, if_pos failed, if_pos failing]
    exact sameFeed_failed _ _ same
  have working : ¬ other.failed = true := broken ▸ failed
  by_cases limited : decoder.config.maxBufferedSize - decoder.buffer.length < call.data.size
  · have alike : other.config.maxBufferedSize - other.buffer.length < call.data.size := by
      rw [config, buffer]
      exact limited
    simp only [mcStreamDecoderFeed, if_neg invalid, if_neg failed, if_neg working, if_pos limited,
      if_pos alike]
    exact sameFeed_refused .bufferLimit (session_starting same)
  have left := @feed_provided decoder zlib heap call invalid failed limited buffering
  rw [← config, ← buffer] at limited
  rw [← config] at buffering
  have right := @feed_provided other zlib heap call invalid working limited buffering
  rw [config, buffer] at right
  split_ifs at left right with overfull
  · rw [left, right]
    exact sameFeed_refused .outOfMemory (session_starting same)
  · obtain ⟨capacity, serial, left⟩ := left
    obtain ⟨capacity', serial', right⟩ := right
    rw [left, right]
    exact sameFeed_loop same output _ _ _ _ _ _

end call

end McProtocol
