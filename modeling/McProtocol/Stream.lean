import McProtocol.VarInt
import McProtocol.Zlib

/-! # The stream decoder

`McStreamDecoder` buffers a byte stream, cuts it into frames, and lays the packets
of one feed out in an arena that the frames point into. Its allocations are asked
of a heap that may refuse any of them.
-/

namespace McProtocol

/-- Which allocations, by their number and size, succeed: no object is larger than
`PTRDIFF_MAX`. -/
structure Heap where
  grant : Nat → Nat → Bool
  bounded : ∀ serial size, grant serial size = true → size ≤ ptrdiffMax

/-- A heap that refuses only what no heap can give. -/
def Heap.ample : Heap where
  grant _ size := size ≤ ptrdiffMax
  bounded _ _ granted := of_decide_eq_true granted

structure McStreamDecoderConfig where
  maxFrameSize : Nat
  maxDecompressedSize : Nat
  maxBufferedSize : Nat
  maxOutputSize : Nat
  mode : McDecodeMode
  deriving Repr, DecidableEq

def mcStreamDecoderConfigInit : McStreamDecoderConfig where
  maxFrameSize := mcDefaultMaxFrameSize
  maxDecompressedSize := mcDefaultMaxDecompressedSize
  maxBufferedSize := mcDefaultMaxStreamBufferedSize
  maxOutputSize := mcDefaultMaxStreamOutputSize
  mode := .vanillaCompat

/-- The limits `mc_stream_decoder_create` refuses. -/
def McStreamDecoderConfig.Refused (effective : McStreamDecoderConfig) : Prop :=
  effective.maxFrameSize = 0 ∨ int32Max < effective.maxFrameSize ∨
    effective.maxDecompressedSize = 0 ∨ int32Max < effective.maxDecompressedSize ∨
    effective.maxBufferedSize = 0 ∨ effective.maxOutputSize = 0 ∨
    effective.maxOutputSize < effective.maxDecompressedSize ∨
    sizeMax - 5 < effective.maxFrameSize ∨
    ¬ sizeMax - 5 < effective.maxFrameSize ∧ effective.maxBufferedSize < effective.maxFrameSize + 5

instance : DecidablePred McStreamDecoderConfig.Refused :=
  fun _ => inferInstanceAs (Decidable (_ ∨ _))

/-- `buffer` is `buffer[0..buffer_size)` and `output` is `output[0..output_size)`;
`arena` is the allocation `output` lies in, `serial` counts the allocations. -/
structure McStreamDecoder where
  config : McStreamDecoderConfig
  buffer : List UInt8
  bufferCapacity : Nat
  output : List UInt8
  outputCapacity : Nat
  arena : Nat
  serial : Nat
  streamOffset : Nat
  compressionThreshold : Int
  compressionTransitionReady : Bool
  failed : Bool
  lastError : McError
  deriving Repr, DecidableEq

/-- A slice of an arena. -/
structure McView where
  arena : Nat
  offset : Nat
  size : Nat
  deriving Repr, DecidableEq

structure McDecodedFrame where
  packetId : Int
  payload : McView
  compressed : Bool
  deriving Repr, DecidableEq

def saturatingAdd (left right : Nat) : Nat :=
  if sizeMax - left < right then sizeMax else left + right

namespace McStreamDecoder

def absoluteOffset (decoder : McStreamDecoder) (relative : Nat) : Nat :=
  saturatingAdd decoder.streamOffset relative

/-- `stream_fail`: the first failure is kept. -/
def fail (decoder : McStreamDecoder) (code : McErrorCode) (offset : Nat) : McStreamDecoder :=
  if decoder.failed then decoder
  else
    { decoder with
      failed := true
      lastError := { mcErrorClear with code := code, offset := offset } }

/-- `stream_consume`. -/
def consume (decoder : McStreamDecoder) (consumed : Nat) : McStreamDecoder :=
  if consumed = 0 then decoder
  else
    { decoder with
      buffer := decoder.buffer.drop consumed
      streamOffset := saturatingAdd decoder.streamOffset consumed }

/-- The bytes a view shows; a view of an arena that was given up shows nothing. -/
def bytes (decoder : McStreamDecoder) (view : McView) : List UInt8 :=
  if view.arena = decoder.arena then (decoder.output.drop view.offset).take view.size else []

end McStreamDecoder

def mcStreamDecoderCreate (config : Option McStreamDecoderConfig) (granted : Bool) :
    Except McError McStreamDecoder :=
  let effective := config.getD mcStreamDecoderConfigInit
  if effective.Refused then
    .error (recordError mcErrorClear .invalidArgument mcErrorOffsetUnknown)
  else if !granted then
    .error (recordError mcErrorClear .outOfMemory mcErrorOffsetUnknown)
  else
    .ok
      { config := effective
        buffer := []
        bufferCapacity := 0
        output := []
        outputCapacity := 0
        arena := 0
        serial := 0
        streamOffset := 0
        compressionThreshold := -1
        compressionTransitionReady := false
        failed := false
        lastError := mcErrorClear }

def mcStreamDecoderReset (decoder : McStreamDecoder) : McStreamDecoder :=
  { decoder with
    buffer := []
    output := []
    streamOffset := 0
    compressionThreshold := -1
    compressionTransitionReady := false
    failed := false
    lastError := mcErrorClear }

def mcStreamDecoderBufferedSize (decoder : McStreamDecoder) : Nat := decoder.buffer.length

/-- The error of a refused call is returned; a failed decoder repeats its own. -/
def mcStreamDecoderSetCompression (decoder : McStreamDecoder) (threshold : Int) :
    Option McError × McStreamDecoder :=
  if threshold < -1 then
    (some (recordError mcErrorClear .invalidArgument
      (decoder.absoluteOffset decoder.buffer.length)), decoder)
  else if decoder.failed then (some decoder.lastError, decoder)
  else if decoder.buffer.length ≠ 0 ∧ decoder.compressionTransitionReady = false then
    (some (recordError mcErrorClear .invalidState
      (decoder.absoluteOffset decoder.buffer.length)), decoder)
  else
    (none, { decoder with compressionThreshold := threshold, compressionTransitionReady := false })

/-- The doubling loop of `stream_reserve` and `stream_reserve_output`. -/
def growLoop (maximum needed grown : Nat) : Nat :=
  if grown < needed then
    let next := if maximum / 2 < grown then maximum else grown * 2
    if next ≤ grown then needed else growLoop maximum needed next
  else grown
termination_by needed - grown
decreasing_by
  rename_i below above
  simp only [next] at above ⊢
  omega

def grownCapacity (maximum needed capacity : Nat) : Nat :=
  growLoop maximum needed (min (if capacity = 0 then 4096 else capacity) maximum)

/-- `stream_reserve` on the input buffer; `false` when it cannot hold `needed` bytes. -/
def streamReserve (heap : Heap) (decoder : McStreamDecoder) (needed : Nat) :
    Bool × McStreamDecoder :=
  if decoder.config.maxBufferedSize < needed then (false, decoder)
  else if needed ≤ decoder.bufferCapacity then (true, decoder)
  else
    let grown := grownCapacity decoder.config.maxBufferedSize needed decoder.bufferCapacity
    if heap.grant decoder.serial grown then
      (true, { decoder with bufferCapacity := grown, serial := decoder.serial + 1 })
    else (false, { decoder with serial := decoder.serial + 1 })

/-- A feed under way: the decoder, and the frames written to the caller's array. -/
structure Feeding where
  decoder : McStreamDecoder
  frames : List McDecodedFrame
  deriving Repr, DecidableEq

/-- Steps of a feed; refusing is returning `-1`. -/
abbrev FeedM := Prog Feeding

def streamFail {α : Type} (code : McErrorCode) (offset : Nat) : FeedM α := fun feeding =>
  (none, { feeding with decoder := feeding.decoder.fail code offset })

/-- `stream_reserve_output`: a larger arena takes over what the old one holds, and
the frames of this feed are moved along. -/
def streamReserveOutput (heap : Heap) (needed : Nat) : FeedM Unit := fun feeding =>
  let decoder := feeding.decoder
  if decoder.config.maxOutputSize < needed then (none, feeding)
  else if needed ≤ decoder.outputCapacity then (some (), feeding)
  else
    let grown := grownCapacity decoder.config.maxOutputSize needed decoder.outputCapacity
    if heap.grant decoder.serial grown then
      (some (),
        { decoder :=
            { decoder with
              outputCapacity := grown
              arena := decoder.serial + 1
              serial := decoder.serial + 1 }
          frames := feeding.frames.map fun frame =>
            { frame with payload := { frame.payload with arena := decoder.serial + 1 } } })
    else (none, { feeding with decoder := { decoder with serial := decoder.serial + 1 } })

/-- `stream_finish_packet`, with the packet already written behind `output_size`: a
refused packet leaves `output_size` where it was. -/
def streamFinishPacket (packet : List UInt8) (compressed : Bool) (packetOffset : Nat) :
    FeedM Unit := fun feeding =>
  let decoder := feeding.decoder
  if packet.length = 0 then streamFail .invalidPacketBody packetOffset feeding
  else
    match streamVarint packet decoder.config.mode with
    | .partialInput => streamFail .invalidPacketBody (saturatingAdd packetOffset 0) feeding
    | .invalid code offset => streamFail code (saturatingAdd packetOffset offset) feeding
    | .complete packetId idSize =>
        if packetId < 0 then
          streamFail .invalidPacketBody (saturatingAdd packetOffset 0) feeding
        else
          (some (),
            { decoder := { decoder with output := decoder.output ++ packet }
              frames := feeding.frames ++
                [{ packetId := packetId
                   payload :=
                     { arena := decoder.arena
                       offset := decoder.output.length + idSize
                       size := packet.length - idSize }
                   compressed := compressed }] })

/-- The room checks both kinds of packets make before they are written. -/
def streamEmitRoom (heap : Heap) (packetSize packetOffset : Nat) : FeedM Unit := fun feeding =>
  let decoder := feeding.decoder
  if sizeMax - decoder.output.length < packetSize then
    streamFail .integerOverflow packetOffset feeding
  else
    let needed := decoder.output.length + packetSize
    if decoder.config.maxOutputSize < needed then streamFail .bufferLimit packetOffset feeding
    else
      match streamReserveOutput heap needed feeding with
      | (some (), feeding) => (some (), feeding)
      | (none, feeding) => streamFail .outOfMemory packetOffset feeding

def streamEmitUncompressed (heap : Heap) (packet : List UInt8) (compressed : Bool)
    (packetOffset : Nat) : FeedM Unit := do
  streamEmitRoom heap packet.length packetOffset
  streamFinishPacket packet compressed packetOffset

def streamEmitCompressed (zlib : Zlib) (heap : Heap) (compressed : List UInt8)
    (declaredSize packetOffset : Nat) : FeedM Unit :=
  if uintMax < compressed.length ∨ uintMax < declaredSize then
    streamFail .integerOverflow packetOffset
  else do
    streamEmitRoom heap declaredSize packetOffset
    match zlib.inflateOnce compressed declaredSize with
    | none => streamFail .zlib packetOffset
    | some step => fun feeding =>
        if step.status ≠ .streamEnd ∨ step.output.length ≠ declaredSize ∨
            feeding.decoder.config.mode = .strict ∧ step.rest.length ≠ 0 then
          streamFail .zlib packetOffset feeding
        else streamFinishPacket step.output true packetOffset feeding

def streamDecodeFrame (zlib : Zlib) (heap : Heap) (frame : List UInt8) (frameOffset : Nat) :
    FeedM Unit := fun feeding =>
  let decoder := feeding.decoder
  if decoder.compressionThreshold < 0 then
    streamEmitUncompressed heap frame false frameOffset feeding
  else
    match streamVarint frame decoder.config.mode with
    | .partialInput => streamFail .compressionHeader (saturatingAdd frameOffset 0) feeding
    | .invalid code offset => streamFail code (saturatingAdd frameOffset offset) feeding
    | .complete declared headerSize =>
        let body := frame.drop headerSize
        let bodyOffset := saturatingAdd frameOffset headerSize
        if declared < 0 then streamFail .compressionHeader (saturatingAdd frameOffset 0) feeding
        else if declared = 0 then
          if decoder.config.mode = .strict ∧ decoder.compressionThreshold ≤ body.length then
            streamFail .compressionThreshold frameOffset feeding
          else streamEmitUncompressed heap body false bodyOffset feeding
        else if decoder.config.maxDecompressedSize < declared.toNat then
          streamFail .decompressedTooLarge frameOffset feeding
        else if decoder.config.mode = .strict ∧ declared < decoder.compressionThreshold then
          streamFail .compressionThreshold frameOffset feeding
        else streamEmitCompressed zlib heap body declared.toNat bodyOffset feeding

/-- `stream_consume`, then succeed or fail at an offset behind what was consumed. -/
def streamStop (consumed : Nat) : FeedM Unit := fun feeding =>
  (some (), { feeding with decoder := feeding.decoder.consume consumed })

def streamStopFailed (consumed : Nat) (code : McErrorCode) (relative : Nat) : FeedM Unit :=
  fun feeding =>
    let decoder := feeding.decoder.consume consumed
    streamFail code (decoder.absoluteOffset relative) { feeding with decoder := decoder }

/-- The loop of `mc_stream_decoder_feed`, with `quota` frames to go. -/
def feedLoop (zlib : Zlib) (heap : Heap) : Nat → Nat → FeedM Unit
  | 0, consumed => streamStop consumed
  | quota + 1, consumed => fun feeding =>
      let decoder := feeding.decoder
      if decoder.buffer.length ≤ consumed then streamStop consumed feeding
      else
        match streamVarint (decoder.buffer.drop consumed) decoder.config.mode with
        | .partialInput => streamStop consumed feeding
        | .invalid code offset => streamStopFailed consumed code offset feeding
        | .complete encodedSize headerSize =>
            if encodedSize ≤ 0 then streamStopFailed consumed .invalidLength 0 feeding
            else if decoder.config.maxFrameSize < encodedSize.toNat then
              streamStopFailed consumed .frameTooLarge 0 feeding
            else if decoder.buffer.length - consumed - headerSize < encodedSize.toNat then
              streamStop consumed feeding
            else
              let frame := (decoder.buffer.drop (consumed + headerSize)).take encodedSize.toNat
              let frameOffset := decoder.absoluteOffset (consumed + headerSize)
              match streamDecodeFrame zlib heap frame frameOffset feeding with
              | (none, feeding) =>
                  (none, { feeding with decoder := feeding.decoder.consume consumed })
              | (some (), feeding) =>
                  feedLoop zlib heap quota (consumed + headerSize + encodedSize.toNat) feeding

/-- The arguments of a feed; the two flags are the pointers that may be null. -/
structure FeedCall where
  data : Buffer
  frameCapacity : Nat
  framesNull : Bool
  frameCountNull : Bool
  deriving Repr, DecidableEq

/-- What a call returns: its result, the frames it wrote, and its error. -/
structure FeedResult where
  ok : Bool
  frames : List McDecodedFrame
  error : McError
  deriving Repr, DecidableEq

def FeedCall.Invalid (call : FeedCall) : Prop :=
  call.frameCountNull = true ∨ call.data.Missing ∨
    call.frameCapacity ≠ 0 ∧ call.framesNull = true

instance : DecidablePred FeedCall.Invalid :=
  fun _ => inferInstanceAs (Decidable (_ ∨ _))

/-- A refused call: no frames but those given, and the decoder's own error. -/
def feedFailed (frames : List McDecodedFrame) (decoder : McStreamDecoder) :
    FeedResult × McStreamDecoder :=
  (⟨false, frames, decoder.lastError⟩, decoder)

def mcStreamDecoderFeed (zlib : Zlib) (heap : Heap) (decoder : McStreamDecoder)
    (call : FeedCall) : FeedResult × McStreamDecoder :=
  let size := call.data.size
  let refuse (code : McErrorCode) (decoder : McStreamDecoder) :=
    feedFailed [] (decoder.fail code (decoder.absoluteOffset decoder.buffer.length))
  if call.Invalid then refuse .invalidArgument decoder
  else if decoder.failed then feedFailed [] decoder
  else
    let decoder := { decoder with compressionTransitionReady := false, output := [] }
    if decoder.config.maxBufferedSize - decoder.buffer.length < size then
      refuse .bufferLimit decoder
    else
      match streamReserve heap decoder (decoder.buffer.length + size) with
      | (false, decoder) => refuse .outOfMemory decoder
      | (true, decoder) =>
          let decoder := { decoder with buffer := decoder.buffer ++ call.data.content }
          match feedLoop zlib heap call.frameCapacity 0 ⟨decoder, []⟩ with
          | (none, feeding) => feedFailed feeding.frames feeding.decoder
          | (some (), feeding) =>
              let emitted := feeding.frames.length
              let ready := emitted ≠ 0 ∧ emitted = call.frameCapacity ∧
                feeding.decoder.buffer.length ≠ 0
              (⟨true, feeding.frames, mcErrorClear⟩,
                { feeding.decoder with compressionTransitionReady := ready })

/-- `mc_stream_decoder_finish`: the error, if any. -/
def mcStreamDecoderFinish (decoder : McStreamDecoder) : Option McError × McStreamDecoder :=
  if decoder.failed then (some decoder.lastError, decoder)
  else if decoder.buffer.length ≠ 0 then
    let decoder := decoder.fail .partialInput (decoder.absoluteOffset decoder.buffer.length)
    (some decoder.lastError, decoder)
  else (none, decoder)

/-- `stream_decoder_frame_ready`. -/
def streamDecoderFrameReady (decoder : McStreamDecoder) : Bool :=
  if decoder.failed then true
  else if decoder.buffer.length = 0 then false
  else
    match streamVarint decoder.buffer decoder.config.mode with
    | .invalid _ _ => true
    | .partialInput => false
    | .complete encodedSize headerSize =>
        if encodedSize ≤ 0 ∨ decoder.config.maxFrameSize < encodedSize.toNat then true
        else encodedSize.toNat ≤ decoder.buffer.length - headerSize

/-- A decoder keeps its limits, and its arena stays an object of memory. -/
structure McStreamDecoder.SameMake (before after : McStreamDecoder) : Prop where
  config : after.config = before.config
  object : before.outputCapacity ≤ ptrdiffMax → after.outputCapacity ≤ ptrdiffMax

namespace McStreamDecoder

theorem SameMake.refl (decoder : McStreamDecoder) : SameMake decoder decoder := ⟨rfl, id⟩

theorem SameMake.trans {first second third : McStreamDecoder} (left : SameMake first second)
    (right : SameMake second third) : SameMake first third :=
  ⟨right.config.trans left.config, right.object ∘ left.object⟩

theorem sameMake_fail (decoder : McStreamDecoder) (code : McErrorCode) (offset : Nat) :
    SameMake decoder (decoder.fail code offset) := by
  unfold fail
  split_ifs
  · exact .refl decoder
  · exact ⟨rfl, id⟩

theorem sameMake_consume (decoder : McStreamDecoder) (consumed : Nat) :
    SameMake decoder (decoder.consume consumed) := by
  unfold consume
  split_ifs
  · exact .refl decoder
  · exact ⟨rfl, id⟩

theorem sameMake_setCompression (decoder : McStreamDecoder) (threshold : Int) :
    SameMake decoder (mcStreamDecoderSetCompression decoder threshold).2 := by
  unfold mcStreamDecoderSetCompression
  split_ifs
  · exact .refl decoder
  · exact .refl decoder
  · exact .refl decoder
  · exact ⟨rfl, id⟩

theorem sameMake_reserve (heap : Heap) (decoder : McStreamDecoder) (needed : Nat) :
    SameMake decoder (streamReserve heap decoder needed).2 := by
  unfold streamReserve
  dsimp only
  split_ifs
  · exact .refl decoder
  · exact .refl decoder
  · exact ⟨rfl, id⟩
  · exact ⟨rfl, id⟩

end McStreamDecoder

/-- A preorder along which every move goes that decoding a frame makes. -/
structure FrameMoves (R : Feeding → Feeding → Prop) : Prop where
  trans : ∀ {first second third : Feeding}, R first second → R second third → R first third
  fails : ∀ (feeding : Feeding) (code : McErrorCode) (offset : Nat),
    R feeding { feeding with decoder := feeding.decoder.fail code offset }
  reservesOutput : ∀ (heap : Heap) (needed : Nat) (feeding : Feeding),
    R feeding (streamReserveOutput heap needed feeding).2
  finishes : ∀ (packet : List UInt8) (compressed : Bool) (packetOffset : Nat) (feeding : Feeding),
    R feeding (streamFinishPacket packet compressed packetOffset feeding).2

namespace FrameMoves

variable {R : Feeding → Feeding → Prop} (moves : FrameMoves R) (zlib : Zlib) (heap : Heap)
  (feeding : Feeding)
include moves

theorem emitRoom (packetSize packetOffset : Nat) :
    R feeding (streamEmitRoom heap packetSize packetOffset feeding).2 := by
  unfold streamEmitRoom
  dsimp only
  split_ifs with wraps limited
  · exact moves.fails _ _ _
  · exact moves.fails _ _ _
  · have reserved := moves.reservesOutput heap (feeding.decoder.output.length + packetSize) feeding
    rcases run : streamReserveOutput heap (feeding.decoder.output.length + packetSize) feeding with
      ⟨_ | u, held⟩
    · rw [run] at reserved
      exact moves.trans reserved (moves.fails _ _ _)
    · rw [run] at reserved
      exact reserved

/-- What follows the room for a packet. -/
theorem emitRoom_then (packetSize packetOffset : Nat) {rest : Unit → FeedM Unit}
    (behind : ∀ feeding : Feeding, R feeding (rest () feeding).2) :
    R feeding ((streamEmitRoom heap packetSize packetOffset >>= rest) feeding).2 := by
  have room := moves.emitRoom heap feeding packetSize packetOffset
  rcases run : streamEmitRoom heap packetSize packetOffset feeding with ⟨_ | u, after⟩
  · rw [run] at room
    rw [Prog.bind_none run]
    exact room
  · rw [run] at room
    rw [Prog.bind_some run]
    exact moves.trans room (behind after)

theorem emitUncompressed (packet : List UInt8) (compressed : Bool) (packetOffset : Nat) :
    R feeding (streamEmitUncompressed heap packet compressed packetOffset feeding).2 :=
  moves.emitRoom_then heap feeding _ _ fun feeding => moves.finishes _ _ _ feeding

theorem emitCompressed (compressed : List UInt8) (declaredSize packetOffset : Nat) :
    R feeding (streamEmitCompressed zlib heap compressed declaredSize packetOffset feeding).2 := by
  unfold streamEmitCompressed
  split_ifs with large
  · exact moves.fails _ _ _
  · refine moves.emitRoom_then heap feeding _ _ fun feeding => ?_
    cases zlib.inflateOnce compressed declaredSize with
    | none => exact moves.fails _ _ _
    | some step =>
        dsimp only
        split_ifs with short
        · exact moves.fails _ _ _
        · exact moves.finishes _ _ _ feeding

theorem decodeFrame (frame : List UInt8) (frameOffset : Nat) :
    R feeding (streamDecodeFrame zlib heap frame frameOffset feeding).2 := by
  unfold streamDecodeFrame
  dsimp only
  split_ifs with bare
  · exact moves.emitUncompressed heap feeding _ _ _
  · cases streamVarint frame feeding.decoder.config.mode with
    | partialInput => exact moves.fails _ _ _
    | invalid code offset => exact moves.fails _ _ _
    | complete declared headerSize =>
        dsimp only
        split_ifs
        · exact moves.fails _ _ _
        · exact moves.fails _ _ _
        · exact moves.emitUncompressed heap feeding _ _ _
        · exact moves.fails _ _ _
        · exact moves.fails _ _ _
        · exact moves.emitCompressed zlib heap feeding _ _ _

end FrameMoves

/-- A preorder along which every move of a feed's loop goes. -/
structure FeedMoves (R : Feeding → Feeding → Prop) : Prop where
  trans : ∀ {first second third : Feeding}, R first second → R second third → R first third
  fails : ∀ (feeding : Feeding) (code : McErrorCode) (offset : Nat),
    R feeding { feeding with decoder := feeding.decoder.fail code offset }
  consumes : ∀ (feeding : Feeding) (consumed : Nat),
    R feeding { feeding with decoder := feeding.decoder.consume consumed }
  reservesOutput : ∀ (heap : Heap) (needed : Nat) (feeding : Feeding),
    R feeding (streamReserveOutput heap needed feeding).2
  finishes : ∀ (packet : List UInt8) (compressed : Bool) (packetOffset : Nat) (feeding : Feeding),
    R feeding (streamFinishPacket packet compressed packetOffset feeding).2

namespace FeedMoves

variable {R : Feeding → Feeding → Prop} (moves : FeedMoves R) (zlib : Zlib) (heap : Heap)
  (feeding : Feeding)
include moves

omit zlib heap feeding in
theorem frameMoves : FrameMoves R :=
  ⟨moves.trans, moves.fails, moves.reservesOutput, moves.finishes⟩

theorem stopFailed (consumed : Nat) (code : McErrorCode) (relative : Nat) :
    R feeding (streamStopFailed consumed code relative feeding).2 :=
  moves.trans (moves.consumes _ _) (moves.fails _ _ _)

theorem loop (quota consumed : Nat) : R feeding (feedLoop zlib heap quota consumed feeding).2 := by
  induction quota generalizing feeding consumed with
  | zero => exact moves.consumes _ _
  | succ quota ih =>
      unfold feedLoop
      dsimp only
      split_ifs with drained
      · exact moves.consumes _ _
      · cases streamVarint (feeding.decoder.buffer.drop consumed) feeding.decoder.config.mode with
        | partialInput => exact moves.consumes _ _
        | invalid code offset => exact moves.stopFailed feeding consumed code offset
        | complete encodedSize headerSize =>
            dsimp only
            split_ifs
            · exact moves.stopFailed feeding consumed _ _
            · exact moves.stopFailed feeding consumed _ _
            · exact moves.consumes _ _
            · have decoded := moves.frameMoves.decodeFrame zlib heap feeding
                ((feeding.decoder.buffer.drop (consumed + headerSize)).take encodedSize.toNat)
                (feeding.decoder.absoluteOffset (consumed + headerSize))
              split
              · rename_i failed run
                rw [run] at decoded
                exact moves.trans decoded (moves.consumes _ _)
              · rename_i emitted run
                rw [run] at decoded
                exact moves.trans decoded (ih emitted _)

end FeedMoves

/-- A preorder on decoders along which every move of a feed goes. -/
structure DecoderMoves (R : McStreamDecoder → McStreamDecoder → Prop) : Prop where
  refl : ∀ decoder, R decoder decoder
  trans : ∀ {first second third : McStreamDecoder}, R first second → R second third → R first third
  fails : ∀ (decoder : McStreamDecoder) (code : McErrorCode) (offset : Nat),
    R decoder (decoder.fail code offset)
  consumes : ∀ (decoder : McStreamDecoder) (consumed : Nat), R decoder (decoder.consume consumed)
  reserves : ∀ (heap : Heap) (decoder : McStreamDecoder) (needed : Nat),
    R decoder (streamReserve heap decoder needed).2
  reservesOutput : ∀ (heap : Heap) (needed : Nat) (feeding : Feeding),
    R feeding.decoder (streamReserveOutput heap needed feeding).2.decoder
  buffers : ∀ (decoder : McStreamDecoder) (buffer : List UInt8), R decoder { decoder with buffer }
  laysOut : ∀ (decoder : McStreamDecoder) (output : List UInt8), R decoder { decoder with output }
  marks : ∀ (decoder : McStreamDecoder) (ready : Bool),
    R decoder { decoder with compressionTransitionReady := ready }

namespace DecoderMoves

variable {R : McStreamDecoder → McStreamDecoder → Prop} (moves : DecoderMoves R)
include moves

theorem feedMoves : FeedMoves fun before after => R before.decoder after.decoder where
  trans := moves.trans
  fails feeding := moves.fails feeding.decoder
  consumes feeding := moves.consumes feeding.decoder
  reservesOutput := moves.reservesOutput
  finishes packet compressed packetOffset feeding := by
    unfold streamFinishPacket
    dsimp only
    split_ifs with empty
    · exact moves.fails _ _ _
    · cases streamVarint packet feeding.decoder.config.mode with
      | partialInput => exact moves.fails _ _ _
      | invalid code offset => exact moves.fails _ _ _
      | complete packetId idSize =>
          dsimp only
          split_ifs with negative
          · exact moves.fails _ _ _
          · exact moves.laysOut _ _

theorem feed (zlib : Zlib) (heap : Heap) (decoder : McStreamDecoder) (call : FeedCall) :
    R decoder (mcStreamDecoderFeed zlib heap decoder call).2 := by
  unfold mcStreamDecoderFeed
  dsimp only [feedFailed]
  split_ifs with invalid failed limited
  · exact moves.fails _ _ _
  · exact moves.refl decoder
  · exact moves.trans (moves.trans (moves.marks decoder false) (moves.laysOut _ []))
      (moves.fails _ _ _)
  · have started := moves.trans (moves.marks decoder false) (moves.laysOut _ [])
    have reserved := moves.trans started (moves.reserves heap
      { decoder with compressionTransitionReady := false, output := [] }
      (decoder.buffer.length + call.data.size))
    split
    · rename_i held run
      rw [run] at reserved
      exact moves.trans reserved (moves.fails _ _ _)
    · rename_i held run
      rw [run] at reserved
      have buffered := moves.trans reserved
        (moves.buffers held (held.buffer ++ call.data.content))
      have looped := moves.trans buffered (moves.feedMoves.loop zlib heap
        ⟨{ held with buffer := held.buffer ++ call.data.content }, []⟩ call.frameCapacity 0)
      split
      · rename_i feeding ended
        rw [ended] at looped
        exact looped
      · rename_i feeding ended
        rw [ended] at looped
        exact moves.trans looped (moves.marks _ _)

end DecoderMoves

theorem sameMake_moves : DecoderMoves McStreamDecoder.SameMake where
  refl := .refl
  trans := .trans
  fails decoder := decoder.sameMake_fail
  consumes decoder := decoder.sameMake_consume
  reserves heap decoder := decoder.sameMake_reserve heap
  reservesOutput heap needed feeding := by
    unfold streamReserveOutput
    dsimp only
    split_ifs with limited enough granted
    · exact .refl feeding.decoder
    · exact .refl feeding.decoder
    · exact ⟨rfl, fun _ => heap.bounded _ _ granted⟩
    · exact ⟨rfl, id⟩
  buffers _ _ := ⟨rfl, id⟩
  laysOut _ _ := ⟨rfl, id⟩
  marks _ _ := ⟨rfl, id⟩

theorem mcStreamDecoderFeed_make (zlib : Zlib) (heap : Heap) (decoder : McStreamDecoder)
    (call : FeedCall) : decoder.SameMake (mcStreamDecoderFeed zlib heap decoder call).2 :=
  sameMake_moves.feed zlib heap decoder call

/-- Feeding does not change what frames are taken for. -/
theorem sameThreshold_moves :
    DecoderMoves fun before after => after.compressionThreshold = before.compressionThreshold where
  refl _ := rfl
  trans left right := right.trans left
  fails decoder code offset := by
    unfold McStreamDecoder.fail
    split_ifs <;> rfl
  consumes decoder consumed := by
    unfold McStreamDecoder.consume
    split_ifs <;> rfl
  reserves heap decoder needed := by
    unfold streamReserve
    dsimp only
    split_ifs <;> rfl
  reservesOutput heap needed feeding := by
    unfold streamReserveOutput
    dsimp only
    split_ifs <;> rfl
  buffers _ _ := rfl
  laysOut _ _ := rfl
  marks _ _ := rfl

end McProtocol
