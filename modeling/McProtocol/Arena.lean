import McProtocol.Lib.Relational
import McProtocol.FrameViews

/-! # The output arena

The stream decoder once more, with the memory its frames point into: `output` is a block
of the heap, written behind `output_size` before a packet is committed, and replaced while
earlier frames of the same feed point into it. Below, this decoder is shown to do what the
one without memory does.
-/

namespace McProtocol

structure Pointer where
  block : Nat
  offset : Nat
  deriving Repr, DecidableEq

/-- The heap of the output: what is in a new block is anything, and so is what `inflate`
leaves in its room behind the bytes it says it produced. -/
structure Malloc extends Heap where
  fresh : Nat → Nat → List UInt8
  fresh_length : ∀ serial size, (fresh serial size).length = size
  spill : List UInt8 → Nat → List UInt8

/-- The frames a caller gets. -/
structure PlacedFrame where
  packetId : Int
  data : Pointer
  size : Nat
  compressed : Bool
  deriving Repr, DecidableEq

/-- `decoder` has the fields other than `output` and `output_size`, its `arena` being the
block that `output` points to; `blocks` are the blocks that are allocated. Block `0` is
the null pointer's. -/
structure ArenaDecoder where
  decoder : McStreamDecoder
  outputSize : Nat
  blocks : Nat → Option (List UInt8)

/-- Bytes with others written into them. -/
def overwrite (bytes : List UInt8) (offset : Nat) (data : List UInt8) : List UInt8 :=
  bytes.take offset ++ data ++ bytes.drop (offset + data.length)

namespace ArenaDecoder

def fail (decoder : ArenaDecoder) (code : McErrorCode) (offset : Nat) : ArenaDecoder :=
  { decoder with decoder := decoder.decoder.fail code offset }

def consume (decoder : ArenaDecoder) (consumed : Nat) : ArenaDecoder :=
  { decoder with decoder := decoder.decoder.consume consumed }

/-- What is allocated behind `output`. -/
def block (decoder : ArenaDecoder) : List UInt8 := (decoder.blocks decoder.decoder.arena).getD []

/-- Reading `size` bytes through a pointer, if they are there. -/
def read (decoder : ArenaDecoder) (data : Pointer) (size : Nat) : Option (List UInt8) :=
  (decoder.blocks data.block).bind fun bytes =>
    if data.offset + size ≤ bytes.length then some ((bytes.drop data.offset).take size) else none

/-- Writing behind `output + offset`. -/
def write (decoder : ArenaDecoder) (offset : Nat) (data : List UInt8) : ArenaDecoder :=
  { decoder with
    blocks := Function.update decoder.blocks decoder.decoder.arena
      (some (overwrite decoder.block offset data)) }

end ArenaDecoder

/-- A feed under way. -/
structure ArenaFeeding where
  decoder : ArenaDecoder
  frames : List PlacedFrame

/-- `payload.data = replacement + (payload.data - output)`; the difference is one of
pointers into the same block. -/
def PlacedFrame.rebase (output replacement : Nat) (frame : PlacedFrame) : PlacedFrame :=
  if frame.data.block = output then
    { frame with data := { frame.data with block := replacement } }
  else frame

namespace Arena

abbrev FeedM := Prog ArenaFeeding

def streamFail {α : Type} (code : McErrorCode) (offset : Nat) : FeedM α := fun feeding =>
  (none, { feeding with decoder := feeding.decoder.fail code offset })

def streamReserveOutput (malloc : Malloc) (needed : Nat) : FeedM Unit := fun feeding =>
  let arena := feeding.decoder
  let decoder := arena.decoder
  if decoder.config.maxOutputSize < needed then (none, feeding)
  else if needed ≤ decoder.outputCapacity then (some (), feeding)
  else
    let grown := grownCapacity decoder.config.maxOutputSize needed decoder.outputCapacity
    if malloc.grant decoder.serial grown then
      let replacement := decoder.serial + 1
      let filled := overwrite (malloc.fresh decoder.serial grown) 0 (arena.block.take arena.outputSize)
      (some (),
        { decoder :=
            { arena with
              decoder :=
                { decoder with
                  outputCapacity := grown
                  arena := replacement
                  serial := replacement }
              blocks := Function.update (Function.update arena.blocks replacement (some filled))
                decoder.arena none }
          frames := feeding.frames.map (PlacedFrame.rebase decoder.arena replacement) })
    else
      (none, { feeding with
        decoder := { arena with decoder := { decoder with serial := decoder.serial + 1 } } })

/-- The packet lies behind `output + start`. -/
def streamFinishPacket (start packetSize : Nat) (compressed : Bool) (packetOffset : Nat) :
    FeedM Unit := fun feeding =>
  let arena := feeding.decoder
  let refuse (code : McErrorCode) (offset : Nat) : Option Unit × ArenaFeeding :=
    streamFail code offset { feeding with decoder := { arena with outputSize := start } }
  if packetSize = 0 then refuse .invalidPacketBody packetOffset
  else
    match streamVarint ((arena.block.drop start).take packetSize) arena.decoder.config.mode with
    | .partialInput => refuse .invalidPacketBody (saturatingAdd packetOffset 0)
    | .invalid code offset => refuse code (saturatingAdd packetOffset offset)
    | .complete packetId idSize =>
        if packetId < 0 then refuse .invalidPacketBody (saturatingAdd packetOffset 0)
        else
          (some (),
            { decoder := { arena with outputSize := start + packetSize }
              frames := feeding.frames ++
                [{ packetId := packetId
                   data := ⟨arena.decoder.arena, start + idSize⟩
                   size := packetSize - idSize
                   compressed := compressed }] })

def streamEmitRoom (malloc : Malloc) (packetSize packetOffset : Nat) : FeedM Unit :=
  fun feeding =>
    let arena := feeding.decoder
    if sizeMax - arena.outputSize < packetSize then
      streamFail .integerOverflow packetOffset feeding
    else
      let needed := arena.outputSize + packetSize
      if arena.decoder.config.maxOutputSize < needed then
        streamFail .bufferLimit packetOffset feeding
      else
        match streamReserveOutput malloc needed feeding with
        | (some (), feeding) => (some (), feeding)
        | (none, feeding) => streamFail .outOfMemory packetOffset feeding

/-- Bytes written behind `output_size`, which stays. -/
def writeBehind (data : List UInt8) : FeedM Unit := fun feeding =>
  (some (), { feeding with
    decoder := feeding.decoder.write feeding.decoder.outputSize data })

def streamEmitUncompressed (malloc : Malloc) (packet : List UInt8) (compressed : Bool)
    (packetOffset : Nat) : FeedM Unit := do
  streamEmitRoom malloc packet.length packetOffset
  let start ← Prog.observe fun feeding => feeding.decoder.outputSize
  writeBehind packet
  streamFinishPacket start packet.length compressed packetOffset

/-- What the room holds after `inflate` is a packet if all of it was produced. -/
def streamFinishInflated {State : Type} (step : ZStep State) (start declaredSize packetOffset : Nat) :
    FeedM Unit := fun feeding =>
  if step.status ≠ .streamEnd ∨ step.output.length ≠ declaredSize ∨
      feeding.decoder.decoder.config.mode = .strict ∧ step.rest.length ≠ 0 then
    streamFail .zlib packetOffset
      { feeding with decoder := { feeding.decoder with outputSize := start } }
  else streamFinishPacket start declaredSize true packetOffset feeding

def streamEmitCompressed (zlib : Zlib) (malloc : Malloc) (compressed : List UInt8)
    (declaredSize packetOffset : Nat) : FeedM Unit :=
  if uintMax < compressed.length ∨ uintMax < declaredSize then
    streamFail .integerOverflow packetOffset
  else do
    streamEmitRoom malloc declaredSize packetOffset
    let start ← Prog.observe fun feeding => feeding.decoder.outputSize
    match zlib.inflateOnce compressed declaredSize with
    | none => streamFail .zlib packetOffset
    | some step => do
        -- `inflate` writes no more than `avail_out`, and may write more than it produced.
        writeBehind ((step.output ++ malloc.spill compressed declaredSize).take declaredSize)
        streamFinishInflated step start declaredSize packetOffset

def streamDecodeFrame (zlib : Zlib) (malloc : Malloc) (frame : List UInt8) (frameOffset : Nat) :
    FeedM Unit := fun feeding =>
  let decoder := feeding.decoder.decoder
  if decoder.compressionThreshold < 0 then
    streamEmitUncompressed malloc frame false frameOffset feeding
  else
    match streamVarint frame decoder.config.mode with
    | .partialInput => streamFail .compressionHeader (saturatingAdd frameOffset 0) feeding
    | .invalid code offset => streamFail code (saturatingAdd frameOffset offset) feeding
    | .complete declared headerSize =>
        let body := frame.drop headerSize
        let bodyOffset := saturatingAdd frameOffset headerSize
        if declared < 0 then streamFail .compressionHeader (saturatingAdd frameOffset 0) feeding
        else if declared = 0 then
          if decoder.config.mode = .strict ∧ decoder.compressionThreshold ≤ body.length then
            streamFail .compressionThreshold frameOffset feeding
          else streamEmitUncompressed malloc body false bodyOffset feeding
        else if decoder.config.maxDecompressedSize < declared.toNat then
          streamFail .decompressedTooLarge frameOffset feeding
        else if decoder.config.mode = .strict ∧ declared < decoder.compressionThreshold then
          streamFail .compressionThreshold frameOffset feeding
        else streamEmitCompressed zlib malloc body declared.toNat bodyOffset feeding

def streamStop (consumed : Nat) : FeedM Unit := fun feeding =>
  (some (), { feeding with decoder := feeding.decoder.consume consumed })

def streamStopFailed (consumed : Nat) (code : McErrorCode) (relative : Nat) : FeedM Unit :=
  fun feeding =>
    let arena := feeding.decoder.consume consumed
    streamFail code (arena.decoder.absoluteOffset relative) { feeding with decoder := arena }

/-- The loop of `mc_stream_decoder_feed`, with `quota` frames to go. -/
def feedLoop (zlib : Zlib) (malloc : Malloc) : Nat → Nat → FeedM Unit
  | 0, consumed => streamStop consumed
  | quota + 1, consumed => fun feeding =>
      let decoder := feeding.decoder.decoder
      if decoder.buffer.length ≤ consumed then streamStop consumed feeding
      else
        match streamVarint (decoder.buffer.drop consumed) decoder.config.mode with
        | .partialInput => streamStop consumed feeding
        | .invalid code offset => streamStopFailed consumed code offset feeding
        | .complete encodedSize headerSize =>
            if encodedSize ≤ 0 then streamStopFailed consumed .invalidLength 0 feeding
            else if decoder.config.maxFrameSize < encodedSize.toNat then
              streamStopFailed consumed .frameTooLarge 0 feeding
            else if decoder.buffer.length - consumed - headerSize < encodedSize.toNat then
              streamStop consumed feeding
            else
              let frame := (decoder.buffer.drop (consumed + headerSize)).take encodedSize.toNat
              let frameOffset := decoder.absoluteOffset (consumed + headerSize)
              match streamDecodeFrame zlib malloc frame frameOffset feeding with
              | (none, feeding) =>
                  (none, { feeding with decoder := feeding.decoder.consume consumed })
              | (some (), feeding) =>
                  feedLoop zlib malloc quota (consumed + headerSize + encodedSize.toNat) feeding

end Arena

structure ArenaFeedResult where
  ok : Bool
  frames : List PlacedFrame
  error : McError
  deriving Repr, DecidableEq

namespace Arena

def feedFailed (frames : List PlacedFrame) (arena : ArenaDecoder) : ArenaFeedResult × ArenaDecoder :=
  (⟨false, frames, arena.decoder.lastError⟩, arena)

def mcStreamDecoderFeed (zlib : Zlib) (malloc : Malloc) (arena : ArenaDecoder) (call : FeedCall) :
    ArenaFeedResult × ArenaDecoder :=
  let size := call.data.size
  let refuse (code : McErrorCode) (arena : ArenaDecoder) :=
    feedFailed [] (arena.fail code (arena.decoder.absoluteOffset arena.decoder.buffer.length))
  if call.Invalid then refuse .invalidArgument arena
  else if arena.decoder.failed then feedFailed [] arena
  else
    let arena :=
      { arena with
        decoder := { arena.decoder with compressionTransitionReady := false }
        outputSize := 0 }
    if arena.decoder.config.maxBufferedSize - arena.decoder.buffer.length < size then
      refuse .bufferLimit arena
    else
      match streamReserve malloc.toHeap arena.decoder (arena.decoder.buffer.length + size) with
      | (false, decoder) => refuse .outOfMemory { arena with decoder := decoder }
      | (true, decoder) =>
          let arena :=
            { arena with decoder := { decoder with buffer := decoder.buffer ++ call.data.content } }
          match feedLoop zlib malloc call.frameCapacity 0 ⟨arena, []⟩ with
          | (none, feeding) => feedFailed feeding.frames feeding.decoder
          | (some (), feeding) =>
              let emitted := feeding.frames.length
              let ready := emitted ≠ 0 ∧ emitted = call.frameCapacity ∧
                feeding.decoder.decoder.buffer.length ≠ 0
              (⟨true, feeding.frames, mcErrorClear⟩,
                { feeding.decoder with
                  decoder := { feeding.decoder.decoder with compressionTransitionReady := ready } })

def mcStreamDecoderReset (arena : ArenaDecoder) : ArenaDecoder :=
  { arena with decoder := McProtocol.mcStreamDecoderReset arena.decoder, outputSize := 0 }

end Arena

/-- A call of the decoder's interface. -/
inductive ArenaCall where
  | feed (malloc : Malloc) (call : FeedCall)
  | setCompression (threshold : Int)
  | finish
  | reset

def ArenaCall.perform (zlib : Zlib) (arena : ArenaDecoder) : ArenaCall → ArenaDecoder
  | .feed malloc call => (Arena.mcStreamDecoderFeed zlib malloc arena call).2
  | .setCompression threshold =>
      { arena with decoder := (mcStreamDecoderSetCompression arena.decoder threshold).2 }
  | .finish => { arena with decoder := (mcStreamDecoderFinish arena.decoder).2 }
  | .reset => Arena.mcStreamDecoderReset arena

/-- A new decoder has no output: its pointer is null, with nothing behind it. -/
def ArenaDecoder.created (decoder : McStreamDecoder) : ArenaDecoder where
  decoder := decoder
  outputSize := 0
  blocks := fun block => if block = 0 then some [] else none

/-- The decoders that calls lead to. -/
inductive ArenaDecoder.Reachable (zlib : Zlib) : ArenaDecoder → Prop where
  | create {config : Option McStreamDecoderConfig} {granted : Bool} {decoder : McStreamDecoder} :
      mcStreamDecoderCreate config granted = .ok decoder → Reachable zlib (.created decoder)
  | call {arena : ArenaDecoder} (call : ArenaCall) :
      Reachable zlib arena → Reachable zlib (call.perform zlib arena)

/-- What the committed part of the arena holds. -/
def ArenaDecoder.shown (arena : ArenaDecoder) : McStreamDecoder :=
  { arena.decoder with output := arena.block.take arena.outputSize }

def PlacedFrame.shown (frame : PlacedFrame) : McDecodedFrame where
  packetId := frame.packetId
  payload := ⟨frame.data.block, frame.data.offset, frame.size⟩
  compressed := frame.compressed

def ArenaFeeding.shown (feeding : ArenaFeeding) : Feeding :=
  ⟨feeding.decoder.shown, feeding.frames.map PlacedFrame.shown⟩

def ArenaFeedResult.shown (result : ArenaFeedResult) : FeedResult :=
  ⟨result.ok, result.frames.map PlacedFrame.shown, result.error⟩

/-- `output` points to a block as large as `output_capacity` says. -/
structure ArenaDecoder.Allocated (arena : ArenaDecoder) : Prop where
  live : ∃ bytes, arena.blocks arena.decoder.arena = some bytes ∧
    bytes.length = arena.decoder.outputCapacity
  laidOut : arena.outputSize ≤ arena.decoder.outputCapacity
  recent : arena.decoder.arena ≤ arena.decoder.serial

/-- The frames point into that block. -/
structure ArenaFeeding.Held (feeding : ArenaFeeding) : Prop where
  allocated : feeding.decoder.Allocated
  points : ∀ frame ∈ feeding.frames, frame.data.block = feeding.decoder.decoder.arena

theorem length_overwrite {bytes data : List UInt8} {offset : Nat}
    (inside : offset + data.length ≤ bytes.length) :
    (overwrite bytes offset data).length = bytes.length := by
  simp only [overwrite, List.length_append, List.length_take, List.length_drop]
  omega

/-- What lies before is untouched. -/
theorem take_overwrite {bytes : List UInt8} {offset : Nat} (inside : offset ≤ bytes.length)
    (data : List UInt8) : (overwrite bytes offset data).take offset = bytes.take offset := by
  rw [overwrite, List.append_assoc, List.take_append_of_le_length (by simp [inside]),
    List.take_take, Nat.min_self]

theorem drop_overwrite (bytes data : List UInt8) {offset : Nat} (inside : offset ≤ bytes.length) :
    ((overwrite bytes offset data).drop offset).take data.length = data := by
  have front : (bytes.take offset).length = offset := by simp [inside]
  rw [overwrite, List.append_assoc, List.drop_append_of_le_length front.ge,
    List.drop_of_length_le front.le, List.nil_append, List.take_left]

namespace ArenaDecoder

variable {arena : ArenaDecoder}

theorem Allocated.length_block (allocated : arena.Allocated) :
    arena.block.length = arena.decoder.outputCapacity := by
  obtain ⟨bytes, live, length⟩ := allocated.live
  rw [block, live]
  exact length

theorem Allocated.length_shown (allocated : arena.Allocated) :
    arena.shown.output.length = arena.outputSize := by
  have laidOut := allocated.laidOut
  have length := allocated.length_block
  simp only [shown, List.length_take]
  omega

/-- Reading through a pointer below `output_size` gives what is shown there. -/
theorem Allocated.read_eq (allocated : arena.Allocated) {data : Pointer} {size : Nat}
    (points : data.block = arena.decoder.arena) (inside : data.offset + size ≤ arena.outputSize) :
    arena.read data size = some (arena.shown.bytes ⟨data.block, data.offset, size⟩) := by
  have laidOut := allocated.laidOut
  obtain ⟨bytes, live, length⟩ := allocated.live
  have here : arena.block = bytes := by rw [block, live]; rfl
  have room : data.offset + size ≤ bytes.length := by omega
  rw [read, points, live]
  simp only [Option.bind_some, if_pos room, McStreamDecoder.bytes, shown, here, if_true,
    Option.some.injEq]
  rw [List.drop_take, List.take_take, Nat.min_eq_left (by omega)]

theorem absoluteOffset_output (decoder : McStreamDecoder) (output : List UInt8) (relative : Nat) :
    ({ decoder with output := output } : McStreamDecoder).absoluteOffset relative =
      decoder.absoluteOffset relative := rfl

theorem shown_fail (arena : ArenaDecoder) (code : McErrorCode) (offset : Nat) :
    (arena.fail code offset).shown = arena.shown.fail code offset := by
  cases failed : arena.decoder.failed with
  | true => simp [fail, shown, block, McStreamDecoder.fail, failed]
  | false => simp [fail, shown, block, McStreamDecoder.fail, failed]

theorem shown_consume (arena : ArenaDecoder) (consumed : Nat) :
    (arena.consume consumed).shown = arena.shown.consume consumed := by
  by_cases nothing : consumed = 0
  · simp [consume, shown, block, McStreamDecoder.consume, nothing]
  · simp [consume, shown, block, McStreamDecoder.consume, nothing]

theorem Allocated.fail (allocated : arena.Allocated) (code : McErrorCode) (offset : Nat) :
    (arena.fail code offset).Allocated := by
  obtain ⟨live, laidOut, recent⟩ := allocated
  unfold ArenaDecoder.fail McStreamDecoder.fail
  split_ifs
  · exact ⟨live, laidOut, recent⟩
  · exact ⟨live, laidOut, recent⟩

theorem Allocated.consume (allocated : arena.Allocated) (consumed : Nat) :
    (arena.consume consumed).Allocated := by
  obtain ⟨live, laidOut, recent⟩ := allocated
  unfold ArenaDecoder.consume McStreamDecoder.consume
  split_ifs
  · exact ⟨live, laidOut, recent⟩
  · exact ⟨live, laidOut, recent⟩

/-- Writing behind `output_size` shows nothing. -/
theorem Allocated.write (allocated : arena.Allocated) {data : List UInt8}
    (room : arena.outputSize + data.length ≤ arena.decoder.outputCapacity) :
    (arena.write arena.outputSize data).Allocated ∧
      (arena.write arena.outputSize data).shown = arena.shown ∧
      (((arena.write arena.outputSize data).block.drop arena.outputSize).take data.length) =
        data := by
  have length := allocated.length_block
  have written : (arena.write arena.outputSize data).block =
      overwrite arena.block arena.outputSize data := by
    simp [ArenaDecoder.write, block]
  refine ⟨⟨⟨overwrite arena.block arena.outputSize data, ?_, ?_⟩, allocated.laidOut,
    allocated.recent⟩, ?_, ?_⟩
  · simp [ArenaDecoder.write]
  · rw [length_overwrite (by omega), length]
    rfl
  · rw [shown, written]
    have before : arena.outputSize ≤ arena.block.length := by omega
    simp only [ArenaDecoder.write, shown, take_overwrite before]
  · rw [written, drop_overwrite _ _ (by omega)]

end ArenaDecoder

namespace ArenaFeeding

variable {feeding : ArenaFeeding}

theorem Held.fail (held : feeding.Held) (code : McErrorCode) (offset : Nat) :
    ({ feeding with decoder := feeding.decoder.fail code offset } : ArenaFeeding).Held where
  allocated := held.allocated.fail code offset
  points frame mem := (held.points frame mem).trans
    (Feeding.fail_output feeding.decoder.decoder code offset).1.symm

theorem Held.consume (held : feeding.Held) (consumed : Nat) :
    ({ feeding with decoder := feeding.decoder.consume consumed } : ArenaFeeding).Held where
  allocated := held.allocated.consume consumed
  points frame mem := by
    have points := held.points frame mem
    simp only [ArenaDecoder.consume, Feeding.consume_eq]
    exact points

end ArenaFeeding

namespace Arena

abbrev Refines {α : Type} (p : FeedM α) (q : McProtocol.FeedM α) : Prop :=
  Prog.Refines ArenaFeeding.Held ArenaFeeding.shown p q

theorem refines_fail {α : Type} (code : McErrorCode) (offset : Nat) :
    Refines (streamFail code offset : FeedM α) (McProtocol.streamFail code offset) :=
  Prog.Refines.mark (fun _ held => held.fail code offset)
    fun feeding => congrArg (Feeding.mk · _) (feeding.decoder.shown_fail code offset)

theorem refines_stop (consumed : Nat) :
    Refines (streamStop consumed) (McProtocol.streamStop consumed) :=
  Prog.Refines.move () (fun _ held => held.consume consumed)
    fun feeding => congrArg (Feeding.mk · _) (feeding.decoder.shown_consume consumed)

/-- A larger block shows the same, and the frames point into it. -/
theorem refines_reserveOutput (malloc : Malloc) (needed : Nat) :
    Refines (streamReserveOutput malloc needed)
      (McProtocol.streamReserveOutput malloc.toHeap needed) := by
  intro feeding held
  obtain ⟨allocated, points⟩ := held
  have length := allocated.length_block
  have laidOut := allocated.laidOut
  have recent := allocated.recent
  unfold Prog.RefinesAt streamReserveOutput McProtocol.streamReserveOutput
  dsimp only [ArenaFeeding.shown, ArenaDecoder.shown]
  by_cases limited : feeding.decoder.decoder.config.maxOutputSize < needed
  · rw [if_pos limited, if_pos limited]
    exact ⟨⟨allocated, points⟩, rfl⟩
  rw [if_neg limited, if_neg limited]
  by_cases enough : needed ≤ feeding.decoder.decoder.outputCapacity
  · rw [if_pos enough, if_pos enough]
    exact ⟨⟨allocated, points⟩, rfl⟩
  rw [if_neg enough, if_neg enough]
  have grown : needed ≤ grownCapacity feeding.decoder.decoder.config.maxOutputSize needed
      feeding.decoder.decoder.outputCapacity := growLoop_ge ..
  split_ifs with granted
  · have apart : feeding.decoder.decoder.serial + 1 ≠ feeding.decoder.decoder.arena := by omega
    have copied : (feeding.decoder.block.take feeding.decoder.outputSize).length =
        feeding.decoder.outputSize := by
      rw [List.length_take, length]
      omega
    refine ⟨⟨⟨⟨_, (Function.update_of_ne apart _ _).trans (Function.update_self _ _ _), ?_⟩, ?_,
      Nat.le_refl _⟩, fun frame mem => ?_⟩, ?_⟩
    · rw [length_overwrite, malloc.fresh_length]
      rw [malloc.fresh_length]
      omega
    · dsimp only
      omega
    · obtain ⟨old, before, rfl⟩ := List.mem_map.mp mem
      rw [PlacedFrame.rebase, if_pos (points old before)]
    · have moved : ∀ frame ∈ feeding.frames,
          (frame.rebase feeding.decoder.decoder.arena (feeding.decoder.decoder.serial + 1)).shown =
            { frame.shown with
              payload := { frame.shown.payload with
                arena := feeding.decoder.decoder.serial + 1 } } := by
        intro frame mem
        rw [PlacedFrame.rebase, if_pos (points frame mem)]
        rfl
      have same := drop_overwrite (malloc.fresh feeding.decoder.decoder.serial
        (grownCapacity feeding.decoder.decoder.config.maxOutputSize needed
          feeding.decoder.decoder.outputCapacity))
        (feeding.decoder.block.take feeding.decoder.outputSize) (Nat.zero_le _)
      rw [copied, List.drop_zero] at same
      simp only [ArenaDecoder.block, Function.update_of_ne apart, Function.update_self,
        Option.getD_some, List.map_map] at same ⊢
      rw [same]
      refine congrArg (Prod.mk _) (congrArg (Feeding.mk _) ?_)
      exact (List.map_congr_left moved).symm
  · exact ⟨⟨⟨allocated.live, laidOut, Nat.le_succ_of_le recent⟩, points⟩, rfl⟩

/-- A reservation that succeeds leaves room, and what is shown is no longer than before. -/
theorem reserveOutput_room {malloc : Malloc} {needed : Nat} {feeding after : ArenaFeeding}
    (reserved : streamReserveOutput malloc needed feeding = (some (), after)) :
    needed ≤ after.decoder.decoder.outputCapacity ∧
      after.decoder.outputSize = feeding.decoder.outputSize := by
  unfold streamReserveOutput at reserved
  dsimp only at reserved
  split_ifs at reserved with limited enough granted
  · cases reserved
  · cases reserved
    exact ⟨enough, rfl⟩
  · cases reserved
    exact ⟨growLoop_ge .., rfl⟩
  · cases reserved

theorem refines_emitRoom (malloc : Malloc) (packetSize packetOffset : Nat) :
    Refines (streamEmitRoom malloc packetSize packetOffset)
      (McProtocol.streamEmitRoom malloc.toHeap packetSize packetOffset) := by
  intro feeding held
  have length := held.allocated.length_shown
  have reserves := refines_reserveOutput malloc (feeding.decoder.outputSize + packetSize) feeding held
  unfold Prog.RefinesAt streamEmitRoom McProtocol.streamEmitRoom
  dsimp only [ArenaFeeding.shown]
  rw [length]
  by_cases wraps : sizeMax - feeding.decoder.outputSize < packetSize
  · rw [if_pos wraps, if_pos wraps]
    exact refines_fail _ _ feeding held
  rw [if_neg wraps, if_neg wraps]
  by_cases limited : feeding.decoder.decoder.config.maxOutputSize <
      feeding.decoder.outputSize + packetSize
  · have limited' : feeding.decoder.shown.config.maxOutputSize <
        feeding.decoder.outputSize + packetSize := limited
    rw [if_pos limited, if_pos limited']
    exact refines_fail _ _ feeding held
  have limited' : ¬ feeding.decoder.shown.config.maxOutputSize <
      feeding.decoder.outputSize + packetSize := limited
  rw [if_neg limited, if_neg limited']
  obtain ⟨kept, same⟩ := reserves
  dsimp only [ArenaFeeding.shown] at same
  rcases run : streamReserveOutput malloc (feeding.decoder.outputSize + packetSize) feeding with
    ⟨_ | ⟨⟩, after⟩
  · rw [run] at kept same
    rw [same]
    exact refines_fail _ _ after kept
  · rw [run] at kept same
    rw [same]
    exact ⟨kept, rfl⟩

/-- What follows the room for a packet may use it. -/
theorem refines_emitRoom_then (malloc : Malloc) (packetSize packetOffset : Nat)
    {rest : Unit → FeedM Unit} {other : Unit → McProtocol.FeedM Unit}
    (behind : ∀ feeding : ArenaFeeding, feeding.Held →
      feeding.decoder.outputSize + packetSize ≤ feeding.decoder.decoder.outputCapacity →
      Prog.RefinesAt ArenaFeeding.Held ArenaFeeding.shown (rest ()) (other ()) feeding) :
    Refines (streamEmitRoom malloc packetSize packetOffset >>= rest)
      (McProtocol.streamEmitRoom malloc.toHeap packetSize packetOffset >>= other) := by
  refine Prog.Refines.bindKnowing (fun _ feeding =>
      feeding.decoder.outputSize + packetSize ≤ feeding.decoder.decoder.outputCapacity)
    (refines_emitRoom malloc packetSize packetOffset) ?_ fun _ => behind
  intro feeding _ after held run
  unfold streamEmitRoom at run
  dsimp only at run
  split_ifs at run with wraps limited
  · cases run
  · cases run
  · rcases reserved : streamReserveOutput malloc (feeding.decoder.outputSize + packetSize) feeding
      with ⟨_ | ⟨⟩, between⟩
    · rw [reserved] at run
      cases run
    · rw [reserved] at run
      cases run
      obtain ⟨room, same⟩ := reserveOutput_room reserved
      rw [same]
      exact room

/-- A packet behind `output_size` is committed or left uncommitted. -/
theorem refinesAt_finishPacket {feeding : ArenaFeeding} (held : feeding.Held) {packet : List UInt8}
    (room : feeding.decoder.outputSize + packet.length ≤ feeding.decoder.decoder.outputCapacity)
    (lies : (feeding.decoder.block.drop feeding.decoder.outputSize).take packet.length = packet)
    (compressed : Bool) (packetOffset : Nat) :
    Prog.RefinesAt ArenaFeeding.Held ArenaFeeding.shown
      (streamFinishPacket feeding.decoder.outputSize packet.length compressed packetOffset)
      (McProtocol.streamFinishPacket packet compressed packetOffset) feeding := by
  have length := held.allocated.length_shown
  unfold Prog.RefinesAt streamFinishPacket McProtocol.streamFinishPacket
  dsimp only
  rw [lies]
  by_cases empty : packet.length = 0
  · rw [if_pos empty, if_pos empty]
    exact refines_fail _ _ feeding held
  rw [if_neg empty, if_neg empty]
  dsimp only [ArenaFeeding.shown, ArenaDecoder.shown]
  cases header : streamVarint packet feeding.decoder.decoder.config.mode with
  | partialInput => exact refines_fail _ _ feeding held
  | invalid code offset => exact refines_fail _ _ feeding held
  | complete packetId idSize =>
      dsimp only
      by_cases negative : packetId < 0
      · rw [if_pos negative, if_pos negative]
        exact refines_fail _ _ feeding held
      · rw [if_neg negative, if_neg negative]
        refine ⟨⟨⟨held.allocated.live, room, held.allocated.recent⟩, fun frame mem => ?_⟩, ?_⟩
        · rcases List.mem_append.mp mem with old | new
          · exact held.points frame old
          · cases List.mem_singleton.mp new
            rfl
        · have committed : feeding.decoder.block.take (feeding.decoder.outputSize + packet.length) =
              feeding.decoder.block.take feeding.decoder.outputSize ++ packet := by
            rw [List.take_add, lies]
          dsimp only [ArenaDecoder.shown] at length
          dsimp only [ArenaDecoder.block] at committed length ⊢
          rw [committed, length, List.map_append]
          rfl

/-- A packet is written behind `output_size` and then looked at. -/
theorem refinesAt_writeFinish {feeding : ArenaFeeding} (held : feeding.Held) {packet : List UInt8}
    (room : feeding.decoder.outputSize + packet.length ≤ feeding.decoder.decoder.outputCapacity)
    (compressed : Bool) (packetOffset : Nat) :
    Prog.RefinesAt ArenaFeeding.Held ArenaFeeding.shown
      (fun feeding => streamFinishPacket feeding.decoder.outputSize packet.length compressed
        packetOffset (writeBehind packet feeding).2)
      (McProtocol.streamFinishPacket packet compressed packetOffset) feeding := by
  obtain ⟨allocated, same, lies⟩ := held.allocated.write room
  have written : (writeBehind packet feeding).2.Held := ⟨allocated, held.points⟩
  have finished := refinesAt_finishPacket written room lies compressed packetOffset
  have shown : (writeBehind packet feeding).2.shown = feeding.shown :=
    congrArg (Feeding.mk · _) same
  unfold Prog.RefinesAt at finished ⊢
  rw [shown] at finished
  exact finished

theorem refines_emitUncompressed (malloc : Malloc) (packet : List UInt8) (compressed : Bool)
    (packetOffset : Nat) :
    Refines (streamEmitUncompressed malloc packet compressed packetOffset)
      (McProtocol.streamEmitUncompressed malloc.toHeap packet compressed packetOffset) :=
  refines_emitRoom_then malloc _ _ fun _ held room =>
    refinesAt_writeFinish held room compressed packetOffset

/-- What `inflate` writes is a packet, or is left behind `output_size`. -/
theorem refines_emitCompressed (zlib : Zlib) (malloc : Malloc) (compressed : List UInt8)
    (declaredSize packetOffset : Nat) :
    Refines (streamEmitCompressed zlib malloc compressed declaredSize packetOffset)
      (McProtocol.streamEmitCompressed zlib malloc.toHeap compressed declaredSize packetOffset) := by
  unfold streamEmitCompressed McProtocol.streamEmitCompressed
  split_ifs with large
  · exact refines_fail _ _
  · refine refines_emitRoom_then malloc _ _ fun feeding held room => ?_
    cases inflated : zlib.inflateOnce compressed declaredSize with
    | none => exact refines_fail _ _ feeding held
    | some step =>
        let data := (step.output ++ malloc.spill compressed declaredSize).take declaredSize
        let inflates : FeedM Unit := fun feeding =>
          streamFinishInflated step feeding.decoder.outputSize declaredSize packetOffset
            (writeBehind data feeding).2
        change Prog.RefinesAt _ _ inflates _ feeding
        unfold Prog.RefinesAt
        dsimp only [inflates, streamFinishInflated]
        have mode : (writeBehind data feeding).2.decoder.decoder.config.mode =
            feeding.decoder.decoder.config.mode := rfl
        have shownMode : feeding.shown.decoder.config.mode =
            feeding.decoder.decoder.config.mode := rfl
        rw [mode, shownMode]
        by_cases bad : step.status ≠ .streamEnd ∨ step.output.length ≠ declaredSize ∨
            feeding.decoder.decoder.config.mode = .strict ∧ step.rest.length ≠ 0
        · rw [if_pos bad, if_pos bad]
          have fits : data.length ≤ declaredSize := List.length_take_le _ _
          obtain ⟨allocated, same, -⟩ :=
            held.allocated.write (Nat.le_trans (Nat.add_le_add_left fits _) room)
          have failed := refines_fail (α := Unit) .zlib packetOffset _
            (show (writeBehind data feeding).2.Held from ⟨allocated, held.points⟩)
          unfold Prog.RefinesAt at failed
          rw [show (writeBehind data feeding).2.shown = feeding.shown from
            congrArg (Feeding.mk · _) same] at failed
          exact failed
        · rw [if_neg bad, if_neg bad]
          have whole : step.output.length = declaredSize := by
            by_contra other
            exact bad (.inr (.inl other))
          have same : data = step.output := by
            simp only [data, ← whole, List.take_left]
          have finished := refinesAt_writeFinish held (whole ▸ room) true packetOffset
          rw [whole, ← same] at finished
          rw [← same]
          exact finished

theorem refines_decodeFrame (zlib : Zlib) (malloc : Malloc) (frame : List UInt8)
    (frameOffset : Nat) :
    Refines (streamDecodeFrame zlib malloc frame frameOffset)
      (McProtocol.streamDecodeFrame zlib malloc.toHeap frame frameOffset) := by
  intro feeding held
  unfold Prog.RefinesAt streamDecodeFrame McProtocol.streamDecodeFrame
  dsimp only [ArenaFeeding.shown, ArenaDecoder.shown]
  by_cases bare : feeding.decoder.decoder.compressionThreshold < 0
  · rw [if_pos bare, if_pos bare]
    exact refines_emitUncompressed malloc frame false frameOffset feeding held
  rw [if_neg bare, if_neg bare]
  cases streamVarint frame feeding.decoder.decoder.config.mode with
  | partialInput => exact refines_fail _ _ feeding held
  | invalid code offset => exact refines_fail _ _ feeding held
  | complete declared headerSize =>
      dsimp only
      split_ifs
      · exact refines_fail _ _ feeding held
      · exact refines_fail _ _ feeding held
      · exact refines_emitUncompressed malloc _ _ _ feeding held
      · exact refines_fail _ _ feeding held
      · exact refines_fail _ _ feeding held
      · exact refines_emitCompressed zlib malloc _ _ _ feeding held

theorem refines_stopFailed (consumed : Nat) (code : McErrorCode) (relative : Nat) :
    Refines (streamStopFailed consumed code relative)
      (McProtocol.streamStopFailed consumed code relative) := by
  intro feeding held
  have failed := refines_fail (α := Unit) code
    ((feeding.decoder.consume consumed).decoder.absoluteOffset relative) _ (held.consume consumed)
  unfold Prog.RefinesAt streamStopFailed McProtocol.streamStopFailed at *
  dsimp only [ArenaFeeding.shown] at failed ⊢
  rw [← ArenaDecoder.shown_consume]
  exact failed

/-- The loop, frame by frame. -/
theorem refines_feedLoop (zlib : Zlib) (malloc : Malloc) (quota consumed : Nat) :
    Refines (feedLoop zlib malloc quota consumed)
      (McProtocol.feedLoop zlib malloc.toHeap quota consumed) := by
  induction quota generalizing consumed with
  | zero => exact refines_stop consumed
  | succ quota ih =>
      intro feeding held
      unfold Prog.RefinesAt feedLoop McProtocol.feedLoop
      dsimp only [ArenaFeeding.shown, ArenaDecoder.shown, ArenaDecoder.absoluteOffset_output]
      by_cases drained : feeding.decoder.decoder.buffer.length ≤ consumed
      · rw [if_pos drained, if_pos drained]
        exact refines_stop consumed feeding held
      rw [if_neg drained, if_neg drained]
      cases streamVarint (feeding.decoder.decoder.buffer.drop consumed)
          feeding.decoder.decoder.config.mode with
      | partialInput => exact refines_stop consumed feeding held
      | invalid code offset => exact refines_stopFailed consumed code offset feeding held
      | complete encodedSize headerSize =>
          dsimp only
          split_ifs
          · exact refines_stopFailed consumed _ _ feeding held
          · exact refines_stopFailed consumed _ _ feeding held
          · exact refines_stop consumed feeding held
          · obtain ⟨kept, same⟩ := refines_decodeFrame zlib malloc
              ((feeding.decoder.decoder.buffer.drop (consumed + headerSize)).take
                encodedSize.toNat)
              (feeding.decoder.decoder.absoluteOffset (consumed + headerSize)) feeding held
            dsimp only [ArenaFeeding.shown, ArenaDecoder.shown] at same
            rcases run : streamDecodeFrame zlib malloc
                ((feeding.decoder.decoder.buffer.drop (consumed + headerSize)).take
                  encodedSize.toNat)
                (feeding.decoder.decoder.absoluteOffset (consumed + headerSize)) feeding with
              ⟨_ | ⟨⟩, after⟩
            · rw [run] at kept same
              rw [same]
              refine ⟨kept.consume consumed, congrArg (Prod.mk _) (congrArg (Feeding.mk · _) ?_)⟩
              exact (after.decoder.shown_consume consumed).symm
            · rw [run] at kept same
              rw [same]
              exact ih _ after kept

end Arena

/-- Room for the input does not depend on the output. -/
theorem streamReserve_output (heap : Heap) (decoder : McStreamDecoder) (needed : Nat) :
    ∃ granted capacity serial, decoder.serial ≤ serial ∧ ∀ output,
      streamReserve heap { decoder with output := output } needed =
        (granted, { decoder with
          output := output
          bufferCapacity := capacity
          serial := serial }) := by
  by_cases limited : decoder.config.maxBufferedSize < needed
  · exact ⟨false, decoder.bufferCapacity, decoder.serial, Nat.le_refl _, fun _ => if_pos limited⟩
  by_cases enough : needed ≤ decoder.bufferCapacity
  · refine ⟨true, decoder.bufferCapacity, decoder.serial, Nat.le_refl _, fun output => ?_⟩
    simp only [streamReserve, if_neg limited, if_pos enough]
  by_cases granted : heap.grant decoder.serial
      (grownCapacity decoder.config.maxBufferedSize needed decoder.bufferCapacity) = true
  · refine ⟨true, grownCapacity decoder.config.maxBufferedSize needed decoder.bufferCapacity,
      decoder.serial + 1, Nat.le_succ _, fun output => ?_⟩
    simp only [streamReserve, if_neg limited, if_neg enough, if_pos granted]
  · refine ⟨false, decoder.bufferCapacity, decoder.serial + 1, Nat.le_succ _, fun output => ?_⟩
    simp only [streamReserve, if_neg limited, if_neg enough, if_neg granted]

namespace Arena

/-- A call ended as one without memory did. -/
def Answers (ended : ArenaFeedResult × ArenaDecoder) (other : FeedResult × McStreamDecoder) : Prop :=
  (ArenaFeeding.mk ended.2 ended.1.frames).Held ∧ other = (ended.1.shown, ended.2.shown)

theorem answers_failed {feeding : ArenaFeeding} (held : feeding.Held) :
    Answers (feedFailed feeding.frames feeding.decoder)
      (McProtocol.feedFailed feeding.shown.frames feeding.shown.decoder) :=
  ⟨held, rfl⟩

theorem answers_refused {arena : ArenaDecoder} (allocated : arena.Allocated) (code : McErrorCode)
    (offset : Nat) :
    Answers (feedFailed [] (arena.fail code offset))
      (McProtocol.feedFailed [] (arena.shown.fail code offset)) := by
  rw [← ArenaDecoder.shown_fail]
  exact ⟨⟨allocated.fail code offset, nofun⟩, rfl⟩

/-- What is made of a loop. -/
theorem answers_looped {feeding : ArenaFeeding} (held : feeding.Held) (zlib : Zlib)
    (malloc : Malloc) (capacity : Nat) :
    Answers
      (match feedLoop zlib malloc capacity 0 feeding with
        | (none, feeding) => feedFailed feeding.frames feeding.decoder
        | (some (), feeding) =>
            (⟨true, feeding.frames, mcErrorClear⟩,
              { feeding.decoder with
                decoder := { feeding.decoder.decoder with
                  compressionTransitionReady := feeding.frames.length ≠ 0 ∧
                    feeding.frames.length = capacity ∧
                    feeding.decoder.decoder.buffer.length ≠ 0 } }))
      (match McProtocol.feedLoop zlib malloc.toHeap capacity 0 feeding.shown with
        | (none, feeding) => McProtocol.feedFailed feeding.frames feeding.decoder
        | (some (), feeding) =>
            (⟨true, feeding.frames, mcErrorClear⟩,
              { feeding.decoder with
                compressionTransitionReady := feeding.frames.length ≠ 0 ∧
                  feeding.frames.length = capacity ∧ feeding.decoder.buffer.length ≠ 0 })) := by
  obtain ⟨looped, same⟩ := refines_feedLoop zlib malloc capacity 0 feeding held
  rw [same]
  rcases run : feedLoop zlib malloc capacity 0 feeding with ⟨_ | ⟨⟩, after⟩
  · rw [run] at looped
    exact answers_failed looped
  · rw [run] at looped
    have length : after.shown.frames.length = after.frames.length := List.length_map _
    refine ⟨⟨⟨looped.allocated.live, looped.allocated.laidOut, looped.allocated.recent⟩,
      looped.points⟩, ?_⟩
    simp only [length]
    rfl

/-- A feed does what the one without memory does. -/
theorem answers_feed {arena : ArenaDecoder} (allocated : arena.Allocated) (zlib : Zlib)
    (malloc : Malloc) (call : FeedCall) :
    Answers (mcStreamDecoderFeed zlib malloc arena call)
      (McProtocol.mcStreamDecoderFeed zlib malloc.toHeap arena.shown call) := by
  obtain ⟨live, laidOut, recent⟩ := allocated
  unfold mcStreamDecoderFeed McProtocol.mcStreamDecoderFeed
  dsimp only
  by_cases invalid : call.Invalid
  · rw [if_pos invalid, if_pos invalid]
    exact answers_refused ⟨live, laidOut, recent⟩ _ _
  rw [if_neg invalid, if_neg invalid]
  by_cases failed : arena.decoder.failed = true
  · have failed' : arena.shown.failed = true := failed
    rw [if_pos failed, if_pos failed']
    exact ⟨⟨⟨live, laidOut, recent⟩, nofun⟩, rfl⟩
  have failed' : ¬ arena.shown.failed = true := failed
  rw [if_neg failed, if_neg failed']
  let emptied : ArenaDecoder :=
    { arena with
      decoder := { arena.decoder with compressionTransitionReady := false }
      outputSize := 0 }
  have fresh : emptied.Allocated := ⟨live, Nat.zero_le _, recent⟩
  by_cases limited : arena.decoder.config.maxBufferedSize - arena.decoder.buffer.length <
      call.data.size
  · have limited' : arena.shown.config.maxBufferedSize - arena.shown.buffer.length <
        call.data.size := limited
    rw [if_pos limited, if_pos limited']
    exact answers_refused fresh _ _
  have limited' : ¬ arena.shown.config.maxBufferedSize - arena.shown.buffer.length <
      call.data.size := limited
  rw [if_neg limited, if_neg limited']
  obtain ⟨granted, capacity, serial, later, reserved⟩ := streamReserve_output malloc.toHeap
    emptied.decoder (arena.decoder.buffer.length + call.data.size)
  rw [show streamReserve malloc.toHeap { arena.decoder with compressionTransitionReady := false }
    (arena.decoder.buffer.length + call.data.size) = _ from reserved arena.decoder.output]
  rw [show streamReserve malloc.toHeap
    { arena.shown with compressionTransitionReady := false, output := [] }
    (arena.shown.buffer.length + call.data.size) = _ from reserved []]
  have kept : arena.decoder.arena ≤ serial := Nat.le_trans recent later
  cases granted with
  | false =>
      exact answers_refused (show ArenaDecoder.Allocated { emptied with
        decoder := { emptied.decoder with bufferCapacity := capacity, serial := serial } } from
          ⟨live, Nat.zero_le _, kept⟩) _ _
  | true =>
      dsimp only
      let feeding : ArenaFeeding :=
        { decoder := { emptied with
            decoder := { emptied.decoder with
              bufferCapacity := capacity
              serial := serial
              buffer := arena.decoder.buffer ++ call.data.content } }
          frames := [] }
      have held : feeding.Held := ⟨⟨live, Nat.zero_le _, kept⟩, nofun⟩
      exact answers_looped held zlib malloc call.frameCapacity

end Arena

namespace ArenaDecoder

variable {zlib : Zlib} {arena : ArenaDecoder}

theorem allocated_created {config : Option McStreamDecoderConfig} {granted : Bool}
    {decoder : McStreamDecoder} (made : mcStreamDecoderCreate config granted = .ok decoder) :
    (created decoder).Allocated ∧ (created decoder).shown = decoder := by
  unfold mcStreamDecoderCreate at made
  dsimp only at made
  split_ifs at made with refused ungranted
  cases made
  exact ⟨⟨⟨[], rfl, rfl⟩, Nat.le_refl 0, Nat.le_refl 0⟩, rfl⟩

/-- Neither of these two calls looks at the output. -/
theorem setCompression_output (decoder : McStreamDecoder) (threshold : Int) :
    ∃ kept ready, ∀ output,
      (mcStreamDecoderSetCompression { decoder with output := output } threshold).2 =
        { decoder with
          output := output
          compressionThreshold := kept
          compressionTransitionReady := ready } := by
  by_cases invalid : threshold < -1
  · refine ⟨decoder.compressionThreshold, decoder.compressionTransitionReady, fun output => ?_⟩
    simp only [mcStreamDecoderSetCompression, if_pos invalid]
  by_cases failed : decoder.failed = true
  · refine ⟨decoder.compressionThreshold, decoder.compressionTransitionReady, fun output => ?_⟩
    simp only [mcStreamDecoderSetCompression, if_neg invalid, if_pos failed]
  by_cases midway : decoder.buffer.length ≠ 0 ∧ decoder.compressionTransitionReady = false
  · refine ⟨decoder.compressionThreshold, decoder.compressionTransitionReady, fun output => ?_⟩
    simp only [mcStreamDecoderSetCompression, if_neg invalid, if_neg failed, if_pos midway]
  · refine ⟨threshold, false, fun output => ?_⟩
    simp only [mcStreamDecoderSetCompression, if_neg invalid, if_neg failed, if_neg midway]

theorem finish_output (decoder : McStreamDecoder) :
    ∃ failed error, ∀ output,
      (mcStreamDecoderFinish { decoder with output := output }).2 =
        { decoder with output := output, failed := failed, lastError := error } := by
  by_cases failed : decoder.failed = true
  · refine ⟨decoder.failed, decoder.lastError, fun output => ?_⟩
    simp only [mcStreamDecoderFinish, if_pos failed]
  by_cases left : decoder.buffer.length ≠ 0
  · refine ⟨true, { mcErrorClear with
      code := .partialInput
      offset := decoder.absoluteOffset decoder.buffer.length }, fun output => ?_⟩
    simp only [mcStreamDecoderFinish, McStreamDecoder.fail, if_neg failed, if_pos left]
    rfl
  · refine ⟨decoder.failed, decoder.lastError, fun output => ?_⟩
    simp only [mcStreamDecoderFinish, if_neg failed, if_neg left]

/-- Every decoder calls lead to shows one that calls lead to without memory. -/
theorem Reachable.shown_reachable (reachable : arena.Reachable zlib) :
    arena.Allocated ∧ arena.shown.Reachable zlib := by
  induction reachable with
  | create made =>
      obtain ⟨allocated, same⟩ := allocated_created made
      rw [same]
      exact ⟨allocated, .create made⟩
  | @call arena call _ ih =>
      obtain ⟨allocated, reached⟩ := ih
      cases call with
      | feed malloc call =>
          obtain ⟨held, same⟩ := Arena.answers_feed allocated zlib malloc call
          refine ⟨held.allocated, ?_⟩
          have fed := McStreamDecoder.Reachable.call (.feed malloc.toHeap call) reached
          rw [StreamCall.perform, same] at fed
          exact fed
      | setCompression threshold =>
          have set := McStreamDecoder.Reachable.call (.setCompression threshold) reached
          obtain ⟨kept, ready, same⟩ := setCompression_output arena.decoder threshold
          have moved : (mcStreamDecoderSetCompression arena.decoder threshold).2 = _ :=
            same arena.decoder.output
          rw [StreamCall.perform, shown, same] at set
          rw [ArenaCall.perform, moved]
          exact ⟨⟨allocated.live, allocated.laidOut, allocated.recent⟩, set⟩
      | finish =>
          have finished := McStreamDecoder.Reachable.call .finish reached
          obtain ⟨failed, error, same⟩ := finish_output arena.decoder
          have moved : (mcStreamDecoderFinish arena.decoder).2 = _ := same arena.decoder.output
          rw [StreamCall.perform, shown, same] at finished
          rw [ArenaCall.perform, moved]
          exact ⟨⟨allocated.live, allocated.laidOut, allocated.recent⟩, finished⟩
      | reset =>
          have cleared := McStreamDecoder.Reachable.call .reset reached
          exact ⟨⟨allocated.live, Nat.zero_le _, allocated.recent⟩, cleared⟩

/-- The packet a caller reads through a frame. -/
def packet (arena : ArenaDecoder) (frame : PlacedFrame) : Option StreamPacket :=
  (arena.read frame.data frame.size).map fun payload =>
    ⟨frame.packetId, payload, frame.compressed⟩

end ArenaDecoder

/-- After any call, failed or not, its views lie in the arena below `output_size`, in order
and apart, and reading through them gives the packets of what was buffered and fed. -/
theorem views_hold_packets {zlib : Zlib} {arena : ArenaDecoder} (reachable : arena.Reachable zlib)
    (malloc : Malloc) (call : FeedCall) :
    let ended := Arena.mcStreamDecoderFeed zlib malloc arena call
    let packets := ((frameScanner zlib arena.decoder.config
      arena.decoder.compressionThreshold).take call.frameCapacity
        (arena.decoder.buffer ++ call.data.content)).frames
    (∀ frame ∈ ended.1.frames, frame.data.block = ended.2.decoder.arena ∧
      frame.data.offset + frame.size ≤ ended.2.outputSize) ∧
    (∃ bytes, ended.2.blocks ended.2.decoder.arena = some bytes ∧
      ended.2.outputSize ≤ bytes.length) ∧
    ended.1.frames.Pairwise (fun first second =>
      first.data.offset + first.size ≤ second.data.offset) ∧
    ended.1.frames.map ended.2.packet = (packets.take ended.1.frames.length).map some ∧
    ended.1.frames.length ≤ packets.length ∧
    (ended.1.ok = true → ended.1.frames.length = packets.length) := by
  obtain ⟨allocated, reached⟩ := reachable.shown_reachable
  have shows := reached.bounded.feedShows zlib malloc.toHeap call
  obtain ⟨held, same⟩ := Arena.answers_feed allocated zlib malloc call
  rw [same] at shows
  intro ended packets
  have length := held.allocated.length_shown
  have laid : ∀ frame ∈ ended.1.frames, frame.data.block = ended.2.decoder.arena ∧
      frame.data.offset + frame.size ≤ ended.2.outputSize := by
    intro frame mem
    have inside := (shows.arranged.laid frame.shown (List.mem_map_of_mem mem)).2
    dsimp only [FeedResult.views] at inside
    rw [length] at inside
    exact ⟨held.points frame mem, inside⟩
  have reads : ended.1.frames.map ended.2.packet =
      ((ended.1.shown.views ended.2.shown).packets).map some := by
    dsimp only [FeedResult.views, Feeding.packets, ArenaFeedResult.shown]
    rw [List.map_map, List.map_map]
    refine List.map_congr_left fun frame mem => ?_
    obtain ⟨points, inside⟩ := laid frame mem
    rw [ArenaDecoder.packet, held.allocated.read_eq points inside]
    rfl
  have shown : (ended.1.shown.views ended.2.shown).packets <+: packets := shows.shown
  have count : (ended.1.shown.views ended.2.shown).packets.length = ended.1.frames.length := by
    dsimp only [FeedResult.views, Feeding.packets, ArenaFeedResult.shown]
    rw [List.length_map, List.length_map]
  obtain ⟨bytes, live, size⟩ := held.allocated.live
  refine ⟨laid, ⟨bytes, live, size ▸ held.allocated.laidOut⟩, ?_, ?_, ?_, fun ok => ?_⟩
  · exact List.pairwise_map.mp shows.arranged.ordered
  · rw [reads, ← count, ← List.prefix_iff_eq_take.mp shown]
  · rw [← count]
    exact shown.length_le
  · have whole : (ended.1.shown.views ended.2.shown).packets = packets := shows.whole ok
    rw [← count, whole]

/-- A heap that refuses only what no heap can give, and whose new blocks hold zeros. -/
def Malloc.zeroed : Malloc where
  toHeap := .ample
  fresh _ size := List.replicate size 0
  fresh_length _ _ := List.length_replicate
  spill _ _ := []

set_option maxRecDepth 20000 in
/-- The second packet moves the arena, and a frame of no bytes fails the call behind it. -/
theorem views_hold_packets_moved :
    let zlib : Zlib := .knowing [] []
    let created := (mcStreamDecoderCreate none true).toOption.get (by decide)
    let call := feedOf ([2, 1, 7, 0x81, 0x20, 3] ++ List.replicate 4096 9 ++ [0]) 4
    let ended := Arena.mcStreamDecoderFeed zlib .zeroed (.created created) call
    ended.1.ok = false ∧ ended.2.decoder.arena = 3 ∧
      ended.1.frames.map ended.2.packet =
        [some ⟨1, [7], false⟩, some ⟨3, List.replicate 4096 9, false⟩] := by
  intro zlib created call ended
  have reachable : (ArenaDecoder.created created).Reachable zlib :=
    .create (show mcStreamDecoderCreate none true = .ok created from rfl)
  obtain ⟨-, -, -, reads, -, -⟩ := views_hold_packets reachable .zeroed call
  have count : ended.1.frames.length = 2 := by decide +kernel
  refine ⟨by decide +kernel, by decide +kernel, reads.trans ?_⟩
  rw [show (Arena.mcStreamDecoderFeed zlib .zeroed (.created created) call).1.frames.length = 2
    from count]
  decide +kernel

end McProtocol
