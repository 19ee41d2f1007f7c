import McProtocol.StreamRuns

/-! # The sizes of the stream decoder

Every sum, difference and product of sizes that a feed computes is computed here with a
test for the wrap of a `size_t`, and the growth of a buffer with a bound on the turns of
its loop. A decoder that calls lead to never meets a wrap.
-/

namespace McProtocol

def sizeAdd (left right : Nat) : Option Nat :=
  if left + right ≤ sizeMax then some (left + right) else none

def sizeSub (left right : Nat) : Option Nat :=
  if right ≤ left then some (left - right) else none

def sizeMul (left right : Nat) : Option Nat :=
  if left * right ≤ sizeMax then some (left * right) else none

theorem sizeAdd_fits {left right : Nat} (fits : left + right ≤ sizeMax) :
    sizeAdd left right = some (left + right) := if_pos fits

theorem sizeSub_fits {left right : Nat} (fits : right ≤ left) :
    sizeSub left right = some (left - right) := if_pos fits

theorem sizeMul_fits {left right : Nat} (fits : left * right ≤ sizeMax) :
    sizeMul left right = some (left * right) := if_pos fits

/-- The growth loop of `stream_reserve` and `stream_reserve_output`, for at most
`turns` turns. -/
def growTurns (maximum needed : Nat) : Nat → Nat → Option Nat
  | 0, grown => if grown < needed then none else some grown
  | turns + 1, grown =>
      if grown < needed then do
        let next ← if maximum / 2 < grown then some maximum else sizeMul grown 2
        if next ≤ grown then some needed else growTurns maximum needed turns next
      else some grown

/-- More turns than that double past every `size_t`. -/
def growthTurns : Nat := 66

def McStreamDecoderConfig.Sized (config : McStreamDecoderConfig) : Prop :=
  config.maxBufferedSize ≤ sizeMax ∧ config.maxOutputSize ≤ sizeMax

/-- The arguments of a call are `size_t` values. -/
def FeedCall.Sized (call : FeedCall) : Prop :=
  call.data.size ≤ sizeMax ∧ call.frameCapacity ≤ sizeMax

instance : DecidablePred McStreamDecoderConfig.Sized := fun _ => inferInstanceAs (Decidable (_ ∧ _))

instance : DecidablePred FeedCall.Sized := fun _ => inferInstanceAs (Decidable (_ ∧ _))

namespace Checked

def saturatingAdd (left right : Nat) : Option Nat := do
  let room ← sizeSub sizeMax left
  if room < right then some sizeMax else sizeAdd left right

def absoluteOffset (decoder : McStreamDecoder) (relative : Nat) : Option Nat :=
  saturatingAdd decoder.streamOffset relative

def consume (decoder : McStreamDecoder) (consumed : Nat) : Option McStreamDecoder :=
  if consumed = 0 then some decoder
  else do
    let remaining ← sizeSub decoder.buffer.length consumed
    let streamOffset ← saturatingAdd decoder.streamOffset consumed
    some
      { decoder with
        buffer := (decoder.buffer.drop consumed).take remaining
        streamOffset := streamOffset }

def grownCapacity (maximum needed capacity : Nat) : Option Nat :=
  growTurns maximum needed growthTurns (min (if capacity = 0 then 4096 else capacity) maximum)

def streamReserve (heap : Heap) (decoder : McStreamDecoder) (needed : Nat) :
    Option (Bool × McStreamDecoder) :=
  if decoder.config.maxBufferedSize < needed then some (false, decoder)
  else if needed ≤ decoder.bufferCapacity then some (true, decoder)
  else do
    let grown ← grownCapacity decoder.config.maxBufferedSize needed decoder.bufferCapacity
    if heap.grant decoder.serial grown then
      some (true, { decoder with bufferCapacity := grown, serial := decoder.serial + 1 })
    else some (false, { decoder with serial := decoder.serial + 1 })

def streamReserveOutput (heap : Heap) (needed : Nat) (feeding : Feeding) :
    Option (Option Unit × Feeding) :=
  let decoder := feeding.decoder
  if decoder.config.maxOutputSize < needed then some (none, feeding)
  else if needed ≤ decoder.outputCapacity then some (some (), feeding)
  else do
    let grown ← grownCapacity decoder.config.maxOutputSize needed decoder.outputCapacity
    if heap.grant decoder.serial grown then
      some (some (),
        { decoder :=
            { decoder with
              outputCapacity := grown
              arena := decoder.serial + 1
              serial := decoder.serial + 1 }
          frames := feeding.frames.map fun frame =>
            { frame with payload := { frame.payload with arena := decoder.serial + 1 } } })
    else some (none, { feeding with decoder := { decoder with serial := decoder.serial + 1 } })

def streamFinishPacket (packet : List UInt8) (compressed : Bool) (packetOffset : Nat)
    (feeding : Feeding) : Option (Option Unit × Feeding) :=
  let decoder := feeding.decoder
  if packet.length = 0 then some (streamFail .invalidPacketBody packetOffset feeding)
  else
    match streamVarint packet decoder.config.mode with
    | .partialInput => do
        let offset ← saturatingAdd packetOffset 0
        some (streamFail .invalidPacketBody offset feeding)
    | .invalid code offset => do
        let offset ← saturatingAdd packetOffset offset
        some (streamFail code offset feeding)
    | .complete packetId idSize =>
        if packetId < 0 then do
          let offset ← saturatingAdd packetOffset 0
          some (streamFail .invalidPacketBody offset feeding)
        else do
          let outputSize ← sizeAdd decoder.output.length packet.length
          let payloadOffset ← sizeAdd decoder.output.length idSize
          let payloadSize ← sizeSub packet.length idSize
          some (some (),
            { decoder := { decoder with output := (decoder.output ++ packet).take outputSize }
              frames := feeding.frames ++
                [{ packetId := packetId
                   payload :=
                     { arena := decoder.arena
                       offset := payloadOffset
                       size := payloadSize }
                   compressed := compressed }] })

def streamEmitRoom (heap : Heap) (packetSize packetOffset : Nat) (feeding : Feeding) :
    Option (Option Unit × Feeding) := do
  let decoder := feeding.decoder
  let room ← sizeSub sizeMax decoder.output.length
  if room < packetSize then some (streamFail .integerOverflow packetOffset feeding)
  else
    let needed ← sizeAdd decoder.output.length packetSize
    if decoder.config.maxOutputSize < needed then
      some (streamFail .bufferLimit packetOffset feeding)
    else
      match ← streamReserveOutput heap needed feeding with
      | (some (), feeding) => some (some (), feeding)
      | (none, feeding) => some (streamFail .outOfMemory packetOffset feeding)

def streamEmitUncompressed (heap : Heap) (packet : List UInt8) (compressed : Bool)
    (packetOffset : Nat) (feeding : Feeding) : Option (Option Unit × Feeding) := do
  match ← streamEmitRoom heap packet.length packetOffset feeding with
  | (some (), feeding) => streamFinishPacket packet compressed packetOffset feeding
  | (none, feeding) => some (none, feeding)

def streamEmitCompressed (zlib : Zlib) (heap : Heap) (compressed : List UInt8)
    (declaredSize packetOffset : Nat) (feeding : Feeding) : Option (Option Unit × Feeding) :=
  if uintMax < compressed.length ∨ uintMax < declaredSize then
    some (streamFail .integerOverflow packetOffset feeding)
  else do
    match ← streamEmitRoom heap declaredSize packetOffset feeding with
    | (none, feeding) => some (none, feeding)
    | (some (), feeding) =>
        match zlib.inflateOnce compressed declaredSize with
        | none => some (streamFail .zlib packetOffset feeding)
        | some step =>
            if step.status ≠ .streamEnd ∨ step.output.length ≠ declaredSize ∨
                feeding.decoder.config.mode = .strict ∧ step.rest.length ≠ 0 then
              some (streamFail .zlib packetOffset feeding)
            else streamFinishPacket step.output true packetOffset feeding

def streamDecodeFrame (zlib : Zlib) (heap : Heap) (frame : List UInt8) (frameOffset : Nat)
    (feeding : Feeding) : Option (Option Unit × Feeding) :=
  let decoder := feeding.decoder
  if decoder.compressionThreshold < 0 then
    streamEmitUncompressed heap frame false frameOffset feeding
  else
    match streamVarint frame decoder.config.mode with
    | .partialInput => do
        let offset ← saturatingAdd frameOffset 0
        some (streamFail .compressionHeader offset feeding)
    | .invalid code offset => do
        let offset ← saturatingAdd frameOffset offset
        some (streamFail code offset feeding)
    | .complete declared headerSize =>
        if declared < 0 then do
          let offset ← saturatingAdd frameOffset 0
          some (streamFail .compressionHeader offset feeding)
        else do
          let bodySize ← sizeSub frame.length headerSize
          let bodyOffset ← saturatingAdd frameOffset headerSize
          let body := (frame.drop headerSize).take bodySize
          if declared = 0 then
            if decoder.config.mode = .strict ∧ decoder.compressionThreshold ≤ bodySize then
              some (streamFail .compressionThreshold frameOffset feeding)
            else streamEmitUncompressed heap body false bodyOffset feeding
          else if decoder.config.maxDecompressedSize < declared.toNat then
            some (streamFail .decompressedTooLarge frameOffset feeding)
          else if decoder.config.mode = .strict ∧ declared < decoder.compressionThreshold then
            some (streamFail .compressionThreshold frameOffset feeding)
          else streamEmitCompressed zlib heap body declared.toNat bodyOffset feeding

def streamStop (consumed : Nat) (feeding : Feeding) : Option (Option Unit × Feeding) := do
  let decoder ← consume feeding.decoder consumed
  some (some (), { feeding with decoder := decoder })

def streamStopFailed (consumed : Nat) (code : McErrorCode) (relative : Nat) (feeding : Feeding) :
    Option (Option Unit × Feeding) := do
  let decoder ← consume feeding.decoder consumed
  let offset ← absoluteOffset decoder relative
  some (streamFail code offset { feeding with decoder := decoder })

/-- With the count of the frames emitted so far. -/
def feedLoop (zlib : Zlib) (heap : Heap) :
    Nat → Nat → Nat → Feeding → Option (Option Unit × Feeding)
  | 0, _, consumed, feeding => streamStop consumed feeding
  | quota + 1, emitted, consumed, feeding =>
      let decoder := feeding.decoder
      if decoder.buffer.length ≤ consumed then streamStop consumed feeding
      else do
        let left ← sizeSub decoder.buffer.length consumed
        match streamVarint ((decoder.buffer.drop consumed).take left) decoder.config.mode with
        | .partialInput => streamStop consumed feeding
        | .invalid code offset => streamStopFailed consumed code offset feeding
        | .complete encodedSize headerSize =>
            if encodedSize ≤ 0 then streamStopFailed consumed .invalidLength 0 feeding
            else if decoder.config.maxFrameSize < encodedSize.toNat then
              streamStopFailed consumed .frameTooLarge 0 feeding
            else do
              let available ← sizeSub left headerSize
              if available < encodedSize.toNat then streamStop consumed feeding
              else
                let start ← sizeAdd consumed headerSize
                let frame := (decoder.buffer.drop start).take encodedSize.toNat
                let frameOffset ← absoluteOffset decoder start
                match ← streamDecodeFrame zlib heap frame frameOffset feeding with
                | (none, feeding) => do
                    let decoder ← consume feeding.decoder consumed
                    some (none, { feeding with decoder := decoder })
                | (some (), feeding) => do
                    let step ← sizeAdd headerSize encodedSize.toNat
                    let consumed ← sizeAdd consumed step
                    let emitted ← sizeAdd emitted 1
                    feedLoop zlib heap quota emitted consumed feeding

def mcStreamDecoderFeed (zlib : Zlib) (heap : Heap) (decoder : McStreamDecoder)
    (call : FeedCall) : Option (FeedResult × McStreamDecoder) :=
  let size := call.data.size
  let refuse (code : McErrorCode) (decoder : McStreamDecoder) := do
    let offset ← absoluteOffset decoder decoder.buffer.length
    some (feedFailed [] (decoder.fail code offset))
  if call.Invalid then refuse .invalidArgument decoder
  else if decoder.failed then some (feedFailed [] decoder)
  else do
    let decoder := { decoder with compressionTransitionReady := false, output := [] }
    let room ← sizeSub decoder.config.maxBufferedSize decoder.buffer.length
    if room < size then refuse .bufferLimit decoder
    else
      let needed ← sizeAdd decoder.buffer.length size
      match ← streamReserve heap decoder needed with
      | (false, decoder) => refuse .outOfMemory decoder
      | (true, decoder) =>
          let decoder := { decoder with buffer := decoder.buffer ++ call.data.content }
          match ← feedLoop zlib heap call.frameCapacity 0 0 ⟨decoder, []⟩ with
          | (none, feeding) => some (feedFailed feeding.frames feeding.decoder)
          | (some (), feeding) =>
              let emitted := feeding.frames.length
              let ready := emitted ≠ 0 ∧ emitted = call.frameCapacity ∧
                feeding.decoder.buffer.length ≠ 0
              some (⟨true, feeding.frames, mcErrorClear⟩,
                { feeding.decoder with compressionTransitionReady := ready })

end Checked

theorem growTurns_enough {maximum needed grown : Nat} (enough : needed ≤ grown) (turns : Nat) :
    growTurns maximum needed turns grown = some grown := by
  cases turns with
  | zero => exact if_neg (Nat.not_lt.mpr enough)
  | succ turns => exact if_neg (Nat.not_lt.mpr enough)

theorem growLoop_enough {maximum needed grown : Nat} (enough : needed ≤ grown) :
    growLoop maximum needed grown = grown := by
  unfold growLoop
  exact if_neg (Nat.not_lt.mpr enough)

/-- From the limit one turn is left: to what is needed. -/
theorem growTurns_limit (maximum needed turns : Nat) :
    growTurns maximum needed (turns + 1) maximum = some (growLoop maximum needed maximum) := by
  by_cases short : maximum < needed
  · have stuck : (if maximum / 2 < maximum then maximum else maximum * 2) ≤ maximum := by
      split_ifs <;> omega
    have last : growLoop maximum needed maximum = needed := by
      unfold growLoop
      rw [if_pos short]
      exact if_pos stuck
    rw [last, growTurns, if_pos short]
    by_cases half : maximum / 2 < maximum
    · rw [if_pos half]
      exact if_pos (Nat.le_refl maximum)
    · have none : maximum = 0 := by omega
      subst none
      rfl
  · rw [growTurns_enough (Nat.le_of_not_lt short), growLoop_enough (Nat.le_of_not_lt short)]

/-- The loop doubles until it passes the limit, so its turns are bounded by the bits of
the limit. -/
theorem growTurns_eq {maximum needed : Nat} (word : maximum ≤ sizeMax) {turns grown : Nat}
    (doublings : maximum < grown * 2 ^ turns) :
    growTurns maximum needed (turns + 2) grown = some (growLoop maximum needed grown) := by
  induction turns generalizing grown with
  | zero =>
      by_cases short : grown < needed
      · have half : maximum / 2 < grown := by omega
        have stuck : maximum ≤ grown := by omega
        unfold growTurns growLoop
        simp only [if_pos short, if_pos half, if_pos stuck, Option.bind_eq_bind, Option.bind_some]
      · rw [growTurns_enough (Nat.le_of_not_lt short), growLoop_enough (Nat.le_of_not_lt short)]
  | succ turns ih =>
      by_cases short : grown < needed
      · unfold growTurns growLoop
        by_cases half : maximum / 2 < grown
        · simp only [if_pos short, if_pos half, Option.bind_eq_bind, Option.bind_some]
          by_cases stuck : maximum ≤ grown
          · rw [if_pos stuck, if_pos stuck]
          · rw [if_neg stuck, if_neg stuck]
            exact growTurns_limit maximum needed (turns + 1)
        · have doubled : grown * 2 ≤ sizeMax := by omega
          have further : maximum < grown * 2 * 2 ^ turns := by
            rwa [Nat.mul_assoc, ← Nat.pow_succ']
          simp only [if_pos short, if_neg half, sizeMul_fits doubled, Option.bind_eq_bind,
            Option.bind_some]
          by_cases stuck : grown * 2 ≤ grown
          · rw [if_pos stuck, if_pos stuck]
          · rw [if_neg stuck, if_neg stuck]
            exact ih further
      · rw [growTurns_enough (Nat.le_of_not_lt short), growLoop_enough (Nat.le_of_not_lt short)]

theorem grownCapacity_checked {maximum needed : Nat} (word : maximum ≤ sizeMax)
    (possible : needed ≤ maximum) (capacity : Nat) :
    Checked.grownCapacity maximum needed capacity = some (grownCapacity maximum needed capacity) := by
  by_cases none : maximum = 0
  · have enough : needed ≤ min (if capacity = 0 then 4096 else capacity) maximum := by omega
    exact (growTurns_enough enough _).trans (congrArg some (growLoop_enough enough).symm)
  · have started : 1 ≤ min (if capacity = 0 then 4096 else capacity) maximum := by
      split_ifs <;> omega
    refine (growTurns_eq word ?_ :
      growTurns maximum needed (64 + 2) _ = _)
    calc maximum
      _ < 1 * 2 ^ 64 := by
        simp only [sizeMax] at word
        omega
      _ ≤ min (if capacity = 0 then 4096 else capacity) maximum * 2 ^ 64 :=
        Nat.mul_le_mul_right _ started

theorem saturatingAdd_checked {left : Nat} (word : left ≤ sizeMax) (right : Nat) :
    Checked.saturatingAdd left right = some (saturatingAdd left right) := by
  simp only [Checked.saturatingAdd, sizeSub_fits word, Option.bind_eq_bind, Option.bind_some,
    saturatingAdd]
  split_ifs with wraps
  · rfl
  · exact sizeAdd_fits (by omega)

/-- What decoding a frame does not touch. -/
theorem sameStream_moves :
    FrameMoves fun before after => before.decoder.SameStream after.decoder where
  trans := .trans
  fails feeding code offset := by
    simp only [McStreamDecoder.fail]
    split_ifs <;> exact ⟨rfl, rfl, rfl, rfl⟩
  reservesOutput heap needed feeding := by
    simp only [streamReserveOutput]
    split_ifs <;> exact ⟨rfl, rfl, rfl, rfl⟩
  finishes packet compressed packetOffset feeding := by
    have fails (code : McErrorCode) (offset : Nat) :
        feeding.decoder.SameStream (feeding.decoder.fail code offset) := by
      simp only [McStreamDecoder.fail]
      split_ifs <;> exact ⟨rfl, rfl, rfl, rfl⟩
    unfold streamFinishPacket
    dsimp only
    split_ifs with empty
    · exact fails _ _
    · cases streamVarint packet feeding.decoder.config.mode with
      | partialInput => exact fails _ _
      | invalid code offset => exact fails _ _
      | complete packetId idSize =>
          dsimp only
          split_ifs with negative
          · exact fails _ _
          · exact ⟨rfl, rfl, rfl, rfl⟩

namespace McStreamDecoder.Bounded

variable {decoder : McStreamDecoder} (bounded : decoder.Bounded)
include bounded

theorem absoluteOffset_checked (relative : Nat) :
    Checked.absoluteOffset decoder relative = some (decoder.absoluteOffset relative) :=
  saturatingAdd_checked bounded.offset_le relative

theorem absoluteOffset_le (relative : Nat) : decoder.absoluteOffset relative ≤ sizeMax :=
  saturatingAdd_le bounded.offset_le relative

/-- What is consumed was buffered. -/
theorem consume_checked {consumed : Nat} (inside : consumed ≤ decoder.buffer.length) :
    Checked.consume decoder consumed = some (decoder.consume consumed) := by
  unfold Checked.consume McStreamDecoder.consume
  split_ifs with none
  · rfl
  · have whole : (decoder.buffer.drop consumed).take (decoder.buffer.length - consumed) =
        decoder.buffer.drop consumed := by
      rw [← List.length_drop, List.take_length]
    simp only [sizeSub_fits inside, saturatingAdd_checked bounded.offset_le, Option.bind_eq_bind,
      Option.bind_some, whole]

omit bounded in
theorem reserve_checked (sized : decoder.config.Sized) (heap : Heap) (needed : Nat) :
    Checked.streamReserve heap decoder needed = some (streamReserve heap decoder needed) := by
  unfold Checked.streamReserve streamReserve
  split_ifs with limited enough
  · rfl
  · rfl
  · simp only [grownCapacity_checked sized.1 (Nat.le_of_not_lt limited), Option.bind_eq_bind,
      Option.bind_some]
    split_ifs <;> rfl

end McStreamDecoder.Bounded

namespace Feeding

variable {feeding : Feeding} (bounded : feeding.decoder.Bounded)
  (sized : feeding.decoder.config.Sized)

include bounded sized in
/-- What is laid out is within the limit, and the limit is a `size_t`. -/
theorem output_le : feeding.decoder.output.length ≤ sizeMax :=
  bounded.laidOut.trans (bounded.outputLimit.trans sized.2)

include sized in
theorem reserveOutput_checked (heap : Heap) (needed : Nat) :
    Checked.streamReserveOutput heap needed feeding =
      some (streamReserveOutput heap needed feeding) := by
  unfold Checked.streamReserveOutput streamReserveOutput
  dsimp only
  split_ifs with limited enough granted
  · rfl
  · rfl
  · simp only [grownCapacity_checked sized.2 (Nat.le_of_not_lt limited), Option.bind_eq_bind,
      Option.bind_some, if_pos granted]
  · simp only [grownCapacity_checked sized.2 (Nat.le_of_not_lt limited), Option.bind_eq_bind,
      Option.bind_some, if_neg granted]

theorem finishPacket_checked {packet : List UInt8}
    (room : feeding.decoder.output.length + packet.length ≤ sizeMax) (compressed : Bool)
    {packetOffset : Nat} (offset_le : packetOffset ≤ sizeMax) :
    Checked.streamFinishPacket packet compressed packetOffset feeding =
      some (streamFinishPacket packet compressed packetOffset feeding) := by
  unfold Checked.streamFinishPacket streamFinishPacket
  dsimp only
  split_ifs with empty
  · rfl
  · cases read : streamVarint packet feeding.decoder.config.mode with
    | partialInput =>
        simp only [saturatingAdd_checked offset_le, Option.bind_eq_bind, Option.bind_some]
    | invalid code offset =>
        simp only [saturatingAdd_checked offset_le, Option.bind_eq_bind, Option.bind_some]
    | complete packetId idSize =>
        have inside := (streamVarint_size read).2
        have start : feeding.decoder.output.length + idSize ≤ sizeMax := by omega
        have whole : (feeding.decoder.output ++ packet).take
            (feeding.decoder.output.length + packet.length) = feeding.decoder.output ++ packet := by
          rw [← List.length_append, List.take_length]
        dsimp only
        split_ifs with negative
        · simp only [saturatingAdd_checked offset_le, Option.bind_eq_bind, Option.bind_some]
        · simp only [sizeAdd_fits room, sizeAdd_fits start, sizeSub_fits inside,
            Option.bind_eq_bind, Option.bind_some, whole]

include bounded sized

theorem emitRoom_checked (heap : Heap) (packetSize packetOffset : Nat) :
    Checked.streamEmitRoom heap packetSize packetOffset feeding =
      some (streamEmitRoom heap packetSize packetOffset feeding) := by
  have laid := output_le bounded sized
  unfold Checked.streamEmitRoom streamEmitRoom
  simp only [sizeSub_fits laid, Option.bind_eq_bind, Option.bind_some]
  by_cases wraps : sizeMax - feeding.decoder.output.length < packetSize
  · simp only [if_pos wraps]
  have fits : feeding.decoder.output.length + packetSize ≤ sizeMax := by omega
  simp only [if_neg wraps, sizeAdd_fits fits, Option.bind_some, reserveOutput_checked sized]
  split_ifs with limited
  · rfl
  · rcases streamReserveOutput heap (feeding.decoder.output.length + packetSize) feeding with
      ⟨_ | u, held⟩ <;> rfl

/-- A packet is laid out in the room made for it. -/
theorem emitRoom_room {heap : Heap} {packetSize packetOffset : Nat} {u : Unit} {after : Feeding}
    (run : streamEmitRoom heap packetSize packetOffset feeding = (some u, after)) :
    after.decoder.Bounded ∧ after.decoder.config.Sized ∧
      after.decoder.output.length + packetSize ≤ sizeMax := by
  obtain ⟨kept, room⟩ := bounded_emitRoom bounded heap packetSize packetOffset
  have same := sameStream_moves.emitRoom heap feeding packetSize packetOffset
  rw [run] at kept room same
  have within : after.decoder.config.Sized := same.config ▸ sized
  exact ⟨kept, within, (room rfl).trans (kept.outputLimit.trans within.2)⟩

theorem emitUncompressed_checked (heap : Heap) (packet : List UInt8) (compressed : Bool)
    {packetOffset : Nat} (offset_le : packetOffset ≤ sizeMax) :
    Checked.streamEmitUncompressed heap packet compressed packetOffset feeding =
      some (streamEmitUncompressed heap packet compressed packetOffset feeding) := by
  unfold Checked.streamEmitUncompressed streamEmitUncompressed
  rw [emitRoom_checked bounded sized, Option.bind_eq_bind, Option.bind_some]
  rcases run : streamEmitRoom heap packet.length packetOffset feeding with ⟨_ | u, after⟩
  · rw [Prog.bind_none run]
  · rw [Prog.bind_some run]
    obtain ⟨-, -, room⟩ := emitRoom_room bounded sized run
    exact finishPacket_checked room compressed offset_le

theorem emitCompressed_checked (zlib : Zlib) (heap : Heap) (compressed : List UInt8)
    (declaredSize : Nat) {packetOffset : Nat} (offset_le : packetOffset ≤ sizeMax) :
    Checked.streamEmitCompressed zlib heap compressed declaredSize packetOffset feeding =
      some (streamEmitCompressed zlib heap compressed declaredSize packetOffset feeding) := by
  unfold Checked.streamEmitCompressed streamEmitCompressed
  by_cases large : uintMax < compressed.length ∨ uintMax < declaredSize
  · rw [if_pos large, if_pos large]
  rw [if_neg large, if_neg large, emitRoom_checked bounded sized, Option.bind_eq_bind,
    Option.bind_some]
  rcases run : streamEmitRoom heap declaredSize packetOffset feeding with ⟨_ | u, after⟩
  · rw [Prog.bind_none run]
  · rw [Prog.bind_some run]
    obtain ⟨-, -, room⟩ := emitRoom_room bounded sized run
    cases zlib.inflateOnce compressed declaredSize with
    | none => rfl
    | some step =>
        dsimp only
        split_ifs with short
        · rfl
        · have whole : step.output.length = declaredSize := by
            by_contra other
            exact short (.inr (.inl other))
          exact finishPacket_checked (whole.symm ▸ room) true offset_le

theorem decodeFrame_checked (zlib : Zlib) (heap : Heap) (frame : List UInt8) {frameOffset : Nat}
    (offset_le : frameOffset ≤ sizeMax) :
    Checked.streamDecodeFrame zlib heap frame frameOffset feeding =
      some (streamDecodeFrame zlib heap frame frameOffset feeding) := by
  unfold Checked.streamDecodeFrame streamDecodeFrame
  dsimp only
  by_cases bare : feeding.decoder.compressionThreshold < 0
  · simp only [if_pos bare]
    exact emitUncompressed_checked bounded sized heap frame false offset_le
  simp only [if_neg bare]
  cases read : streamVarint frame feeding.decoder.config.mode with
  | partialInput =>
      simp only [saturatingAdd_checked offset_le, Option.bind_eq_bind, Option.bind_some]
  | invalid code offset =>
      simp only [saturatingAdd_checked offset_le, Option.bind_eq_bind, Option.bind_some]
  | complete declared headerSize =>
      have inside := (streamVarint_size read).2
      have whole : (frame.drop headerSize).take (frame.length - headerSize) =
          frame.drop headerSize := by
        rw [← List.length_drop, List.take_length]
      have behind := saturatingAdd_le offset_le headerSize
      simp only [saturatingAdd_checked offset_le, sizeSub_fits inside, whole, Option.bind_eq_bind,
        Option.bind_some, List.length_drop]
      split_ifs
      · rfl
      · rfl
      · exact emitUncompressed_checked bounded sized heap _ false behind
      · rfl
      · rfl
      · exact emitCompressed_checked bounded sized zlib heap _ _ behind

omit sized

theorem stop_checked {consumed : Nat} (inside : consumed ≤ feeding.decoder.buffer.length) :
    Checked.streamStop consumed feeding = some (streamStop consumed feeding) := by
  simp only [Checked.streamStop, bounded.consume_checked inside, Option.bind_eq_bind,
    Option.bind_some, streamStop]

theorem stopFailed_checked {consumed : Nat} (inside : consumed ≤ feeding.decoder.buffer.length)
    (code : McErrorCode) (relative : Nat) :
    Checked.streamStopFailed consumed code relative feeding =
      some (streamStopFailed consumed code relative feeding) := by
  simp only [Checked.streamStopFailed, bounded.consume_checked inside,
    (bounded.consume consumed).absoluteOffset_checked, Option.bind_eq_bind, Option.bind_some,
    streamStopFailed]

include sized

/-- What is behind `consumed` was buffered, and the frames counted were asked for. -/
theorem feedLoop_checked (zlib : Zlib) (heap : Heap) {quota emitted consumed : Nat}
    (counted : emitted + quota ≤ sizeMax) (inside : consumed ≤ feeding.decoder.buffer.length) :
    Checked.feedLoop zlib heap quota emitted consumed feeding =
      some (feedLoop zlib heap quota consumed feeding) := by
  induction quota generalizing feeding emitted consumed with
  | zero => exact stop_checked bounded inside
  | succ quota ih =>
      have word : feeding.decoder.buffer.length ≤ sizeMax :=
        bounded.buffered.trans (bounded.bufferLimit.trans sized.1)
      unfold Checked.feedLoop feedLoop
      dsimp only
      by_cases drained : feeding.decoder.buffer.length ≤ consumed
      · simp only [if_pos drained]
        exact stop_checked bounded inside
      have whole : (feeding.decoder.buffer.drop consumed).take
          (feeding.decoder.buffer.length - consumed) = feeding.decoder.buffer.drop consumed := by
        rw [← List.length_drop, List.take_length]
      simp only [if_neg drained, sizeSub_fits inside, Option.bind_eq_bind, Option.bind_some, whole]
      cases read : streamVarint (feeding.decoder.buffer.drop consumed)
          feeding.decoder.config.mode with
      | partialInput => exact stop_checked bounded inside
      | invalid code offset => exact stopFailed_checked bounded inside code offset
      | complete encodedSize headerSize =>
          have header := (streamVarint_size read).2
          rw [List.length_drop] at header
          dsimp only
          by_cases negative : encodedSize ≤ 0
          · simp only [if_pos negative]
            exact stopFailed_checked bounded inside _ 0
          by_cases large : feeding.decoder.config.maxFrameSize < encodedSize.toNat
          · simp only [if_neg negative, if_pos large]
            exact stopFailed_checked bounded inside _ 0
          simp only [if_neg negative, if_neg large, sizeSub_fits header, Option.bind_some]
          by_cases short : feeding.decoder.buffer.length - consumed - headerSize < encodedSize.toNat
          · simp only [if_pos short]
            exact stop_checked bounded inside
          have start : consumed + headerSize ≤ sizeMax := by omega
          simp only [if_neg short, sizeAdd_fits start, bounded.absoluteOffset_checked,
            decodeFrame_checked bounded sized zlib heap _ (bounded.absoluteOffset_le _),
            Option.bind_some]
          have kept := bounded_decodeFrame bounded zlib heap
            ((feeding.decoder.buffer.drop (consumed + headerSize)).take encodedSize.toNat)
            (feeding.decoder.absoluteOffset (consumed + headerSize))
          have same := sameStream_moves.decodeFrame zlib heap feeding
            ((feeding.decoder.buffer.drop (consumed + headerSize)).take encodedSize.toNat)
            (feeding.decoder.absoluteOffset (consumed + headerSize))
          rcases run : streamDecodeFrame zlib heap
              ((feeding.decoder.buffer.drop (consumed + headerSize)).take encodedSize.toNat)
              (feeding.decoder.absoluteOffset (consumed + headerSize)) feeding with ⟨_ | u, after⟩
          · rw [run] at kept same
            have still : consumed ≤ after.decoder.buffer.length := same.buffer ▸ inside
            simp only [kept.consume_checked still, Option.bind_some]
          · rw [run] at kept same
            have step : headerSize + encodedSize.toNat ≤ sizeMax := by omega
            have further : consumed + (headerSize + encodedSize.toNat) ≤
                after.decoder.buffer.length := by
              rw [same.buffer]
              omega
            have within : after.decoder.config.Sized := same.config ▸ sized
            have count : emitted + 1 ≤ sizeMax := by omega
            have reached : consumed + (headerSize + encodedSize.toNat) ≤ sizeMax := by omega
            simp only [sizeAdd_fits step, sizeAdd_fits reached, sizeAdd_fits count,
              Option.bind_some]
            rw [← Nat.add_assoc] at further ⊢
            exact ih kept within (by omega) further

end Feeding

theorem McStreamDecoder.Bounded.feed_checked {decoder : McStreamDecoder}
    (bounded : decoder.Bounded) (sized : decoder.config.Sized) (zlib : Zlib) (heap : Heap)
    {call : FeedCall} (arguments : call.Sized) :
    Checked.mcStreamDecoderFeed zlib heap decoder call =
      some (mcStreamDecoderFeed zlib heap decoder call) := by
  have buffered : decoder.buffer.length ≤ decoder.config.maxBufferedSize :=
    bounded.buffered.trans bounded.bufferLimit
  have refused {decoder : McStreamDecoder} (bounded : decoder.Bounded) :=
    bounded.absoluteOffset_checked decoder.buffer.length
  unfold Checked.mcStreamDecoderFeed mcStreamDecoderFeed
  dsimp only
  by_cases invalid : call.Invalid
  · simp only [if_pos invalid, refused bounded, Option.bind_eq_bind, Option.bind_some]
  by_cases failed : decoder.failed = true
  · simp only [if_neg invalid, if_pos failed]
  simp only [if_neg invalid, if_neg failed, sizeSub_fits buffered, Option.bind_eq_bind,
    Option.bind_some]
  by_cases limited : decoder.config.maxBufferedSize - decoder.buffer.length < call.data.size
  · simp only [if_pos limited]
    exact congrArg (Option.bind · _) (refused bounded.emptied)
  have word := sized.1
  have fits : decoder.buffer.length + call.data.size ≤ sizeMax := by omega
  simp only [if_neg limited, sizeAdd_fits fits, Option.bind_some]
  let emptied := { decoder with compressionTransitionReady := false, output := [] }
  have reserving : Checked.streamReserve heap emptied (decoder.buffer.length + call.data.size) =
      some (streamReserve heap emptied (decoder.buffer.length + call.data.size)) :=
    McStreamDecoder.Bounded.reserve_checked (show emptied.config.Sized from sized) heap _
  simp only [emptied] at reserving
  simp only [reserving, Option.bind_some]
  rcases run : streamReserve heap { decoder with compressionTransitionReady := false, output := [] }
      (decoder.buffer.length + call.data.size) with ⟨_ | _, held⟩
  · have kept := (bounded.emptied.reserve heap (decoder.buffer.length + call.data.size)).1
    rw [run] at kept
    simp only [refused kept, Option.bind_some]
  · obtain ⟨kept, same⟩ := bounded.buffering run
    have counted : 0 + call.frameCapacity ≤ sizeMax := by
      rw [Nat.zero_add]
      exact arguments.2
    let started : Feeding := ⟨{ held with buffer := held.buffer ++ call.data.content }, []⟩
    have within : started.decoder.config.Sized := same ▸ sized
    have looped : Checked.feedLoop zlib heap call.frameCapacity 0 0 started =
        some (feedLoop zlib heap call.frameCapacity 0 started) :=
      Feeding.feedLoop_checked kept within zlib heap counted (Nat.zero_le _)
    simp only [started] at looped
    simp only [looped, Option.bind_some]
    rcases feedLoop zlib heap call.frameCapacity 0
      ⟨{ held with buffer := held.buffer ++ call.data.content }, []⟩ with ⟨_ | u, ended⟩ <;> rfl

/-- Whatever calls a decoder has been through: sizes are within capacities and these
within limits; no feed wraps a `size_t`; and the growth of a buffer ends, with room for
what was asked. -/
theorem streamDecoder_sizes (zlib : Zlib) {decoder : McStreamDecoder}
    (reachable : decoder.Reachable zlib) (sized : decoder.config.Sized) :
    (decoder.buffer.length ≤ decoder.bufferCapacity ∧
        decoder.bufferCapacity ≤ decoder.config.maxBufferedSize ∧
        decoder.output.length ≤ decoder.outputCapacity ∧
        decoder.outputCapacity ≤ decoder.config.maxOutputSize) ∧
      (∀ (heap : Heap) (call : FeedCall), call.Sized →
        Checked.mcStreamDecoderFeed zlib heap decoder call =
          some (mcStreamDecoderFeed zlib heap decoder call)) ∧
      ∀ maximum needed capacity : Nat, maximum ≤ sizeMax → needed ≤ maximum →
        ∃ grown, Checked.grownCapacity maximum needed capacity = some grown ∧
          needed ≤ grown ∧ grown ≤ maximum := by
  have bounded := reachable.bounded
  refine ⟨⟨bounded.buffered, bounded.bufferLimit, bounded.laidOut, bounded.outputLimit⟩, ?_, ?_⟩
  · intro heap call arguments
    exact bounded.feed_checked sized zlib heap arguments
  · intro maximum needed capacity word possible
    exact ⟨_, grownCapacity_checked word possible capacity, growLoop_ge .., grownCapacity_le possible _⟩

/-- One packet of four bytes, under the smallest limits that let it pass. -/
theorem streamDecoder_sizes_smallest :
    let config : McStreamDecoderConfig := ⟨4, 4, 9, 4, .strict⟩
    let zlib := Zlib.knowing [] []
    let created := (mcStreamDecoderCreate (some config) true).toOption.get (by decide)
    let decoder := (mcStreamDecoderFeed zlib .ample created (feedOf [4, 0, 1, 2, 3, 4] 1)).2
    (decoder.bufferCapacity, decoder.outputCapacity, decoder.buffer.length) = (9, 4, 1) ∧
      decoder.buffer.length ≤ decoder.bufferCapacity := by
  intro config zlib created decoder
  have accepted : mcStreamDecoderCreate (some config) true = .ok created := rfl
  have reachable : decoder.Reachable zlib :=
    .call (.feed .ample (feedOf [4, 0, 1, 2, 3, 4] 1)) (.create accepted)
  exact ⟨by decide +kernel, (streamDecoder_sizes zlib reachable (by decide +kernel)).1.1⟩

end McProtocol
