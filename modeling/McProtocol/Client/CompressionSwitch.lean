import McProtocol.Client.Framing

/-! # A compression switch in mid-stream

Between two frames a client may change its threshold although bytes of later frames
are buffered: one frame is taken at a time, so that the buffer starts at a frame
boundary, and the decoder says so.
-/

namespace McProtocol

open Incremental

/-- `count` calls of `read_frame`. -/
def readFrames (host : Host) : Nat → ClientM (List (List UInt8))
  | 0 => pure []
  | count + 1 => do
      let frame ← readFrame host
      let frames ← readFrames host count
      pure (frame :: frames)

/-- Frames up to the one that announces the threshold, the switch, and frames behind. -/
def readAcrossSwitch (host : Host) (before : Nat) (threshold : Int) (behind : Nat) :
    ClientM (List (List UInt8)) := do
  let first ← readFrames host (before + 1)
  mcClientSetCompression threshold
  let rest ← readFrames host behind
  pure (first ++ rest)

section Front

variable {zlib : Zlib} {config : McStreamDecoderConfig} {threshold : Int} {packet : StreamPacket}
  {content data more rest : List UInt8}

/-- While a frame comes in, the decoder waits for it, and then emits it. -/
theorem verdict_front (accepted : ¬ config.Refused)
    (good : FramedAs zlib config threshold packet content)
    (front : data ++ more = framed content ++ rest) :
    frameVerdict zlib config threshold data = .needMore ∧
        data.length < (framed content).length ∨
      frameVerdict zlib config threshold data = .emit packet (framed content).length ∧
        (framed content).length ≤ data.length := by
  by_cases long : (framed content).length ≤ data.length
  · have split : framed content ++ data.drop (framed content).length = data := by
      have start := congrArg (List.take (framed content).length) front
      rw [List.take_append_of_le_length long, List.take_left] at start
      rw [← start, List.length_take, Nat.min_eq_left long, List.take_append_drop]
    have whole := frameVerdict_framed accepted good (data.drop (framed content).length)
    rw [split] at whole
    exact .inr ⟨whole, long⟩
  · refine .inl ⟨?_, by omega⟩
    by_contra decided
    have whole := frameVerdict_append decided more
    rw [front, frameVerdict_framed accepted good rest] at whole
    have inside := (frameScanner zlib config threshold).emit_size whole.symm
    exact long inside.2

end Front

/-- Memory for whatever the default limits allow. -/
structure Host.Provides (host : Host) : Prop where
  heap : ¬ host.heap.Refuses mcDefaultMaxStreamBufferedSize
  streamHeap : ¬ host.streamHeap.Refuses mcDefaultMaxStreamBufferedSize

/-- The decoder has taken whole frames and holds `buffer`. -/
def McStreamDecoder.Holds (threshold : Int) (buffer : List UInt8) (decoder : McStreamDecoder) :
    Prop :=
  ∃ taken, decoder.Follows mcStreamDecoderConfigInit threshold ⟨buffer, taken, none⟩

section Frames

variable {host : Host} {world : World} {threshold : Int} {packet : StreamPacket}
  {content buffer : List UInt8}

/-- A feed of the client, when no error is in the input. -/
theorem feedOne_clean (provides : host.Provides)
    (holds : world.client.streamDecoder.Holds threshold buffer) (data : Buffer)
    (valid : ¬ data.Missing)
    (input : buffer.length + data.size ≤ mcDefaultMaxStreamBufferedSize)
    (clean : ((frameScanner host.zlib mcStreamDecoderConfigInit threshold).take 1
      (buffer ++ data.content)).error = none) :
    ∃ decoder, feedOne host data world =
        (some ((frameScanner host.zlib mcStreamDecoderConfigInit threshold).take 1
            (buffer ++ data.content)).frames.head?,
          { world with client := { world.client with streamDecoder := decoder } }) ∧
      decoder.Holds threshold ((buffer ++ data.content).drop
        ((frameScanner host.zlib mcStreamDecoderConfigInit threshold).take 1
          (buffer ++ data.content)).taken) ∧
      (((frameScanner host.zlib mcStreamDecoderConfigInit threshold).take 1
          (buffer ++ data.content)).frames ≠ [] →
        decoder.compressionTransitionReady = decide (decoder.buffer.length ≠ 0)) := by
  obtain ⟨taken, follows⟩ := holds
  have held : world.client.streamDecoder.buffer = buffer := follows.2.2.2.1
  obtain ⟨⟨packets, followed⟩, succeeded⟩ := @feed_one host.zlib host.streamHeap _ _ _ _
    ⟨data, 1, false, false⟩ (by decide) (by simp [FeedCall.Invalid, valid]) rfl rfl follows
    (by decide) (held ▸ input) provides.streamHeap
  simp only [Session.feed] at packets followed succeeded
  obtain ⟨ok, ready⟩ := succeeded clean
  rw [clean] at followed
  refine ⟨_, ?_, ⟨_, followed⟩, ?_⟩
  · rw [feedOne, ← packets]
    simp only [ok, if_true, feedPackets, Feeding.packets, List.head?_map]
  · intro found
    have some := List.length_pos_iff.mpr found
    have quota := (frameScanner host.zlib mcStreamDecoderConfigInit threshold).take_quota 1
      (buffer ++ data.content)
    rw [packets] at ready
    refine ready.trans (decide_eq_decide.mpr ⟨fun full => full.2.2, fun left => ⟨?_, ?_, left⟩⟩)
    · omega
    · omega

/-- A client with `buffer` in its decoder and `chunks` on their way. -/
structure Reading (threshold : Int) (buffer : List UInt8) (chunks : List (List UInt8))
    (world : World) : Prop where
  connected : 0 ≤ world.client.socketFd
  untransformed : world.client.transforms = none
  holds : world.client.streamDecoder.Holds threshold buffer
  small : buffer.length ≤ mcDefaultMaxFrameSize + 5 + chunkCapacity
  arrivals : world.network.arrivals = chunks.map .bytes
  filled : [] ∉ chunks

/-- A receive takes what fits of the next chunk. -/
theorem receiveSome_chunk (world : World) {chunk : List UInt8} {chunks : List (List UInt8)}
    (connected : 0 ≤ world.client.socketFd) (untransformed : world.client.transforms = none)
    (arrivals : world.network.arrivals = (chunk :: chunks).map .bytes)
    (filled : [] ∉ chunk :: chunks) :
    ∃ after, ∃ left : List (List UInt8),
      receiveSome chunkCapacity world = (some (chunk.take chunkCapacity), after) ∧
      after.client = { world.client with receivedBytes := after.client.receivedBytes } ∧
      after.network.arrivals = left.map .bytes ∧ [] ∉ left ∧
      chunk.take chunkCapacity ++ left.flatten = chunk ++ chunks.flatten ∧
      arrivalWeight after.network.arrivals < arrivalWeight world.network.arrivals := by
  have some : chunk ≠ [] := (List.ne_of_not_mem_cons filled).symm
  have others : [] ∉ chunks := List.not_mem_of_not_mem_cons filled
  have attached : ¬ world.client.socketFd < 0 := by omega
  let rest := chunk.drop chunkCapacity
  let left := if rest = [] then chunks else rest :: chunks
  have looped : receiveLoop chunkCapacity world.network.arrivals world.network.waits =
      (.ok (chunk.take chunkCapacity), left.map .bytes, world.network.waits) := by
    obtain ⟨byte, bytes, rfl⟩ := List.exists_cons_of_ne_nil some
    rw [arrivals, List.map_cons, receiveLoop]
    simp only [left]
    split_ifs with nothing
    · rfl
    · rfl
  have received : receiveSome chunkCapacity world = (Option.some (chunk.take chunkCapacity),
      { world with
        client := { world.client with receivedBytes :=
          (world.client.receivedBytes + (chunk.take chunkCapacity).length) % 2 ^ 64 }
        network := { world.network with arrivals := left.map .bytes } }) := by
    simp only [receiveSome, if_neg attached, looped, untransformed]
  have shorter : rest.length < chunk.length := by
    have positive := List.length_pos_iff.mpr some
    simp only [rest, List.length_drop, chunkCapacity]
    omega
  refine ⟨_, left, received, rfl, rfl, ?_, ?_, ?_⟩
  · simp only [left]
    split_ifs with nothing
    · exact others
    · exact List.not_mem_cons_of_ne_of_not_mem (Ne.symm nothing) others
  · have whole : chunk.take chunkCapacity ++ rest = chunk := List.take_append_drop _ _
    simp only [left]
    split_ifs with nothing
    · rw [nothing, List.append_nil] at whole
      rw [whole]
    · rw [List.flatten_cons, ← List.append_assoc, whole]
  · rw [arrivals]
    simp only [left]
    split_ifs with nothing
    · simp only [arrivalWeight, List.map_cons, List.sum_cons]
      omega
    · simp only [arrivalWeight, List.map_cons, List.sum_cons]
      omega

theorem framed_length_le (good : FramedAs host.zlib mcStreamDecoderConfigInit threshold packet
    content) : (framed content).length ≤ mcDefaultMaxFrameSize + 5 := by
  have header := (encodeVarint_length content.length).2
  have fits : content.length ≤ mcDefaultMaxFrameSize := good.frame_le
  rw [framed, List.length_append]
  omega

/-- The decoded frame is copied. -/
theorem copyDecodedFrame_run (provides : host.Provides) (world : World)
    (good : FramedAs host.zlib mcStreamDecoderConfigInit threshold packet content) :
    copyDecodedFrame host packet world =
      (some packet.plain, { world with allocated := world.allocated + 1 }) := by
  have plain : packet.plain.length ≤ mcDefaultMaxDecompressedSize := good.plain_le
  have fits : ¬ sizeMax - (encodeVarint packet.packetId).length < packet.payload.length := by
    rw [StreamPacket.plain, List.length_append] at plain
    simp only [mcDefaultMaxDecompressedSize] at plain
    simp only [sizeMax]
    omega
  have granted : host.heap.grant world.allocated packet.plain.length = true := by
    by_contra refused
    refine provides.heap ⟨_, _, plain.trans (by decide), Bool.eq_false_of_not_eq_true refused⟩
  have checked : refuseIf (sizeMax - (encodeVarint packet.packetId).length < packet.payload.length)
      "Dimensione packet decodificato non valida" world = (some (), world) := by
    rw [refuseIf, if_neg fits]
    rfl
  have allocated : allocate host packet.plain.length "Memoria insufficiente per il frame" world =
      (some (), { world with allocated := world.allocated + 1 }) := if_pos granted
  rw [copyDecodedFrame]
  exact (Prog.bind_some checked).trans ((Prog.bind_some allocated).trans rfl)

/-- A feed at the front of a frame finds the frame or keeps waiting for it. -/
theorem feedOne_front (provides : host.Provides)
    (holds : world.client.streamDecoder.Holds threshold buffer) (data : Buffer)
    (valid : ¬ data.Missing)
    (input : buffer.length + data.size ≤ mcDefaultMaxStreamBufferedSize)
    (good : FramedAs host.zlib mcStreamDecoderConfigInit threshold packet content)
    {more rest : List UInt8}
    (front : buffer ++ data.content ++ more = framed content ++ rest) :
    ∃ decoder found, feedOne host data world =
        (some found, { world with client := { world.client with streamDecoder := decoder } }) ∧
      (found = some packet ∧ (framed content).length ≤ (buffer ++ data.content).length ∧
          decoder.Holds threshold ((buffer ++ data.content).drop (framed content).length) ∧
          decoder.compressionTransitionReady = decide (decoder.buffer.length ≠ 0) ∨
        found = none ∧ (buffer ++ data.content).length < (framed content).length ∧
          decoder.Holds threshold (buffer ++ data.content)) := by
  obtain ⟨waits, short⟩ | ⟨emits, long⟩ := verdict_front (by decide) good front
  · have taken : (frameScanner host.zlib mcStreamDecoderConfigInit threshold).take 1
        (buffer ++ data.content) = .idle := Scanner.take_needMore waits
    obtain ⟨decoder, run, kept, -⟩ := feedOne_clean provides holds data valid input (by rw [taken]; rfl)
    rw [taken] at run kept
    exact ⟨decoder, none, run, .inr ⟨rfl, short, kept⟩⟩
  · have taken : (frameScanner host.zlib mcStreamDecoderConfigInit threshold).take 1
        (buffer ++ data.content) = ⟨[packet], (framed content).length, none⟩ := by
      rw [Scanner.take_emit emits]
      exact Outcome.andThen_idle _
    obtain ⟨decoder, run, kept, ready⟩ :=
      feedOne_clean provides holds data valid input (by rw [taken])
    rw [taken] at run kept ready
    exact ⟨decoder, some packet, run, .inl ⟨rfl, long, kept, ready (List.cons_ne_nil _ _)⟩⟩

theorem drop_front {data more start rest : List UInt8} (front : data ++ more = start ++ rest)
    (long : start.length ≤ data.length) : data.drop start.length ++ more = rest := by
  have dropped := congrArg (List.drop start.length) front
  rwa [List.drop_append_of_le_length long, List.drop_left] at dropped

/-- The client stands at the front of what is ahead. -/
def AtFrame (threshold : Int) (ahead : List UInt8) (world : World) : Prop :=
  ∃ buffer chunks, Reading threshold buffer chunks world ∧ buffer ++ chunks.flatten = ahead

/-- The decoder stands at a frame boundary, and says so when it holds input. -/
def World.Between (world : World) : Prop :=
  world.client.streamDecoder.compressionTransitionReady =
    decide (world.client.streamDecoder.buffer.length ≠ 0)

/-- A turn of `read_frame` returns the frame at the front, or brings more of it in. -/
theorem readFrameTurn_cases (provides : host.Provides) {chunks : List (List UInt8)}
    (reading : Reading threshold buffer chunks world)
    (good : FramedAs host.zlib mcStreamDecoderConfigInit threshold packet content)
    {rest : List UInt8} (front : buffer ++ chunks.flatten = framed content ++ rest) :
    (∃ after, readFrameTurn host world = (some (some packet.plain), after) ∧
      AtFrame threshold rest after ∧ after.Between) ∨
    ∃ after, readFrameTurn host world = (some none, after) ∧
      AtFrame threshold (framed content ++ rest) after ∧
      arrivalWeight after.network.arrivals < arrivalWeight world.network.arrivals := by
  have frame := framed_length_le good
  have small := reading.small
  have start : buffer ++ (Buffer.null 0).content ++ chunks.flatten = framed content ++ rest := by
    rw [Buffer.content, List.append_nil]
    exact front
  have room : mcDefaultMaxFrameSize + 5 + chunkCapacity + chunkCapacity ≤
    mcDefaultMaxStreamBufferedSize := by decide
  obtain ⟨decoder, found, fed, outcome⟩ :=
    feedOne_front provides reading.holds (.null 0) (by decide)
      (by simp only [Buffer.size]; omega) good start
  rw [Buffer.content, List.append_nil] at outcome
  obtain ⟨rfl, long, kept, ready⟩ | ⟨rfl, short, kept⟩ := outcome
  · left
    have copied := copyDecodedFrame_run provides
      { world with client := { world.client with streamDecoder := decoder } } good
    refine ⟨_, (Prog.bind_some fed).trans ((Prog.bind_some copied).trans rfl),
      ⟨_, chunks, ⟨reading.connected, reading.untransformed, kept, ?_, reading.arrivals,
        reading.filled⟩, drop_front front long⟩, ready⟩
    rw [List.length_drop]
    omega
  · have missing : chunks ≠ [] := by
      rintro rfl
      have sizes := congrArg List.length front
      rw [List.flatten_nil, List.append_nil, List.length_append] at sizes
      omega
    obtain ⟨chunk, others, rfl⟩ := List.exists_cons_of_ne_nil missing
    obtain ⟨received, left, receives, client, arrivals, filled, whole, lighter⟩ :=
      receiveSome_chunk { world with client := { world.client with streamDecoder := decoder } }
        reading.connected reading.untransformed reading.arrivals reading.filled
    have holds : received.client.streamDecoder.Holds threshold buffer := by
      rw [client]
      exact kept
    have connected : 0 ≤ received.client.socketFd := by
      rw [client]
      exact reading.connected
    have untransformed : received.client.transforms = none := by
      rw [client]
      exact reading.untransformed
    have brought : (chunk.take chunkCapacity).length ≤ chunkCapacity := List.length_take_le _ _
    have ahead : buffer ++ chunk.take chunkCapacity ++ left.flatten = framed content ++ rest := by
      rw [List.append_assoc, whole, ← List.flatten_cons]
      exact front
    obtain ⟨decoder', decoded, fedAgain, outcome⟩ :=
      feedOne_front provides holds (.bytes (chunk.take chunkCapacity)) id
        (by simp only [Buffer.size]; omega) good ahead
    have found {decoded : StreamPacket} {last : World}
        (fedAgain : feedOne host (chunk.take chunkCapacity) received =
          (some (some decoded), last)) :
        readFrameTurn host world = (do return some (← copyDecodedFrame host decoded)) last :=
      (Prog.bind_some fed).trans ((Prog.bind_some receives).trans (Prog.bind_some fedAgain))
    have nothing {last : World}
        (fedAgain : feedOne host (chunk.take chunkCapacity) received = (some none, last)) :
        readFrameTurn host world = (some none, last) :=
      (Prog.bind_some fed).trans ((Prog.bind_some receives).trans (Prog.bind_some fedAgain))
    simp only [Buffer.content] at outcome
    have sizes : (buffer ++ chunk.take chunkCapacity).length =
      buffer.length + (chunk.take chunkCapacity).length := List.length_append
    obtain ⟨rfl, long, kept, ready⟩ | ⟨rfl, short, kept⟩ := outcome
    · left
      have copied := copyDecodedFrame_run provides
        { received with client := { received.client with streamDecoder := decoder' } } good
      refine ⟨_, (found fedAgain).trans ((Prog.bind_some copied).trans rfl),
        ⟨_, left, ⟨connected, untransformed, kept, ?_, arrivals, filled⟩, drop_front ahead long⟩,
        ready⟩
      rw [List.length_drop]
      omega
    · right
      refine ⟨_, nothing fedAgain, ⟨_, left, ⟨connected, untransformed, kept, ?_, arrivals, filled⟩,
        ahead⟩, lighter⟩
      omega

/-- The turns of `read_frame` come to the frame at the front, for any fuel that covers
what is on its way. -/
theorem readFrameLoop_run (provides : host.Provides)
    (good : FramedAs host.zlib mcStreamDecoderConfigInit threshold packet content)
    {rest : List UInt8} {fuel : Nat} (enough : arrivalWeight world.network.arrivals < fuel)
    (ahead : AtFrame threshold (framed content ++ rest) world) :
    ∃ after, readFrameLoop host fuel world = (some packet.plain, after) ∧
      AtFrame threshold rest after ∧ after.Between := by
  induction fuel generalizing world with
  | zero => exact absurd enough (Nat.not_lt_zero _)
  | succ fuel ih =>
      obtain ⟨buffer, chunks, reading, front⟩ := ahead
      obtain ⟨after, turn, behind, between⟩ | ⟨after, turn, ahead, lighter⟩ :=
        readFrameTurn_cases provides reading good front
      · exact ⟨after, Prog.bind_some turn, behind, between⟩
      · obtain ⟨last, run, done⟩ := ih (by omega) ahead
        exact ⟨last, (Prog.bind_some turn).trans run, done⟩

theorem readFrame_run (provides : host.Provides)
    (good : FramedAs host.zlib mcStreamDecoderConfigInit threshold packet content)
    {rest : List UInt8} (ahead : AtFrame threshold (framed content ++ rest) world) :
    ∃ after, readFrame host world = (some packet.plain, after) ∧
      AtFrame threshold rest after ∧ after.Between :=
  readFrameLoop_run provides good (Nat.lt_succ_self _) ahead

/-- Frames in a row are returned one by one. -/
theorem readFrames_run (provides : host.Provides) {packets : List StreamPacket}
    {contents : List (List UInt8)}
    (good : List.Forall₂ (FramedAs host.zlib mcStreamDecoderConfigInit threshold) packets contents)
    {rest : List UInt8}
    (ahead : AtFrame threshold ((contents.map framed).flatten ++ rest) world) :
    ∃ after, readFrames host packets.length world = (some (packets.map StreamPacket.plain), after) ∧
      AtFrame threshold rest after ∧ (packets ≠ [] ∨ world.Between → after.Between) := by
  induction good generalizing world with
  | nil => exact ⟨world, rfl, ahead, fun between => between.resolve_left (fun some => some rfl)⟩
  | @cons packet content packets contents first others ih =>
      rw [List.map_cons, List.flatten_cons, List.append_assoc] at ahead
      obtain ⟨middle, read, ahead, between⟩ := readFrame_run provides first ahead
      obtain ⟨after, readRest, behind, keeps⟩ := ih ahead
      exact ⟨after, (Prog.bind_some read).trans ((Prog.bind_some readRest).trans rfl), behind,
        fun _ => keeps (.inr between)⟩

/-- Between two frames the threshold may change, whatever is buffered. -/
theorem setCompression_run {announced : Int} (allowed : -1 ≤ announced) {rest : List UInt8}
    (between : world.Between) (ahead : AtFrame threshold rest world) :
    ∃ after, mcClientSetCompression announced world = (some (), after) ∧
      AtFrame announced rest after := by
  obtain ⟨buffer, chunks, reading, front⟩ := ahead
  obtain ⟨taken, clean, config, old, held, offset, object⟩ := reading.holds
  have connected := reading.connected
  have accepted : mcStreamDecoderSetCompression world.client.streamDecoder announced =
      (none, { world.client.streamDecoder with
        compressionThreshold := announced
        compressionTransitionReady := false }) := by
    have boundary : ¬ (world.client.streamDecoder.buffer.length ≠ 0 ∧
        world.client.streamDecoder.compressionTransitionReady = false) := by
      rintro ⟨some, unready⟩
      rw [between, decide_eq_false_iff_not] at unready
      exact unready some
    rw [mcStreamDecoderSetCompression, if_neg (by omega), if_neg (by rw [clean]; decide),
      if_neg boundary]
  have run : mcClientSetCompression announced world = (some (), { world with
      client := { world.client with
        streamDecoder := { world.client.streamDecoder with
          compressionThreshold := announced
          compressionTransitionReady := false }
        compressionThreshold := announced } }) := by
    rw [mcClientSetCompression, if_neg (by omega), if_neg (by omega), accepted]
  exact ⟨_, run, buffer, chunks, ⟨connected, reading.untransformed,
    ⟨taken, clean, config, rfl, held, offset, object⟩, reading.small, reading.arrivals,
    reading.filled⟩, front⟩

end Frames

/-- A connected client behind `mc_client_open`: no transform, and a decoder with the
default limits that was just reset. -/
structure World.Opened (world : World) : Prop where
  connected : 0 ≤ world.client.socketFd
  untransformed : world.client.transforms = none
  reset : ∃ used : McStreamDecoder, used.config = mcStreamDecoderConfigInit ∧
    used.outputCapacity ≤ ptrdiffMax ∧ world.client.streamDecoder = mcStreamDecoderReset used

theorem World.Opened.atFrame {world : World} (opened : world.Opened)
    {chunks : List (List UInt8)} (arrivals : world.network.arrivals = chunks.map .bytes)
    (filled : [] ∉ chunks) : AtFrame (-1) chunks.flatten world := by
  obtain ⟨used, config, object, reset⟩ := opened.reset
  refine ⟨[], chunks, ⟨opened.connected, opened.untransformed, ⟨0, ?_⟩, Nat.zero_le _, arrivals,
    filled⟩, rfl⟩
  rw [reset]
  exact ⟨rfl, config, rfl, rfl, rfl, object⟩

/-- Packets framed without compression, a packet that announces a threshold, and packets
framed under it: a client that sets the threshold behind the announcement reads them all,
in order, however they arrive. -/
theorem compression_switch (host : Host) (provides : host.Provides) (world : World)
    (opened : world.Opened) {announced : Int} (natural : 0 ≤ announced)
    {before behind : List StreamPacket} {announcement : StreamPacket}
    {contentsBefore contentsBehind : List (List UInt8)} {content : List UInt8}
    (first : List.Forall₂ (FramedAs host.zlib mcStreamDecoderConfigInit (-1)) before contentsBefore)
    (middle : FramedAs host.zlib mcStreamDecoderConfigInit (-1) announcement content)
    (second : List.Forall₂ (FramedAs host.zlib mcStreamDecoderConfigInit announced)
      behind contentsBehind)
    (trailing : List UInt8) {chunks : List (List UInt8)} (filled : [] ∉ chunks)
    (arrivals : world.network.arrivals = chunks.map .bytes)
    (stream : chunks.flatten = (contentsBefore.map framed).flatten ++ framed content ++
      (contentsBehind.map framed).flatten ++ trailing) :
    ∃ after, readAcrossSwitch host before.length announced behind.length world =
        (some ((before ++ announcement :: behind).map StreamPacket.plain), after) ∧
      after.client.streamDecoder.failed = false := by
  have ahead := opened.atFrame arrivals filled
  have firstAndMiddle := List.rel_append first (.cons middle .nil)
  have front : ((contentsBefore ++ [content]).map framed).flatten ++
      ((contentsBehind.map framed).flatten ++ trailing) = chunks.flatten := by
    rw [stream]
    simp
  rw [← front] at ahead
  obtain ⟨atSwitch, readFirst, ahead, keeps⟩ := readFrames_run provides firstAndMiddle ahead
  obtain ⟨switched, sets, ahead⟩ :=
    setCompression_run (by omega : -1 ≤ announced) (keeps (.inl (by simp))) ahead
  obtain ⟨after, readSecond, ⟨_, _, reading, _⟩, _⟩ := readFrames_run provides second ahead
  rw [List.length_append, List.length_singleton] at readFirst
  have order : (before ++ [announcement]).map StreamPacket.plain ++ behind.map StreamPacket.plain =
      (before ++ announcement :: behind).map StreamPacket.plain := by simp
  refine ⟨after, ?_, reading.holds.choose_spec.1⟩
  rw [← order, readAcrossSwitch]
  exact (Prog.bind_some readFirst).trans ((Prog.bind_some sets).trans
    ((Prog.bind_some readSecond).trans rfl))

theorem provides_ample (zlib : Zlib) : (Host.ample zlib).Provides :=
  ⟨Heap.ample_grants (by decide), Heap.ample_grants (by decide)⟩

/-- A switch whose announcement arrives together with the start of a compressed frame. -/
theorem compression_switch_midChunk :
    let zlib := Zlib.knowing [7, 42] [120, 156, 99, 215, 2, 0, 0, 58, 0, 50]
    let client := (mcClientCreate 772 true true).toOption.get (by decide)
    let quiet := World.around
      { client with socketFd := 3, streamDecoder := mcStreamDecoderReset client.streamDecoder }
    let world := { quiet with network := { quiet.network with arrivals :=
      [[2, 5], [1, 2, 3, 2, 11, 2, 120, 156], [99, 215, 2, 0, 0, 58, 0, 50]].map .bytes } }
    ∃ after, readAcrossSwitch (.ample zlib) 1 2 1 world =
        (some ([⟨5, [1], false⟩, ⟨3, [2], false⟩, ⟨7, [42], true⟩].map StreamPacket.plain), after) ∧
      after.client.streamDecoder.failed = false := by
  intro zlib client quiet world
  have bare (packet : StreamPacket) (id : IsInt32 packet.packetId) (natural : 0 ≤ packet.packetId)
      (flag : packet.compressed = decide ((0 : Int) ≤ -1 ∧ -1 ≤ (packet.plain.length : Int)))
      (fits : packet.plain.length ≤ mcDefaultMaxFrameSize) :
      FramedAs zlib mcStreamDecoderConfigInit (-1) packet packet.plain :=
    ⟨id, natural, .bare (by decide), flag, fits, fits⟩
  have inflates : zlib.Deflates (encodeVarint 7 ++ [42]) [120, 156, 99, 215, 2, 0, 0, 58, 0, 50] :=
    (Zlib.knowing_roundTrips _ _).inverse _ 100 _ (by decide +kernel)
  have length : (encodeVarint 7 ++ [42]).length = 2 := by decide +kernel
  have deflated : FramedAs zlib mcStreamDecoderConfigInit 2 ⟨7, [42], true⟩
      (encodeVarint (encodeVarint 7 ++ [42]).length ++
        [120, 156, 99, 215, 2, 0, 0, 58, 0, 50]) :=
    ⟨by decide, by decide, .deflated (by decide) (by rw [StreamPacket.plain, length]; decide)
      inflates, by decide +kernel, by decide +kernel, by decide +kernel⟩
  exact compression_switch (.ample zlib) (provides_ample zlib) world
    ⟨by decide, rfl, _, rfl, by decide, rfl⟩ (by decide)
    (.cons (bare ⟨5, [1], false⟩ (by decide) (by decide) (by decide +kernel) (by decide +kernel))
      .nil)
    (bare ⟨3, [2], false⟩ (by decide) (by decide) (by decide +kernel) (by decide +kernel))
    (.cons deflated .nil) [] (by decide) rfl (by decide +kernel)

end McProtocol
