import McProtocol.FrameFormat

/-! # Feeds within the limits

What a feed needs of a decoder's two size limits depends on the frames that it hands over. As
long as every feed stays within them and memory is granted, all frames of a stream come back.
-/

namespace McProtocol

open Incremental

/-- What a frame takes of the input buffer, and its packet of the output. -/
structure FrameSize where
  wire : Nat
  plain : Nat
  deriving Repr, DecidableEq

/-- The frames a feed hands over: of those that `held` bytes hold whole, at most `quota`. -/
def handedOver : Nat → Nat → List FrameSize → List FrameSize
  | 0, _, _ => []
  | _ + 1, _, [] => []
  | quota + 1, held, size :: sizes =>
      if size.wire ≤ held then size :: handedOver quota (held - size.wire) sizes else []

/-- Feeds behind `held` bytes of these frames: what is buffered and what one feed hands over is
within the limits, and the last frame is handed over. -/
def FeedsFit (config : McStreamDecoderConfig) : List FrameSize → Nat → List FeedCall → Prop
  | sizes, _, [] => sizes = []
  | sizes, held, call :: calls =>
      let arrived := held + call.data.size
      let done := handedOver call.frameCapacity arrived sizes
      arrived ≤ config.maxBufferedSize ∧
        (done.map FrameSize.plain).sum ≤ config.maxOutputSize ∧
        FeedsFit config (sizes.drop done.length) (arrived - (done.map FrameSize.wire).sum) calls

def FeedsFit.decide (config : McStreamDecoderConfig) :
    (sizes : List FrameSize) → (held : Nat) → (calls : List FeedCall) →
      Decidable (FeedsFit config sizes held calls)
  | sizes, _, [] => inferInstanceAs (Decidable (sizes = []))
  | _, _, _ :: calls => @instDecidableAnd _ _ _ (@instDecidableAnd _ _ _
      (FeedsFit.decide config _ _ calls))

instance (config : McStreamDecoderConfig) (sizes : List FrameSize) (held : Nat)
    (calls : List FeedCall) : Decidable (FeedsFit config sizes held calls) :=
  FeedsFit.decide config sizes held calls

/-- A packet with the content of its frame. -/
structure FramedPacket where
  packet : StreamPacket
  content : List UInt8

namespace FramedPacket

def size (frame : FramedPacket) : FrameSize where
  wire := (framed frame.content).length
  plain := frame.packet.plain.length

/-- The bytes of frames in a row. -/
def stream (frames : List FramedPacket) : List UInt8 :=
  (frames.map fun frame => framed frame.content).flatten

theorem stream_cons (frame : FramedPacket) (frames : List FramedPacket) :
    stream (frame :: frames) = framed frame.content ++ stream frames := by
  simp [stream]

end FramedPacket

section Scanning

variable {zlib : Zlib} {config : McStreamDecoderConfig} {threshold : Int} {frame : FramedPacket}
  {frames : List FramedPacket}

/-- Of a frame that is held in part, nothing is decided. -/
theorem frameVerdict_short (accepted : ¬ config.Refused)
    (good : FramedAs zlib config threshold frame.packet frame.content) (rest : List UInt8)
    {held : Nat} (short : held < frame.size.wire) :
    frameVerdict zlib config threshold ((framed frame.content ++ rest).take held) = .needMore := by
  have whole : (frameScanner zlib config threshold).step (framed frame.content ++ rest) =
      .emit frame.packet frame.size.wire := frameVerdict_framed accepted good rest
  rw [← List.take_append_drop held (framed frame.content ++ rest)] at whole
  cases verdict : (frameScanner zlib config threshold).step
      ((framed frame.content ++ rest).take held) with
  | needMore => exact verdict
  | reject error =>
      rw [Scanner.reject_stable _ _ verdict] at whole
      cases whole
  | emit packet taken =>
      have inside := (Scanner.emit_size _ verdict).2
      rw [Scanner.emit_stable _ _ verdict] at whole
      cases whole
      rw [List.length_take] at inside
      omega

theorem take_append_framed {held : Nat} (whole : frame.size.wire ≤ held) (rest : List UInt8) :
    (framed frame.content ++ rest).take held =
      framed frame.content ++ rest.take (held - frame.size.wire) := by
  rw [List.take_append, List.take_of_length_le whole]
  rfl

/-- A pass over the bytes held takes the frames that are handed over. -/
theorem take_framed (accepted : ¬ config.Refused)
    (good : ∀ frame ∈ frames, FramedAs zlib config threshold frame.packet frame.content)
    (quota held : Nat) :
    (frameScanner zlib config threshold).take quota ((FramedPacket.stream frames).take held) =
      ⟨(frames.take (handedOver quota held (frames.map FramedPacket.size)).length).map
          FramedPacket.packet,
        ((handedOver quota held (frames.map FramedPacket.size)).map FrameSize.wire).sum, none⟩ := by
  induction frames generalizing quota held with
  | nil =>
      have nothing : (FramedPacket.stream []).take held = [] := List.take_nil
      rw [nothing, Scanner.take_nil]
      cases quota <;> rfl
  | cons frame frames ih =>
      obtain ⟨first, others⟩ := List.forall_mem_cons.mp good
      cases quota with
      | zero => rfl
      | succ quota =>
          rw [FramedPacket.stream_cons, List.map_cons, handedOver]
          by_cases whole : frame.size.wire ≤ held
          · have emits : (frameScanner zlib config threshold).step _ = _ :=
              frameVerdict_framed accepted first
                ((FramedPacket.stream frames).take (held - frame.size.wire))
            rw [if_pos whole, take_append_framed whole, Scanner.take_emit emits, List.drop_left,
              ih others, Outcome.andThen_clean rfl]
            simp [FramedPacket.size]
          · have waits := frameVerdict_short accepted first (FramedPacket.stream frames)
              (not_le.mp whole)
            rw [if_neg whole, Scanner.take_needMore waits]
            rfl

/-- What is behind the frames that are handed over. -/
theorem drop_stream (frames : List FramedPacket) (quota held : Nat) :
    (FramedPacket.stream frames).drop
        ((handedOver quota held (frames.map FramedPacket.size)).map FrameSize.wire).sum =
      FramedPacket.stream (frames.drop (handedOver quota held (frames.map FramedPacket.size)).length) := by
  induction frames generalizing quota held with
  | nil => cases quota <;> rfl
  | cons frame frames ih =>
      cases quota with
      | zero => rfl
      | succ quota =>
          rw [FramedPacket.stream_cons, List.map_cons, handedOver]
          by_cases whole : frame.size.wire ≤ held
          · rw [if_pos whole, List.map_cons, List.sum_cons, List.length_cons, List.drop_succ_cons,
              ← ih quota, ← List.drop_drop]
            congr 1
            exact List.drop_left
          · rw [if_neg whole, ← FramedPacket.stream_cons]
            rfl

theorem handedOver_wire_le (quota held : Nat) (sizes : List FrameSize) :
    ((handedOver quota held sizes).map FrameSize.wire).sum ≤ held := by
  induction sizes generalizing quota held with
  | nil => cases quota <;> exact Nat.zero_le _
  | cons size sizes ih =>
      cases quota with
      | zero => exact Nat.zero_le _
      | succ quota =>
          rw [handedOver]
          by_cases whole : size.wire ≤ held
          · rw [if_pos whole, List.map_cons, List.sum_cons]
            have rest := ih quota (held - size.wire)
            omega
          · rw [if_neg whole]
            exact Nat.zero_le _

end Scanning

theorem size_of_valid {call : FeedCall} (valid : ¬ call.Invalid) :
    call.data.size = call.data.content.length := by
  have given : ¬ call.data.Missing := fun missing => valid (.inr (.inl missing))
  cases data : call.data with
  | bytes content => rfl
  | null size =>
      rw [data] at given
      exact not_not.mp given

namespace Feeding

variable {zlib : Zlib} {heap : Heap} {feeding : Feeding} {frame : FramedPacket}

theorem emitRoom_fits (sound : feeding.Sound) (accepted : ¬ feeding.decoder.config.Refused)
    (memory : ¬ heap.Refuses feeding.decoder.config.maxOutputSize) {size : Nat}
    (small : size ≤
      max feeding.decoder.config.maxFrameSize feeding.decoder.config.maxDecompressedSize)
    (fits : feeding.decoder.output.length + size ≤ feeding.decoder.config.maxOutputSize)
    (offset : Nat) :
    ∃ after, streamEmitRoom heap size offset feeding = (some (), after) ∧ Keeps feeding after ∧
      after.decoder.output = feeding.decoder.output ∧
      after.decoder.output.length + size ≤ after.decoder.outputCapacity := by
  have addressable : ¬ sizeMax - feeding.decoder.output.length < size := by
    have object := sound.object
    have inside := sound.capacity
    have limits := McStreamDecoderConfig.limits accepted
    simp only [sizeMax, ptrdiffMax, uintMax] at *
    omega
  obtain ⟨after, run, keeps, output, room⟩ | ⟨cause, -⟩ :=
    reserveOutput_cases heap sound (Nat.le_add_right feeding.decoder.output.length size)
  · refine ⟨after, ?_, keeps, output, output ▸ room⟩
    simp only [streamEmitRoom, if_neg addressable, if_neg (not_lt.mpr fits), run]
  · exact absurd cause (not_or.mpr ⟨not_lt.mpr fits, memory⟩)

/-- A step that lays one packet of this size into the arena. -/
structure Lays (step : FeedM Unit) (before : Feeding) (size : Nat) (after : Feeding) : Prop where
  run : step before = (some (), after)
  sound : after.Sound
  same : before.decoder.SameStream after.decoder
  grown : after.decoder.output.length = before.decoder.output.length + size

theorem finishPacket_plain (sound : feeding.Sound) {packet : StreamPacket}
    (id : IsInt32 packet.packetId) (natural : 0 ≤ packet.packetId) (compressed : Bool)
    (offset : Nat)
    (room : feeding.decoder.output.length + packet.plain.length ≤ feeding.decoder.outputCapacity) :
    ∃ after, Lays (streamFinishPacket packet.plain compressed offset) feeding packet.plain.length
      after := by
  have realised : Realises (streamFinishPacket packet.plain compressed offset) feeding offset _ :=
    realises_finishPacket sound compressed room
  rw [packetMeaning_plain id natural] at realised
  obtain ⟨after, run, sound', same, -⟩ := realised
  refine ⟨after, run, sound', same, ?_⟩
  have some := packet.plain_pos
  have header : streamVarint packet.plain feeding.decoder.config.mode =
      .complete packet.packetId _ := streamVarint_run id _ packet.payload
  have direct := run
  simp only [streamFinishPacket, if_neg (by omega : ¬ packet.plain.length = 0), header,
    if_neg (by omega : ¬ packet.packetId < 0)] at direct
  cases direct
  exact List.length_append

/-- Room is made and a packet is laid there. -/
theorem Lays.behindRoom {size offset : Nat} {next : Unit → FeedM Unit} {room : Feeding}
    {after : Feeding} (run : streamEmitRoom heap size offset feeding = (some (), room))
    (keeps : Keeps feeding room) (output : room.decoder.output = feeding.decoder.output)
    (lays : Lays (next ()) room size after) :
    Lays (streamEmitRoom heap size offset >>= next) feeding size after where
  run := (Prog.bind_some run).trans lays.run
  sound := lays.sound
  same := keeps.same.trans lays.same
  grown := by rw [lays.grown, output]

theorem emitUncompressed_plain (sound : feeding.Sound)
    (accepted : ¬ feeding.decoder.config.Refused)
    (memory : ¬ heap.Refuses feeding.decoder.config.maxOutputSize) {packet : StreamPacket}
    (id : IsInt32 packet.packetId) (natural : 0 ≤ packet.packetId)
    (small : packet.plain.length ≤ feeding.decoder.config.maxDecompressedSize)
    (fits : feeding.decoder.output.length + packet.plain.length ≤
      feeding.decoder.config.maxOutputSize) (offset : Nat) :
    ∃ after, Lays (streamEmitUncompressed heap packet.plain false offset) feeding
      packet.plain.length after := by
  obtain ⟨room, run, keeps, output, enough⟩ := emitRoom_fits sound accepted memory
    (small.trans (Nat.le_max_right _ _)) fits offset
  obtain ⟨after, lays⟩ := finishPacket_plain keeps.sound id natural false offset enough
  exact ⟨after, lays.behindRoom run keeps output⟩

/-- The packet of a frame is laid into the arena when there is room for it. -/
theorem decodeFrame_framed (sound : feeding.Sound)
    (accepted : ¬ feeding.decoder.config.Refused)
    (memory : ¬ heap.Refuses feeding.decoder.config.maxOutputSize)
    (good : FramedAs zlib feeding.decoder.config feeding.decoder.compressionThreshold frame.packet
      frame.content)
    (fits : feeding.decoder.output.length + frame.size.plain ≤
      feeding.decoder.config.maxOutputSize) (offset : Nat) :
    ∃ after, Lays (streamDecodeFrame zlib heap frame.content offset) feeding frame.size.plain
      after := by
  obtain ⟨packet, content⟩ := frame
  have stored (offset : Nat) := emitUncompressed_plain sound accepted memory good.id good.natural
    good.plain_le fits offset
  have shape : ContentOf zlib feeding.decoder.compressionThreshold packet.plain content :=
    good.shape
  cases shape with
  | bare off =>
      have run : streamDecodeFrame zlib heap packet.plain offset feeding = _ := if_pos off
      obtain ⟨after, lays⟩ := stored offset
      exact ⟨after, run.trans lays.run, lays.sound, lays.same, lays.grown⟩
  | stored on small =>
      have header : streamVarint (0 :: packet.plain) feeding.decoder.config.mode =
          .complete 0 1 := by
        have run := streamVarint_run (v := 0) ⟨by decide, by decide⟩ feeding.decoder.config.mode
          packet.plain
        rwa [encodeVarint_zero] at run
      have short : ¬ (feeding.decoder.config.mode = .strict ∧
          feeding.decoder.compressionThreshold ≤ packet.plain.length) := by
        rintro ⟨-, reached⟩
        exact absurd small (not_lt.mpr reached)
      obtain ⟨after, lays⟩ := stored (saturatingAdd offset 1)
      refine ⟨after, ?_, lays.sound, lays.same, lays.grown⟩
      simp only [streamDecodeFrame, if_neg (not_lt.mpr on), header, List.drop_succ_cons,
        List.drop_zero, lt_irrefl, if_false, if_true, if_neg short]
      exact lays.run
  | @deflated compressed on reached deflates =>
      obtain ⟨step, inflated, ends, output, rest⟩ := deflates
      have limits := accepted
      simp only [McStreamDecoderConfig.Refused, not_or] at limits
      have some := packet.plain_pos
      have plain := good.plain_le
      have frameSize := good.frame_le
      dsimp only at plain frameSize
      rw [List.length_append] at frameSize
      have header := streamVarint_run (isInt32_length (by omega : packet.plain.length ≤ int32Max))
        feeding.decoder.config.mode compressed
      have size : ((packet.plain.length : Int)).toNat = packet.plain.length := Int.toNat_natCast _
      have strict : ¬ (feeding.decoder.config.mode = .strict ∧
          (packet.plain.length : Int) < feeding.decoder.compressionThreshold) := by
        rintro ⟨-, below⟩
        exact absurd reached (not_le.mpr below)
      have inside : ¬ (uintMax < compressed.length ∨ uintMax < packet.plain.length) := by
        have bounds := McStreamDecoderConfig.limits accepted
        omega
      obtain ⟨room, made, keeps, kept, enough⟩ := emitRoom_fits sound accepted memory
        (plain.trans (Nat.le_max_right _ _)) fits
        (saturatingAdd offset (encodeVarint packet.plain.length).length)
      obtain ⟨after, lays⟩ := finishPacket_plain keeps.sound good.id good.natural true
        (saturatingAdd offset (encodeVarint packet.plain.length).length) enough
      have inflates : Lays (streamEmitCompressed zlib heap compressed packet.plain.length
          (saturatingAdd offset (encodeVarint packet.plain.length).length)) feeding
            packet.plain.length after := by
        rw [streamEmitCompressed, if_neg inside]
        refine Lays.behindRoom made keeps kept ⟨?_, lays.sound, lays.same, lays.grown⟩
        have fine : ¬ (step.status ≠ .streamEnd ∨ packet.plain.length ≠ packet.plain.length ∨
            room.decoder.config.mode = .strict ∧ step.rest.length ≠ 0) := by
          simp [ends, rest]
        simp only [inflated, output]
        rw [if_neg fine]
        exact lays.run
      refine ⟨after, ?_, inflates.sound, inflates.same, inflates.grown⟩
      simp only [streamDecodeFrame, if_neg (not_lt.mpr on), header, size, List.drop_left,
        if_neg (by omega : ¬ (packet.plain.length : Int) < 0),
        if_neg (by omega : ¬ (packet.plain.length : Int) = 0),
        if_neg (not_lt.mpr plain), if_neg strict]
      exact inflates.run

/-- The loop behind a frame whose packet was laid into the arena. -/
theorem feedLoop_passes (accepted : ¬ feeding.decoder.config.Refused)
    (good : FramedAs zlib feeding.decoder.config feeding.decoder.compressionThreshold frame.packet
      frame.content) {quota consumed : Nat} {rest : List UInt8} {after : Feeding}
    (buffered : feeding.decoder.buffer.drop consumed = framed frame.content ++ rest)
    (decoded : streamDecodeFrame zlib heap frame.content (saturatingAdd
      feeding.decoder.streamOffset (consumed + (encodeVarint frame.content.length).length))
        feeding = (some (), after)) :
    feedLoop zlib heap (quota + 1) consumed feeding =
      feedLoop zlib heap quota (consumed + frame.size.wire) after := by
  have limits := accepted
  simp only [McStreamDecoderConfig.Refused, not_or] at limits
  have bound := good.frame_le
  have present := good.content_pos
  have length : feeding.decoder.buffer.length - consumed =
      (framed frame.content ++ rest).length := by
    rw [← buffered, List.length_drop]
  have header : streamVarint (feeding.decoder.buffer.drop consumed) feeding.decoder.config.mode =
      .complete frame.content.length (encodeVarint frame.content.length).length := by
    rw [buffered, framed, List.append_assoc]
    exact streamVarint_run (isInt32_length (by omega)) _ _
  have inner : (feeding.decoder.buffer.drop
      (consumed + (encodeVarint frame.content.length).length)).take frame.content.length =
        frame.content := by
    rw [← List.drop_drop, buffered, framed, List.append_assoc, List.drop_left, List.take_left]
  have size : frame.size.wire =
      (encodeVarint frame.content.length).length + frame.content.length := List.length_append
  rw [framed, List.length_append, List.length_append] at length
  have natural : ((frame.content.length : Int)).toNat = frame.content.length := Int.toNat_natCast _
  have left : ¬ feeding.decoder.buffer.length ≤ consumed := by omega
  have positive : ¬ (frame.content.length : Int) ≤ 0 := by omega
  have whole : ¬ feeding.decoder.buffer.length - consumed -
      (encodeVarint frame.content.length).length < frame.content.length := by omega
  simp only [feedLoop, if_neg left, header, if_neg positive, natural, if_neg (not_lt.mpr bound),
    if_neg whole, inner, McStreamDecoder.absoluteOffset, decoded]
  rw [size, ← Nat.add_assoc]

/-- The loop waits where the scanner does. -/
theorem feedLoop_needMore {quota consumed : Nat}
    (waits : frameVerdict zlib feeding.decoder.config feeding.decoder.compressionThreshold
      (feeding.decoder.buffer.drop consumed) = .needMore) :
    feedLoop zlib heap (quota + 1) consumed feeding = streamStop consumed feeding := by
  by_cases drained : feeding.decoder.buffer.length ≤ consumed
  · exact if_pos drained
  · rw [frameVerdict] at waits
    cases header : streamVarint (feeding.decoder.buffer.drop consumed)
        feeding.decoder.config.mode with
    | partialInput => simp only [feedLoop, if_neg drained, header]
    | invalid code offset => simp [header] at waits
    | complete encodedSize headerSize =>
        rw [header] at waits
        dsimp only at waits
        split_ifs at waits with negative large short
        · rw [List.length_drop] at short
          simp only [feedLoop, if_neg drained, header, if_neg negative, if_neg large, if_pos short]
        · split at waits <;> cases waits

/-- The loop over frames in a row does not fail when what it hands over fits into the arena. -/
theorem feedLoop_framed (sound : feeding.Sound) (accepted : ¬ feeding.decoder.config.Refused)
    (memory : ¬ heap.Refuses feeding.decoder.config.maxOutputSize) {frames : List FramedPacket}
    (good : ∀ frame ∈ frames, FramedAs zlib feeding.decoder.config
      feeding.decoder.compressionThreshold frame.packet frame.content)
    {quota consumed held : Nat}
    (buffered : feeding.decoder.buffer.drop consumed = (FramedPacket.stream frames).take held)
    (fits : feeding.decoder.output.length +
      ((handedOver quota held (frames.map FramedPacket.size)).map FrameSize.plain).sum ≤
        feeding.decoder.config.maxOutputSize) :
    ∃ after, feedLoop zlib heap quota consumed feeding = (some (), after) := by
  induction frames generalizing quota consumed held feeding with
  | nil =>
      cases quota with
      | zero => exact ⟨_, rfl⟩
      | succ quota =>
          have nothing : feeding.decoder.buffer.drop consumed = [] :=
            buffered.trans List.take_nil
          exact ⟨_, if_pos (List.drop_eq_nil_iff.mp nothing)⟩
  | cons frame frames ih =>
      obtain ⟨first, others⟩ := List.forall_mem_cons.mp good
      cases quota with
      | zero => exact ⟨_, rfl⟩
      | succ quota =>
          rw [FramedPacket.stream_cons] at buffered
          rw [List.map_cons, handedOver] at fits
          by_cases whole : frame.size.wire ≤ held
          · rw [if_pos whole, List.map_cons, List.sum_cons, ← Nat.add_assoc] at fits
            rw [take_append_framed whole] at buffered
            obtain ⟨after, lays⟩ := decodeFrame_framed sound accepted memory first
              ((Nat.le_add_right _ _).trans fits)
              (saturatingAdd feeding.decoder.streamOffset
                (consumed + (encodeVarint frame.content.length).length))
            have behind : after.decoder.buffer.drop (consumed + frame.size.wire) =
                (FramedPacket.stream frames).take (held - frame.size.wire) := by
              rw [lays.same.buffer, ← List.drop_drop, buffered]
              exact List.drop_left
            have goes : feedLoop zlib heap (quota + 1) consumed feeding =
                feedLoop zlib heap quota (consumed + frame.size.wire) after := by
              exact feedLoop_passes accepted first buffered lays.run
            rw [goes]
            refine ih lays.sound ?_ ?_ ?_ behind ?_
            · rw [lays.same.config]
              exact accepted
            · rw [lays.same.config]
              exact memory
            · rw [lays.same.config, lays.same.threshold]
              exact others
            · rw [lays.same.config, lays.grown]
              exact fits
          · have waits := frameVerdict_short accepted first (FramedPacket.stream frames)
              (not_le.mp whole)
            rw [← buffered] at waits
            exact ⟨_, feedLoop_needMore waits⟩

end Feeding

section Calls

variable {zlib : Zlib} {heap : Heap} {config : McStreamDecoderConfig} {threshold : Int}
  {decoder : McStreamDecoder} {session : Session UInt8 StreamError}

/-- A feed within the limits does what the session does. -/
theorem feed_fits {call : FeedCall} {frames : List FramedPacket} (accepted : ¬ config.Refused)
    (valid : ¬ call.Invalid)
    (memory : ¬ heap.Refuses (max config.maxBufferedSize config.maxOutputSize))
    (good : ∀ frame ∈ frames, FramedAs zlib config threshold frame.packet frame.content)
    (state : session.error = none) (follows : decoder.Follows config threshold session)
    {held : Nat}
    (arrived : session.rest ++ call.data.content = (FramedPacket.stream frames).take held)
    (input : session.rest.length + call.data.size ≤ config.maxBufferedSize)
    (output : ((handedOver call.frameCapacity held (frames.map FramedPacket.size)).map
      FrameSize.plain).sum ≤ config.maxOutputSize) :
    (feedPackets zlib heap decoder call).1 =
        (session.feed (frameScanner zlib config threshold) call.data.content
          call.frameCapacity).1 ∧
      (feedPackets zlib heap decoder call).2.Follows config threshold
        (session.feed (frameScanner zlib config threshold) call.data.content
          call.frameCapacity).2 := by
  rw [McStreamDecoder.Follows, state] at follows
  obtain ⟨clean, rfl, rfl, buffer, offset, object⟩ := follows
  have granted {maximum : Nat}
      (inside : maximum ≤ max decoder.config.maxBufferedSize decoder.config.maxOutputSize) :
      ¬ heap.Refuses maximum := by
    rintro ⟨serial, size, small, refused⟩
    exact memory ⟨serial, size, small.trans inside, refused⟩
  rw [← buffer] at arrived input
  obtain ⟨-, overfed⟩ | ⟨capacity, serial, run⟩ :=
    (feed_run valid clean : (mcStreamDecoderFeed zlib heap decoder call).2.ResourceFailed ∧ _ ∨ _)
  · obtain full | refused := overfed
    · exact absurd input (not_le.mpr full)
    · exact absurd refused (granted (Nat.le_max_left _ _))
  · have sound := sound_buffering clean (offset ▸ saturatingAdd_le (Nat.zero_le _) _) object
      call.data.content capacity serial
    have buffered : (decoder.buffering call.data.content capacity serial).decoder.buffer.drop 0 =
        (FramedPacket.stream frames).take held := arrived
    have room : 0 + ((handedOver call.frameCapacity held (frames.map FramedPacket.size)).map
        FrameSize.plain).sum ≤ decoder.config.maxOutputSize := by
      rw [Nat.zero_add]
      exact output
    obtain ⟨last, looped⟩ := Feeding.feedLoop_framed sound accepted
      (granted (Nat.le_max_right _ _)) good buffered room
    obtain ⟨⟨after, failing, -⟩, -⟩ | finished :=
      Feeding.feedLoop_cases zlib heap sound accepted call.frameCapacity 0
    · rw [looped] at failing
      cases failing
    · exact feed_follows state buffer offset run finished

/-- Feeds within the limits hand over all packets, and leave nothing behind. -/
theorem feedAll_fits (accepted : ¬ config.Refused)
    (memory : ¬ heap.Refuses (max config.maxBufferedSize config.maxOutputSize))
    {calls : List FeedCall} (valid : ∀ call ∈ calls, ¬ call.Invalid) {frames : List FramedPacket}
    (good : ∀ frame ∈ frames, FramedAs zlib config threshold frame.packet frame.content)
    (state : session.error = none) (follows : decoder.Follows config threshold session)
    (whole : session.rest ++ (calls.map fun call => call.data.content).flatten =
      FramedPacket.stream frames)
    (fits : FeedsFit config (frames.map FramedPacket.size) session.rest.length calls) :
    (feedAll zlib heap calls decoder).1 = frames.map FramedPacket.packet ∧
      ∃ last : Session UInt8 StreamError,
        (feedAll zlib heap calls decoder).2.Follows config threshold last ∧
          last.error = none ∧ last.rest = [] := by
  induction calls generalizing decoder session frames with
  | nil =>
      have none : frames = [] := List.map_eq_nil_iff.mp fits
      rw [none] at whole ⊢
      exact ⟨rfl, session, follows, state, (List.append_eq_nil_iff.mp whole).1⟩
  | cons call calls ih =>
      obtain ⟨valid, others⟩ := List.forall_mem_cons.mp valid
      obtain ⟨input, output, fits⟩ := fits
      rw [List.map_cons, List.flatten_cons, ← List.append_assoc] at whole
      have size := size_of_valid valid
      have arrived : session.rest ++ call.data.content =
          (FramedPacket.stream frames).take (session.rest.length + call.data.size) := by
        rw [← whole, List.take_left' (by rw [List.length_append, size])]
      obtain ⟨packets, follows⟩ :=
        feed_fits accepted valid memory good state follows arrived input output
      have scanned := take_framed accepted good call.frameCapacity
        (session.rest.length + call.data.size)
      rw [← arrived] at scanned
      simp only [Session.feed, state, scanned] at packets follows
      have inside : ((handedOver call.frameCapacity (session.rest.length + call.data.size)
          (frames.map FramedPacket.size)).map FrameSize.wire).sum ≤
            (session.rest ++ call.data.content).length := by
        rw [List.length_append, ← size]
        exact handedOver_wire_le _ _ _
      have behind := drop_stream frames call.frameCapacity
        (session.rest.length + call.data.size)
      rw [← whole, List.drop_append_of_le_length inside] at behind
      have further := ih others (fun frame mem => good frame (List.mem_of_mem_drop mem)) rfl follows
        behind ?_
      · obtain ⟨more, last⟩ := further
        refine ⟨?_, last⟩
        change (feedPackets zlib heap decoder call).1 ++
          (feedAll zlib heap calls (feedPackets zlib heap decoder call).2).1 = _
        rw [packets, more, ← List.map_append, List.take_append_drop]
      · rw [List.map_drop, List.length_drop, List.length_append, ← size]
        exact fits

end Calls

end McProtocol
