import McProtocol.StreamSessions

/-! # The two modes of the stream decoder

Strict mode makes checks that compat mode leaves out, and does nothing else: as long as a
strict decoder accepts its input, a compat decoder goes through the same states.
-/

namespace McProtocol

theorem streamGroups_relaxed {mode : McDecodeMode} {left result : Nat} {data : List UInt8}
    (accepted : ∀ code offset, streamGroups mode left result data ≠ .invalid code offset) :
    streamGroups .vanillaCompat left result data = streamGroups mode left result data := by
  induction left generalizing result data with
  | zero => rfl
  | succ left ih =>
      cases data with
      | nil => rfl
      | cons byte data =>
          simp only [streamGroups, reduceCtorEq, false_and, if_false] at accepted ⊢
          split_ifs at accepted ⊢ with overflow stops padded
          · rfl
          · exact absurd rfl (accepted _ _)
          · rfl
          · exact ih accepted

theorem streamVarint_relaxed {mode : McDecodeMode} {data : List UInt8} {status : McVarIntStatus}
    (read : streamVarint data mode = status)
    (accepted : ∀ code offset, status ≠ .invalid code offset) :
    streamVarint data .vanillaCompat = status := by
  subst read
  exact streamGroups_relaxed accepted

def McStreamDecoderConfig.relaxed (config : McStreamDecoderConfig) : McStreamDecoderConfig :=
  { config with mode := .vanillaCompat }

def McStreamDecoder.relaxed (decoder : McStreamDecoder) : McStreamDecoder :=
  { decoder with config := decoder.config.relaxed }

def Feeding.relaxed (feeding : Feeding) : Feeding :=
  { feeding with decoder := feeding.decoder.relaxed }

namespace Feeding

/-- Where the step succeeds, it does the same in compat mode. -/
def Refines (step : FeedM Unit) (feeding : Feeding) : Prop :=
  ∀ after, step feeding = (some (), after) → step feeding.relaxed = (some (), after.relaxed)

variable {feeding : Feeding}

theorem Refines.bind {step : FeedM Unit} {rest : Unit → FeedM Unit}
    (refines : Refines step feeding) (behind : ∀ after, Refines (rest ()) after) :
    Refines (step >>= rest) feeding := by
  intro after run
  obtain ⟨u, between, first, second⟩ := Prog.bind_eq_some run
  rw [Prog.bind_some (refines between first)]
  exact behind between after second

theorem reserveOutput_relaxed (heap : Heap) (needed : Nat) :
    Refines (streamReserveOutput heap needed) feeding := by
  intro after run
  unfold streamReserveOutput at run
  dsimp only at run
  split_ifs at run with limited enough granted
  · cases run
  · cases run
    exact (if_neg limited).trans (if_pos enough)
  · cases run
    exact (if_neg limited).trans ((if_neg enough).trans (if_pos granted))
  · cases run

theorem emitRoom_relaxed (heap : Heap) (packetSize packetOffset : Nat) :
    Refines (streamEmitRoom heap packetSize packetOffset) feeding := by
  intro after run
  unfold streamEmitRoom at run
  dsimp only at run
  split_ifs at run with wraps limited
  · cases run
  · cases run
  · rcases reserved : streamReserveOutput heap (feeding.decoder.output.length + packetSize) feeding
      with ⟨_ | u, held⟩
    · rw [reserved] at run
      cases run
    · rw [reserved] at run
      cases run
      have same : streamReserveOutput heap (feeding.relaxed.decoder.output.length + packetSize)
          feeding.relaxed = (some (), after.relaxed) := reserveOutput_relaxed heap _ after reserved
      refine (if_neg wraps).trans ((if_neg limited).trans ?_)
      rw [same]

theorem finishPacket_relaxed (packet : List UInt8) (compressed : Bool) (packetOffset : Nat) :
    Refines (streamFinishPacket packet compressed packetOffset) feeding := by
  intro after run
  unfold streamFinishPacket at run
  dsimp only at run
  split_ifs at run with empty
  · cases run
  · cases read : streamVarint packet feeding.decoder.config.mode with
    | partialInput => rw [read] at run; cases run
    | invalid code offset => rw [read] at run; cases run
    | complete packetId idSize =>
        rw [read] at run
        dsimp only at run
        split_ifs at run with negative
        · cases run
        · have same : streamVarint packet .vanillaCompat = .complete packetId idSize :=
            streamVarint_relaxed read nofun
          cases run
          refine (if_neg empty).trans ?_
          rw [show feeding.relaxed.decoder.config.mode = .vanillaCompat from rfl, same]
          exact if_neg negative

theorem emitUncompressed_relaxed (heap : Heap) (packet : List UInt8) (compressed : Bool)
    (packetOffset : Nat) :
    Refines (streamEmitUncompressed heap packet compressed packetOffset) feeding :=
  (emitRoom_relaxed heap _ _).bind fun _ => finishPacket_relaxed _ _ _

theorem emitCompressed_relaxed (zlib : Zlib) (heap : Heap) (compressed : List UInt8)
    (declaredSize packetOffset : Nat) :
    Refines (streamEmitCompressed zlib heap compressed declaredSize packetOffset) feeding := by
  unfold streamEmitCompressed
  split_ifs with large
  · exact fun after run => nomatch run
  · refine (emitRoom_relaxed heap _ _).bind fun after => ?_
    cases zlib.inflateOnce compressed declaredSize with
    | none => exact fun after run => nomatch run
    | some step =>
        intro emitted run
        dsimp only at run ⊢
        split_ifs at run with short
        · cases run
        · have whole : ¬ (step.status ≠ .streamEnd ∨ step.output.length ≠ declaredSize ∨
              after.relaxed.decoder.config.mode = .strict ∧ step.rest.length ≠ 0) := by
            rintro (status | size | ⟨strict, -⟩)
            · exact short (.inl status)
            · exact short (.inr (.inl size))
            · cases strict
          rw [if_neg whole]
          exact finishPacket_relaxed _ _ _ emitted run

theorem decodeFrame_relaxed (zlib : Zlib) (heap : Heap) (frame : List UInt8)
    (frameOffset : Nat) :
    Refines (streamDecodeFrame zlib heap frame frameOffset) feeding := by
  intro after run
  unfold streamDecodeFrame at run
  dsimp only at run
  by_cases bare : feeding.decoder.compressionThreshold < 0
  · rw [if_pos bare] at run
    exact (if_pos bare).trans (emitUncompressed_relaxed heap _ _ _ after run)
  rw [if_neg bare] at run
  refine (if_neg bare).trans ?_
  rw [show feeding.relaxed.decoder.config.mode = .vanillaCompat from rfl]
  cases read : streamVarint frame feeding.decoder.config.mode with
  | partialInput => rw [read] at run; cases run
  | invalid code offset => rw [read] at run; cases run
  | complete declared headerSize =>
      rw [read] at run
      rw [streamVarint_relaxed read nofun]
      dsimp only at run ⊢
      have lenient {check : Prop} : ¬ (McDecodeMode.vanillaCompat = .strict ∧ check) :=
        fun both => nomatch both.1
      split_ifs at run with negative stored long large small
      · cases run
      · cases run
      · refine (if_neg negative).trans ((if_pos stored).trans ((if_neg lenient).trans ?_))
        exact emitUncompressed_relaxed heap _ _ _ after run
      · cases run
      · cases run
      · refine (if_neg negative).trans ((if_neg stored).trans ((if_neg large).trans
          ((if_neg lenient).trans ?_)))
        exact emitCompressed_relaxed zlib heap _ _ _ after run

theorem stop_relaxed (consumed : Nat) : Refines (streamStop consumed) feeding := by
  intro after run
  cases run
  simp only [streamStop, relaxed, McStreamDecoder.relaxed, consume_eq]

theorem feedLoop_relaxed (zlib : Zlib) (heap : Heap) (quota consumed : Nat) :
    Refines (feedLoop zlib heap quota consumed) feeding := by
  induction quota generalizing feeding consumed with
  | zero => exact stop_relaxed consumed
  | succ quota ih =>
      intro after run
      unfold feedLoop at run
      dsimp only at run
      unfold feedLoop
      dsimp only
      rw [show feeding.relaxed.decoder.config.mode = .vanillaCompat from rfl,
        show feeding.relaxed.decoder.buffer = feeding.decoder.buffer from rfl,
        show feeding.relaxed.decoder.config.maxFrameSize =
          feeding.decoder.config.maxFrameSize from rfl]
      by_cases drained : feeding.decoder.buffer.length ≤ consumed
      · rw [if_pos drained] at run ⊢
        exact stop_relaxed consumed after run
      rw [if_neg drained] at run ⊢
      cases read : streamVarint (feeding.decoder.buffer.drop consumed)
          feeding.decoder.config.mode with
      | partialInput =>
          have accepted (code : McErrorCode) (offset : Nat) :
              McVarIntStatus.partialInput ≠ .invalid code offset := by
            rintro ⟨⟩
          rw [read] at run
          rw [streamVarint_relaxed read accepted]
          exact stop_relaxed consumed after run
      | invalid code offset => rw [read] at run; cases run
      | complete encodedSize headerSize =>
          have accepted (code : McErrorCode) (offset : Nat) :
              McVarIntStatus.complete encodedSize headerSize ≠ .invalid code offset := by
            rintro ⟨⟩
          rw [read] at run
          rw [streamVarint_relaxed read accepted]
          dsimp only at run ⊢
          split_ifs at run ⊢ with negative large short
          · cases run
          · cases run
          · exact stop_relaxed consumed after run
          · rcases decoded : streamDecodeFrame zlib heap
                ((feeding.decoder.buffer.drop (consumed + headerSize)).take encodedSize.toNat)
                (feeding.decoder.absoluteOffset (consumed + headerSize)) feeding
              with ⟨_ | u, emitted⟩
            · rw [decoded] at run
              cases run
            · rw [decoded] at run
              rw [show feeding.relaxed.decoder.absoluteOffset (consumed + headerSize) =
                feeding.decoder.absoluteOffset (consumed + headerSize) from rfl,
                decodeFrame_relaxed zlib heap _ _ emitted decoded]
              exact ih _ after run

end Feeding

section Calls

variable {zlib : Zlib} {decoder : McStreamDecoder}

theorem streamReserve_relaxed (decoder : McStreamDecoder) (heap : Heap) (needed : Nat) :
    streamReserve heap decoder.relaxed needed =
      ((streamReserve heap decoder needed).1, (streamReserve heap decoder needed).2.relaxed) := by
  by_cases limited : decoder.config.maxBufferedSize < needed
  · rw [show streamReserve heap decoder needed = (false, decoder) from if_pos limited]
    exact if_pos limited
  by_cases enough : needed ≤ decoder.bufferCapacity
  · rw [show streamReserve heap decoder needed = (true, decoder) from
      (if_neg limited).trans (if_pos enough)]
    exact (if_neg limited).trans (if_pos enough)
  by_cases granted : heap.grant decoder.serial
      (grownCapacity decoder.config.maxBufferedSize needed decoder.bufferCapacity) = true
  · rw [show streamReserve heap decoder needed = (true, _) from
      (if_neg limited).trans ((if_neg enough).trans (if_pos granted))]
    exact (if_neg limited).trans ((if_neg enough).trans (if_pos granted))
  · rw [show streamReserve heap decoder needed = (false, _) from
      (if_neg limited).trans ((if_neg enough).trans (if_neg granted))]
    exact (if_neg limited).trans ((if_neg enough).trans (if_neg granted))

/-- What every feed starts with. -/
def McStreamDecoder.emptied (decoder : McStreamDecoder) : McStreamDecoder :=
  { decoder with compressionTransitionReady := false, output := [] }

/-- The way through a feed that is not refused. -/
structure FeedPasses (zlib : Zlib) (heap : Heap) (decoder : McStreamDecoder) (call : FeedCall)
    (held : McStreamDecoder) (after : Feeding) : Prop where
  valid : ¬ call.Invalid
  clean : ¬ decoder.failed = true
  fits : ¬ decoder.config.maxBufferedSize - decoder.buffer.length < call.data.size
  reserved : streamReserve heap decoder.emptied (decoder.buffer.length + call.data.size) =
    (true, held)
  looped : feedLoop zlib heap call.frameCapacity 0
    ⟨{ held with buffer := held.buffer ++ call.data.content }, []⟩ = (some (), after)

theorem FeedPasses.result {heap : Heap} {call : FeedCall} {held : McStreamDecoder}
    {after : Feeding} (passes : FeedPasses zlib heap decoder call held after) :
    mcStreamDecoderFeed zlib heap decoder call =
      (⟨true, after.frames, mcErrorClear⟩,
        { after.decoder with compressionTransitionReady := after.ready call.frameCapacity }) := by
  have reserved := passes.reserved
  simp only [McStreamDecoder.emptied] at reserved
  simp only [mcStreamDecoderFeed, if_neg passes.valid, if_neg passes.clean, if_neg passes.fits,
    reserved, passes.looped]
  rfl

theorem feed_passes {heap : Heap} {call : FeedCall}
    (accepted : (mcStreamDecoderFeed zlib heap decoder call).1.ok = true) :
    ∃ held after, FeedPasses zlib heap decoder call held after := by
  unfold mcStreamDecoderFeed at accepted
  dsimp only [feedFailed] at accepted
  split_ifs at accepted with invalid failed limited
  rcases reserved : streamReserve heap
      { decoder with compressionTransitionReady := false, output := [] }
      (decoder.buffer.length + call.data.size) with ⟨_ | _, held⟩
  · rw [reserved] at accepted
    cases accepted
  · rw [reserved] at accepted
    rcases looped : feedLoop zlib heap call.frameCapacity 0
        ⟨{ held with buffer := held.buffer ++ call.data.content }, []⟩ with ⟨_ | u, after⟩
    · simp only [looped] at accepted
      cases accepted
    · exact ⟨held, after, invalid, failed, limited, reserved, looped⟩

theorem FeedPasses.relaxed {heap : Heap} {call : FeedCall} {held : McStreamDecoder}
    {after : Feeding} (passes : FeedPasses zlib heap decoder call held after) :
    FeedPasses zlib heap decoder.relaxed call held.relaxed after.relaxed where
  valid := passes.valid
  clean := passes.clean
  fits := passes.fits
  reserved := by
    have same := streamReserve_relaxed decoder.emptied heap
      (decoder.buffer.length + call.data.size)
    rw [passes.reserved] at same
    exact same
  looped := Feeding.feedLoop_relaxed zlib heap _ _ after passes.looped

/-- A feed that strict mode accepts, compat mode accepts with the same result. -/
theorem feed_relaxed {heap : Heap} {call : FeedCall}
    (accepted : (mcStreamDecoderFeed zlib heap decoder call).1.ok = true) :
    mcStreamDecoderFeed zlib heap decoder.relaxed call =
      ((mcStreamDecoderFeed zlib heap decoder call).1,
        (mcStreamDecoderFeed zlib heap decoder call).2.relaxed) := by
  obtain ⟨held, after, passes⟩ := feed_passes accepted
  rw [passes.result, passes.relaxed.result]
  rfl

/-- As long as strict mode accepts them, the same feeds are seen alike. -/
theorem observations_relaxed (feeds : List (Heap × FeedCall)) (count : Nat)
    (accepted : ∀ seen ∈ (StreamCall.observations zlib
      (feeds.map fun feed => .feed feed.1 feed.2) decoder).take count, seen.ok = true) :
    (StreamCall.observations zlib (feeds.map fun feed => .feed feed.1 feed.2)
        decoder.relaxed).take count =
      (StreamCall.observations zlib (feeds.map fun feed => .feed feed.1 feed.2) decoder).take
        count := by
  induction feeds generalizing decoder count with
  | nil => rfl
  | cons feed feeds ih =>
      cases count with
      | zero => rfl
      | succ count =>
          simp only [List.map_cons, StreamCall.observations, List.take_succ_cons] at accepted ⊢
          obtain ⟨first, rest⟩ := List.forall_mem_cons.mp accepted
          have same := feed_relaxed first
          have seen : (StreamCall.feed feed.1 feed.2).observe zlib decoder.relaxed =
              (StreamCall.feed feed.1 feed.2).observe zlib decoder := by
            simp only [StreamCall.observe, StreamCall.answer, StreamCall.perform, same]
            rfl
          have performed : (StreamCall.feed feed.1 feed.2).perform zlib decoder.relaxed =
              ((StreamCall.feed feed.1 feed.2).perform zlib decoder).relaxed :=
            congrArg Prod.snd same
          rw [seen, performed, ih count rest]

end Calls

/-- Two decoders created under the same limits and the same threshold, one strict and one
not, and fed the same: up to the first feed that strict mode refuses, each feed returns
the same frames from both and leaves the same buffered size; so what compat mode refuses,
strict mode refuses no later. -/
theorem strict_refines_compat (zlib : Zlib) (config : McStreamDecoderConfig) (threshold : Int)
    {strict compat : McStreamDecoder}
    (createdStrict : mcStreamDecoderCreate (some { config with mode := .strict }) true =
      .ok strict)
    (createdCompat : mcStreamDecoderCreate (some { config with mode := .vanillaCompat }) true =
      .ok compat)
    (feeds : List (Heap × FeedCall)) :
    let calls := feeds.map fun feed => StreamCall.feed feed.1 feed.2
    let inStrict := StreamCall.observations zlib calls
      (mcStreamDecoderSetCompression strict threshold).2
    let inCompat := StreamCall.observations zlib calls
      (mcStreamDecoderSetCompression compat threshold).2
    (∀ count, (∀ seen ∈ inStrict.take count, seen.ok = true) →
        inCompat.take count = inStrict.take count) ∧
      ∀ count, (∃ seen ∈ inCompat.take count, seen.ok = false) →
        ∃ seen ∈ inStrict.take count, seen.ok = false := by
  intro calls inStrict inCompat
  have alike : (mcStreamDecoderSetCompression compat threshold).2 =
      (mcStreamDecoderSetCompression strict threshold).2.relaxed := by
    simp only [mcStreamDecoderCreate] at createdStrict createdCompat
    split_ifs at createdStrict
    split_ifs at createdCompat
    cases createdStrict
    cases createdCompat
    by_cases low : threshold < -1
    · simp only [mcStreamDecoderSetCompression, if_pos low]
      rfl
    · simp only [mcStreamDecoderSetCompression, if_neg low]
      rfl
  have same (count : Nat) (accepted : ∀ seen ∈ inStrict.take count, seen.ok = true) :
      inCompat.take count = inStrict.take count := by
    simp only [inCompat, alike]
    exact observations_relaxed feeds count accepted
  refine ⟨same, ?_⟩
  rintro count ⟨seen, shown, refused⟩
  by_contra none
  have accepted (other : StreamObservation) (found : other ∈ inStrict.take count) :
      other.ok = true :=
    Bool.eq_true_of_not_eq_false fun failing => none ⟨other, found, failing⟩
  rw [same count accepted] at shown
  exact none ⟨seen, shown, refused⟩

/-- Strict mode refuses the second packet, whose identifier is padded. -/
theorem strict_refines_compat_padded :
    let zlib := Zlib.knowing [] []
    let strict := (mcStreamDecoderCreate (some { mcStreamDecoderConfigInit with mode := .strict })
      true).toOption.get (by decide)
    let compat := (mcStreamDecoderCreate
      (some { mcStreamDecoderConfigInit with mode := .vanillaCompat }) true).toOption.get (by decide)
    let calls := [StreamCall.feed .ample (feedOf [1, 42, 2] 1), .feed .ample (feedOf [0x80, 0] 1)]
    let inStrict := StreamCall.observations zlib calls (mcStreamDecoderSetCompression strict (-1)).2
    let inCompat := StreamCall.observations zlib calls (mcStreamDecoderSetCompression compat (-1)).2
    inCompat.take 1 = inStrict.take 1 ∧ inStrict.map (·.ok) = [true, false] ∧
      inCompat.map (·.ok) = [true, true] := by
  intro zlib strict compat calls inStrict inCompat
  have refines := (strict_refines_compat zlib mcStreamDecoderConfigInit (-1)
    (show mcStreamDecoderCreate _ true = .ok strict from rfl)
    (show mcStreamDecoderCreate _ true = .ok compat from rfl)
    [(.ample, feedOf [1, 42, 2] 1), (.ample, feedOf [0x80, 0] 1)]).1
  exact ⟨refines 1 (by decide +kernel), by decide +kernel, by decide +kernel⟩

end McProtocol
