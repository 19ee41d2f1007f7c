import McProtocol.Client.PeerRoundTrip

/-! # The limits of the two sides

A sender bounds the payload of a packet, the peer's decoder bounds the frame and the
packet in it. What fits the decoder is returned, everything else is rejected for its
size.
-/

namespace McProtocol

open Incremental

/-- A rejection of what the bytes say, not of their amount. -/
def FormatError (code : McErrorCode) : Prop := code ≠ .bufferLimit ∧ code ≠ .outOfMemory

instance : DecidablePred FormatError := fun _ => inferInstanceAs (Decidable (_ ∧ _))

section Codes

variable {zlib : Zlib} {config : McStreamDecoderConfig} {threshold : Int} {mode : McDecodeMode}
  {data : List UInt8} {code : McErrorCode} {offset : Nat}

theorem streamGroups_code {left result : Nat}
    (invalid : streamGroups mode left result data = .invalid code offset) : FormatError code := by
  induction left generalizing result data with
  | zero =>
      cases invalid
      decide
  | succ left ih =>
      cases data with
      | nil => cases invalid
      | cons byte data =>
          simp only [streamGroups] at invalid
          split_ifs at invalid
          · cases invalid
            decide
          · cases invalid
            decide
          · exact ih invalid

theorem streamVarint_code (invalid : streamVarint data mode = .invalid code offset) :
    FormatError code := streamGroups_code invalid

theorem packetMeaning_code {compressed : Bool}
    (failed : packetMeaning mode data compressed = .error (code, offset)) : FormatError code := by
  unfold packetMeaning at failed
  split_ifs at failed
  · cases failed
    decide
  · cases header : streamVarint data mode with
    | partialInput =>
        rw [header] at failed
        cases failed
        decide
    | invalid code' offset' =>
        rw [header] at failed
        cases failed
        exact streamVarint_code header
    | complete packetId idSize =>
        rw [header] at failed
        dsimp only at failed
        split_ifs at failed
        cases failed
        decide

theorem inflatedMeaning_code {declaredSize : Nat}
    (failed : inflatedMeaning zlib mode data declaredSize = .error (code, offset)) :
    FormatError code := by
  unfold inflatedMeaning at failed
  cases inflated : zlib.inflateOnce data declaredSize with
  | none =>
      rw [inflated] at failed
      cases failed
      decide
  | some step =>
      rw [inflated] at failed
      dsimp only at failed
      split_ifs at failed
      · cases failed
        decide
      · exact packetMeaning_code failed

theorem behind_eq_error {α : Type} {size : Nat} {meaning : Except StreamError α}
    (failed : behind size meaning = .error (code, offset)) :
    ∃ inner, meaning = .error (code, inner) := by
  rcases meaning with ⟨code', inner⟩ | value
  · cases failed
    exact ⟨inner, rfl⟩
  · cases failed

theorem frameMeaning_code (failed : frameMeaning zlib config threshold data = .error (code, offset)) :
    FormatError code := by
  unfold frameMeaning at failed
  split_ifs at failed
  · exact packetMeaning_code failed
  · cases header : streamVarint data config.mode with
    | partialInput =>
        rw [header] at failed
        cases failed
        decide
    | invalid code' offset' =>
        rw [header] at failed
        cases failed
        exact streamVarint_code header
    | complete declared headerSize =>
        rw [header] at failed
        dsimp only at failed
        split_ifs at failed
        · cases failed
          decide
        · cases failed
          decide
        · obtain ⟨_, inner⟩ := behind_eq_error failed
          exact packetMeaning_code inner
        · cases failed
          decide
        · cases failed
          decide
        · obtain ⟨_, inner⟩ := behind_eq_error failed
          exact inflatedMeaning_code inner

/-- The scanner never rejects for want of memory. -/
theorem frameVerdict_code (rejects : frameVerdict zlib config threshold data = .reject (code, offset)) :
    FormatError code := by
  unfold frameVerdict at rejects
  cases header : streamVarint data config.mode with
  | partialInput =>
      rw [header] at rejects
      cases rejects
  | invalid code' offset' =>
      rw [header] at rejects
      cases rejects
      exact streamVarint_code header
  | complete encodedSize headerSize =>
      rw [header] at rejects
      dsimp only at rejects
      split_ifs at rejects
      · cases rejects
        decide
      · cases rejects
        decide
      · cases meaning : frameMeaning zlib config threshold
          ((data.drop headerSize).take encodedSize.toNat) with
        | ok packet =>
            rw [meaning] at rejects
            cases rejects
        | error error =>
            rw [meaning] at rejects
            cases rejects
            exact frameMeaning_code meaning

end Codes

/-- What a client does with a stream: feeds for one frame each, on memory that does not
run out, until one of them finds none or the decoder fails. -/
structure PeerReads (zlib : Zlib) (heap : Heap) (decoder : McStreamDecoder) (stream : List UInt8)
    (calls : List FeedCall) : Prop where
  valid : ∀ call ∈ calls, ¬ call.Invalid
  one : ∀ call ∈ calls, call.frameCapacity = 1
  whole : (calls.map fun call => call.data.content).flatten = stream
  exhausted : ∀ last ∈ calls.getLast?,
    (feedPackets zlib heap (feedAll zlib heap calls.dropLast decoder).2 last).1 = [] ∨
      (feedAll zlib heap calls decoder).2.failed = true
  memory : ¬ heap.Refuses mcDefaultMaxStreamBufferedSize

section Reading

variable {zlib : Zlib} {heap : Heap} {threshold : Int} {decoder : McStreamDecoder}
  {session : Session UInt8 StreamError}

/-- Feeds for one frame of no more input than may be buffered do what the session does. -/
theorem feedAll_one {calls : List FeedCall} (valid : ∀ call ∈ calls, ¬ call.Invalid)
    (one : ∀ call ∈ calls, call.frameCapacity = 1)
    (follows : decoder.Follows mcStreamDecoderConfigInit threshold session)
    (memory : ¬ heap.Refuses mcDefaultMaxStreamBufferedSize)
    (room : session.rest.length + (calls.map fun call => call.data.content).flatten.length ≤
      mcDefaultMaxStreamBufferedSize) :
    (feedAll zlib heap calls decoder).2.Follows mcStreamDecoderConfigInit threshold
      (session.run (frameScanner zlib mcStreamDecoderConfigInit threshold)
        (FeedCall.plan calls)).2 := by
  induction calls generalizing decoder session with
  | nil => exact follows
  | cons call calls ih =>
      obtain ⟨validCall, valid⟩ := List.forall_mem_cons.mp valid
      obtain ⟨oneCall, one⟩ := List.forall_mem_cons.mp one
      rw [List.map_cons, List.flatten_cons, List.length_append] at room
      cases state : session.error with
      | some error =>
          have recorded := follows
          rw [McStreamDecoder.Follows, state] at recorded
          have same : (session.feed (frameScanner zlib mcStreamDecoderConfigInit threshold)
              call.data.content call.frameCapacity).2 = session := by
            rw [Session.feed, state]
          have later := ih valid one follows (by omega)
          change (feedAll zlib heap calls (feedPackets zlib heap decoder call).2).2.Follows _ _
            (Session.run _ (FeedCall.plan calls) (Session.feed _ session call.data.content
              call.frameCapacity).2).2
          rw [feed_failed validCall recorded.1, same]
          exact later
      | none =>
          have held : decoder.buffer = session.rest := by
            have recorded := follows
            rw [McStreamDecoder.Follows, state] at recorded
            exact recorded.2.2.2.1
          have size : call.data.size = call.data.content.length := by
            cases data : call.data with
            | bytes content => rfl
            | null size =>
                have missing : ¬ call.data.Missing := fun bad => validCall (by
                  simp [FeedCall.Invalid, bad])
                rw [data] at missing
                exact not_not.mp missing
          have fed : (feedPackets zlib heap decoder call).2.Follows mcStreamDecoderConfigInit
              threshold (session.feed (frameScanner zlib mcStreamDecoderConfigInit threshold)
                call.data.content 1).2 := (feed_one (by decide) validCall oneCall state follows (by decide)
            (by rw [held, size]; change _ ≤ mcDefaultMaxStreamBufferedSize; omega) memory).1.2
          rw [← oneCall] at fed
          have shorter : (session.feed (frameScanner zlib mcStreamDecoderConfigInit threshold)
              call.data.content call.frameCapacity).2.rest.length ≤
              session.rest.length + call.data.content.length := by
            simp only [Session.feed, state, List.length_drop, List.length_append]
            omega
          have left : (session.feed (frameScanner zlib mcStreamDecoderConfigInit threshold)
              call.data.content call.frameCapacity).2.rest.length +
              (calls.map fun call => call.data.content).flatten.length ≤
              mcDefaultMaxStreamBufferedSize := by
            rw [size] at *
            omega
          exact ih valid one fed left

/-- A client that reads a stream is delivered it. -/
theorem PeerReads.delivers {stream : List UInt8} {calls : List FeedCall}
    (reads : PeerReads zlib heap decoder stream calls)
    (follows : decoder.Follows mcStreamDecoderConfigInit threshold Session.fresh)
    (small : stream.length ≤ mcDefaultMaxStreamBufferedSize) :
    Delivers zlib heap decoder stream calls where
  valid := reads.valid
  room call mem := (reads.one call mem).ge
  whole := reads.whole
  exhausted := reads.exhausted
  resources := by
    rintro ⟨failed, limit⟩
    have room : (Session.fresh : Session UInt8 StreamError).rest.length +
        (calls.map fun call => call.data.content).flatten.length ≤
        mcDefaultMaxStreamBufferedSize := by
      rw [reads.whole]
      exact (Nat.zero_add _).trans_le small
    have ran : (feedAll zlib heap calls decoder).2.Follows _ threshold _ :=
      feedAll_one reads.valid reads.one follows reads.memory room
    cases state : ((Session.fresh : Session UInt8 StreamError).run
        (frameScanner zlib mcStreamDecoderConfigInit threshold) (FeedCall.plan calls)).2.error with
    | none => exact ran.failed failed state
    | some error =>
        obtain ⟨data, rejects⟩ := Session.run_error rfl state
        have format := frameVerdict_code rejects
        rw [McStreamDecoder.Follows, state] at ran
        rw [ran.2] at limit
        exact limit.elim format.1 format.2

end Reading

/-- The decoder of a peer under a threshold. -/
def peerDecoder (threshold : Int) : McStreamDecoder :=
  (mcStreamDecoderSetCompression
    ((mcStreamDecoderCreate none true).toOption.get (by decide)) threshold).2

theorem peerDecoder_follows {threshold : Int} (allowed : -1 ≤ threshold) :
    (peerDecoder threshold).Follows mcStreamDecoderConfigInit threshold Session.fresh := by
  have low : ¬ threshold < -1 := by omega
  have created : mcStreamDecoderCreate none true =
      .ok ((mcStreamDecoderCreate none true).toOption.get (by decide)) := rfl
  have set : (mcStreamDecoderSetCompression
      ((mcStreamDecoderCreate none true).toOption.get (by decide)) threshold).1 = none := by
    simp only [mcStreamDecoderSetCompression, if_neg low]
    rfl
  exact (follows_fresh created set).2

section Limits

variable {zlib : Zlib} {config : McStreamDecoderConfig} {threshold : Int}
  {plain content : List UInt8}

/-- A frame longer than the decoder allows. -/
theorem frameVerdict_frameTooLarge (large : config.maxFrameSize < content.length)
    (encodable : content.length ≤ int32Max) (rest : List UInt8) :
    frameVerdict zlib config threshold (framed content ++ rest) = .reject (.frameTooLarge, 0) := by
  have header := streamVarint_run (isInt32_length encodable) config.mode (content ++ rest)
  have size : ((content.length : Int)).toNat = content.length := Int.toNat_natCast _
  rw [frameVerdict, framed, List.append_assoc, header]
  dsimp only
  rw [if_neg (by omega), size, if_pos large]

/-- A packet longer than the decoder allows, in a frame that is not. -/
theorem frameVerdict_decompressedTooLarge (shape : ContentOf zlib threshold plain content)
    (frame : content.length ≤ config.maxFrameSize) (encodable : config.maxFrameSize ≤ int32Max)
    (small : config.maxFrameSize ≤ config.maxDecompressedSize)
    (large : config.maxDecompressedSize < plain.length) (encodable' : plain.length ≤ int32Max)
    (rest : List UInt8) :
    ∃ offset, frameVerdict zlib config threshold (framed content ++ rest) =
      .reject (.decompressedTooLarge, offset) := by
  cases shape with
  | bare off => omega
  | stored on short =>
      rw [List.length_cons] at frame
      omega
  | @deflated compressed on reached deflates =>
      have some := (encodeVarint_length plain.length).1
      have outer := streamVarint_run (isInt32_length (frame.trans encodable)) config.mode
        ((encodeVarint plain.length ++ compressed) ++ rest)
      have inner := streamVarint_run (isInt32_length encodable') config.mode compressed
      have size : (((encodeVarint plain.length ++ compressed).length : Int)).toNat =
          (encodeVarint plain.length ++ compressed).length := Int.toNat_natCast _
      have whole : ((plain.length : Int)).toNat = plain.length := Int.toNat_natCast _
      have length : (encodeVarint plain.length ++ compressed).length =
          (encodeVarint plain.length).length + compressed.length := List.length_append
      have meaning : frameMeaning zlib config threshold
          (encodeVarint plain.length ++ compressed) = .error (.decompressedTooLarge, 0) := by
        rw [frameMeaning, if_neg (by omega), inner]
        dsimp only
        rw [if_neg (by omega), if_neg (by omega), whole, if_pos large]
      refine ⟨(encodeVarint (encodeVarint plain.length ++ compressed).length).length + 0, ?_⟩
      rw [frameVerdict, framed, List.append_assoc, outer]
      dsimp only
      rw [if_neg (by omega), size, if_neg (by omega), List.drop_left, List.take_left' rfl, meaning,
        if_neg]
      simp only [List.length_append]
      omega

end Limits

/-- The packet is within the limit of a frame, and so is what goes into its frame:
under compression a zero in front of it, or its length in front of what zlib makes of
it. -/
def FitsPeer (zlib : Zlib) (threshold : Int) (plain : List UInt8) : Prop :=
  plain.length ≤ mcDefaultMaxFrameSize ∧
    (0 ≤ threshold → (plain.length : Int) < threshold → plain.length < mcDefaultMaxFrameSize) ∧
    (0 ≤ threshold → threshold ≤ plain.length →
      ∀ compressed ∈ zlib.compress2 plain (zlib.compressBound plain.length),
        (encodeVarint plain.length).length + compressed.length ≤ mcDefaultMaxFrameSize)

theorem fitsPeer_iff {zlib : Zlib} {threshold : Int} {plain content : List UInt8}
    (encoded : encodedContent zlib threshold plain = some content) :
    FitsPeer zlib threshold plain ↔
      plain.length ≤ mcDefaultMaxFrameSize ∧ content.length ≤ mcDefaultMaxFrameSize := by
  rw [encodedContent] at encoded
  unfold FitsPeer
  split_ifs at encoded with off small
  · cases encoded
    exact ⟨fun fits => ⟨fits.1, fits.1⟩,
      fun fits => ⟨fits.1, fun on => absurd off (by omega), fun on => absurd off (by omega)⟩⟩
  · cases encoded
    rw [List.length_cons]
    refine ⟨fun fits => ⟨fits.1, fits.2.1 (by omega) small⟩, fun fits => ⟨fits.1, fun _ _ => fits.2,
      fun _ reached => absurd small (by omega)⟩⟩
  · obtain ⟨compressed, written, rfl⟩ := Option.map_eq_some_iff.mp encoded
    rw [List.length_append]
    refine ⟨fun fits => ⟨fits.1, fits.2.2 (by omega) (by omega) compressed written⟩,
      fun fits => ⟨fits.1, fun _ short => absurd short small, fun _ _ other found => ?_⟩⟩
    rw [Option.mem_def, written] at found
    cases found
    exact fits.2

section Sent

variable {host : Host} {sender after : World} {packetId : Int} {payload : Buffer}

/-- Sending a packet writes one frame of it. -/
theorem mcClientSend_eq_some (untransformed : sender.client.transforms = none)
    (sent : mcClientSend host packetId payload sender = (some (), after)) :
    ∃ content, after.network.wire = sender.network.wire ++ framed content ∧ 0 ≤ packetId ∧
      payload.content.length ≤ mcMaxPacket ∧
      encodedContent host.zlib sender.client.compressionThreshold
        (encodeVarint packetId ++ payload.content) = some content := by
  obtain ⟨_, start, connected, framing⟩ := Prog.bind_eq_some sent
  obtain ⟨client, observed, seen, checked⟩ := Prog.bind_eq_some connected
  cases seen
  obtain ⟨-, rfl⟩ := refuseIf_eq_some checked
  exact sendFrame_eq_some untransformed framing

end Sent

/-- The longest content of a frame that is sent. -/
theorem encodedContent_length_le {zlib : Zlib} (roundTrips : zlib.RoundTrips) (bounds : zlib.Bounds)
    {threshold : Int} {plain content : List UInt8}
    (encoded : encodedContent zlib threshold plain = some content)
    (small : plain.length ≤ mcMaxPacket + 5) : content.length ≤ 2 ^ 25 := by
  simp only [mcMaxPacket] at small
  rw [encodedContent] at encoded
  split_ifs at encoded with off stored
  · cases encoded
    omega
  · cases encoded
    rw [List.length_cons]
    omega
  · obtain ⟨compressed, written, rfl⟩ := Option.map_eq_some_iff.mp encoded
    have length := roundTrips.bounded _ _ _ written
    have bound := bounds plain.length
    have header := (encodeVarint_length plain.length).2
    rw [List.length_append]
    omega

section Received

variable {zlib : Zlib} {heap : Heap} {threshold : Int} {content : List UInt8}
  {calls : List FeedCall} {packet : StreamPacket}

/-- What a peer makes of one frame depends on the scanner's verdict on it. -/
theorem PeerReads.all (allowed : -1 ≤ threshold) (small : content.length ≤ 2 ^ 25)
    (reads : PeerReads zlib heap (peerDecoder threshold) (framed content) calls) :
    ∃ session : Session UInt8 StreamError,
      (feedAll zlib heap calls (peerDecoder threshold)).2.Follows mcStreamDecoderConfigInit
        threshold session ∧
      (frameScanner zlib mcStreamDecoderConfigInit threshold).all (framed content) =
        ⟨(feedAll zlib heap calls (peerDecoder threshold)).1, session.taken, session.error⟩ ∧
      (session.error = none → session.rest = (framed content).drop session.taken) := by
  have header := (encodeVarint_length content.length).2
  have length : (framed content).length ≤ mcDefaultMaxStreamBufferedSize := by
    rw [framed, List.length_append]
    simp only [mcDefaultMaxStreamBufferedSize]
    omega
  exact (reads.delivers (peerDecoder_follows allowed) length).all (by decide)
    (peerDecoder_follows allowed)

theorem PeerReads.accepted (allowed : -1 ≤ threshold) (small : content.length ≤ 2 ^ 25)
    (reads : PeerReads zlib heap (peerDecoder threshold) (framed content) calls)
    (good : FramedAs zlib mcStreamDecoderConfigInit threshold packet content) :
    (feedAll zlib heap calls (peerDecoder threshold)).1 = [packet] ∧
      (mcStreamDecoderFinish (feedAll zlib heap calls (peerDecoder threshold)).2).1 = none := by
  obtain ⟨session, followed, whole, rest⟩ := reads.all allowed small
  have decoded := all_framed (by decide) (.cons good .nil) []
  simp only [List.map_cons, List.map_nil, List.flatten_cons, List.flatten_nil,
    List.append_nil] at decoded
  have last : (frameScanner zlib mcStreamDecoderConfigInit threshold).all [] = .idle :=
    Scanner.take_nil _
  rw [whole, last, Outcome.andThen_idle] at decoded
  injection decoded with frames taken error
  have nothing : session.rest = [] := by
    rw [rest error, taken, List.drop_length]
  refine ⟨frames, ?_⟩
  rw [finish_follows followed, finishError, error, nothing]
  rfl

theorem PeerReads.rejected (allowed : -1 ≤ threshold) (small : content.length ≤ 2 ^ 25)
    (reads : PeerReads zlib heap (peerDecoder threshold) (framed content) calls)
    {error : StreamError}
    (verdict : frameVerdict zlib mcStreamDecoderConfigInit threshold (framed content) =
      .reject error) :
    (feedAll zlib heap calls (peerDecoder threshold)).1 = [] ∧
      (mcStreamDecoderFinish (feedAll zlib heap calls (peerDecoder threshold)).2).1 =
        some (rejection 0 error) := by
  obtain ⟨session, followed, whole, rest⟩ := reads.all allowed small
  have rejects : (frameScanner zlib mcStreamDecoderConfigInit threshold).all (framed content) =
      ⟨[], 0, some error⟩ := Scanner.all_reject verdict
  rw [whole] at rejects
  injection rejects with frames taken failed
  refine ⟨frames, ?_⟩
  rw [finish_follows followed, finishError, failed, taken]

end Received

/-- What the peer of a sender comes to: the packet, or an error that says it is too
large. -/
inductive PeerOutcome (packet : StreamPacket) : List StreamPacket → Option McError → Prop where
  | returned : PeerOutcome packet [packet] none
  | refused (error : McError)
      (size : error.code = .frameTooLarge ∨ error.code = .decompressedTooLarge) :
      PeerOutcome packet [] (some error)

theorem peerOutcome_sent {host : Host} (roundTrips : host.zlib.RoundTrips)
    (bounds : host.zlib.Bounds) {threshold : Int} (allowed : -1 ≤ threshold) {packetId : Int}
    (id : IsInt32 packetId) (natural : 0 ≤ packetId) {payload : Buffer}
    (limit : payload.content.length ≤ mcMaxPacket) {content : List UInt8}
    (encoded : encodedContent host.zlib threshold (encodeVarint packetId ++ payload.content) =
      some content) {heap : Heap} {calls : List FeedCall}
    (reads : PeerReads host.zlib heap (peerDecoder threshold) (framed content) calls) :
    let received := feedAll host.zlib heap calls (peerDecoder threshold)
    PeerOutcome (McOutboundPacket.received threshold ⟨packetId, payload⟩) received.1
        (mcStreamDecoderFinish received.2).1 ∧
      ((mcStreamDecoderFinish received.2).1 = none ↔
        FitsPeer host.zlib threshold (encodeVarint packetId ++ payload.content)) := by
  have shape := contentOf_encoded roundTrips encoded
  have header := (encodeVarint_length packetId).2
  have plain : (encodeVarint packetId ++ payload.content).length ≤ mcMaxPacket + 5 := by
    rw [List.length_append]
    omega
  have small := encodedContent_length_le roundTrips bounds encoded plain
  have limits : mcDefaultMaxFrameSize = 2 ^ 24 := rfl
  have encodable : content.length ≤ int32Max := by
    simp only [int32Max]
    omega
  rw [fitsPeer_iff encoded]
  intro received
  by_cases frame : content.length ≤ mcDefaultMaxFrameSize
  · by_cases packet : (encodeVarint packetId ++ payload.content).length ≤ mcDefaultMaxFrameSize
    · have good : FramedAs host.zlib mcStreamDecoderConfigInit threshold
          (McOutboundPacket.received threshold ⟨packetId, payload⟩) content :=
        ⟨id, natural, shape, rfl, frame, packet⟩
      obtain ⟨packets, finished⟩ := reads.accepted allowed small good
      rw [packets, finished]
      exact ⟨.returned, fun _ => ⟨packet, frame⟩, fun _ => rfl⟩
    · have longest : (encodeVarint packetId ++ payload.content).length ≤ int32Max := by
        simp only [int32Max, mcMaxPacket] at plain ⊢
        omega
      have limits : mcStreamDecoderConfigInit.maxFrameSize ≤
          mcStreamDecoderConfigInit.maxDecompressedSize := by decide
      obtain ⟨offset, verdict⟩ := frameVerdict_decompressedTooLarge shape frame (by decide) limits
        (not_le.mp packet) longest []
      rw [List.append_nil] at verdict
      obtain ⟨packets, finished⟩ := reads.rejected allowed small verdict
      rw [packets, finished]
      exact ⟨.refused _ (.inr rfl), fun none => absurd none (Option.some_ne_none _),
        fun fits => absurd fits.1 packet⟩
  · have verdict : frameVerdict host.zlib mcStreamDecoderConfigInit threshold
        (framed content ++ []) = .reject (.frameTooLarge, 0) :=
      frameVerdict_frameTooLarge (not_le.mp frame) encodable []
    rw [List.append_nil] at verdict
    obtain ⟨packets, finished⟩ := reads.rejected allowed small verdict
    rw [packets, finished]
    exact ⟨.refused _ (.inl rfl), fun none => absurd none (Option.some_ne_none _),
      fun fits => absurd fits.2 frame⟩

/-- A client in PLAY, without compression. -/
def World.sending : World :=
  World.around { (mcClientCreate 772 true true).toOption.get (by decide) with
    socketFd := 3, state := .play }

/-- A packet that was sent is returned by the peer exactly when it fits the peer;
otherwise the peer says that it is too large. -/
theorem framing_limits_iff (host : Host) (roundTrips : host.zlib.RoundTrips)
    (bounds : host.zlib.Bounds) (sender : World) {after : World} {packetId : Int}
    {payload : Buffer} (id : IsInt32 packetId)
    (untransformed : sender.client.transforms = none)
    (allowed : -1 ≤ sender.client.compressionThreshold)
    (sent : mcClientSend host packetId payload sender = (some (), after)) :
    ∃ stream, after.network.wire = sender.network.wire ++ stream ∧
      ∀ heap calls,
        PeerReads host.zlib heap (peerDecoder sender.client.compressionThreshold) stream calls →
        let received := feedAll host.zlib heap calls
          (peerDecoder sender.client.compressionThreshold)
        PeerOutcome (McOutboundPacket.received sender.client.compressionThreshold
            ⟨packetId, payload⟩) received.1 (mcStreamDecoderFinish received.2).1 ∧
          ((mcStreamDecoderFinish received.2).1 = none ↔
            FitsPeer host.zlib sender.client.compressionThreshold
              (encodeVarint packetId ++ payload.content)) := by
  obtain ⟨content, written, natural, limit, encoded⟩ := mcClientSend_eq_some untransformed sent
  exact ⟨framed content, written, fun heap calls reads =>
    peerOutcome_sent roundTrips bounds allowed id natural limit encoded reads⟩

/-- A small packet comes back. -/
theorem framing_limits_small :
    let after := (mcClientSend (.ample (.knowing [] [])) 7 (.bytes [42]) .sending).2
    ∃ stream, after.network.wire = [] ++ stream ∧
      ∀ heap calls, PeerReads (.knowing [] []) heap (peerDecoder (-1)) stream calls →
        (mcStreamDecoderFinish (feedAll (.knowing [] []) heap calls (peerDecoder (-1))).2).1 =
          none := by
  intro after
  have sent : mcClientSend (.ample (.knowing [] [])) 7 (.bytes [42]) .sending = (some (), after) :=
    Prod.ext (by decide +kernel) rfl
  obtain ⟨stream, written, peer⟩ := framing_limits_iff (.ample (.knowing [] []))
    (Zlib.knowing_roundTrips _ _) (Zlib.knowing_bounds _ _) .sending (by decide) rfl (by decide) sent
  have fits : FitsPeer (.knowing [] []) (-1) (encodeVarint 7 ++ [42]) := by
    refine ⟨by decide +kernel, ?_, ?_⟩
    · intro on
      exact absurd on (by decide)
    · intro on
      exact absurd on (by decide)
  exact ⟨stream, written, fun heap calls reads => (peer heap calls reads).2.mpr fits⟩

/-- Without transforms or compression a connected client sends any payload within its
limit. -/
theorem mcClientSend_sends {zlib : Zlib} {sender : World} {packetId : Int} {payload : List UInt8}
    (connected : 0 ≤ sender.client.socketFd) (state : sender.client.state = .play)
    (untransformed : sender.client.transforms = none) (quiet : sender.network.departures = [])
    (bare : sender.client.compressionThreshold = -1) (natural : 0 ≤ packetId)
    (limit : payload.length ≤ mcMaxPacket) :
    (mcClientSend (.ample zlib) packetId (.bytes payload) sender).1 = some () := by
  have accepted : refuseUnconnected sender = (some (), sender) := by
    refine (Prog.bind_some rfl).trans (refuseIf_neg ?_)
    rw [state, not_or]
    exact ⟨not_lt.mpr connected, by decide⟩
  have header := (encodeVarint_length packetId).2
  let plain := encodeVarint packetId ++ payload
  have length : plain.length ≤ 2 ^ 24 + 5 := by
    simp only [plain, List.length_append, mcMaxPacket] at limit ⊢
    omega
  have valid : ¬ (packetId < 0 ∨ mcMaxPacket < (Buffer.bytes payload).size ∨
      (Buffer.bytes payload).Missing) := by
    simp only [Buffer.size, Buffer.Missing, not_or, not_lt, or_false]
    exact ⟨natural, limit⟩
  have granted (size : Nat) (small : size ≤ 2 ^ 25) (message : String) (world : World) :
      allocate (.ample zlib) size message world =
        (some (), { world with allocated := world.allocated + 1 }) := by
    have fits : size ≤ ptrdiffMax := by
      simp only [ptrdiffMax]
      omega
    exact if_pos (decide_eq_true fits)
  have content (world : World) (off : world.client.compressionThreshold = -1) :
      frameContent (.ample zlib) plain world = (some ([], plain), world) := by
    have bare : world.client.compressionThreshold < 0 := by
      rw [off]
      decide
    refine (Prog.bind_some rfl).trans ?_
    rw [if_pos bare]
    rfl
  have outer := (encodeVarint_length plain.length).2
  have framedLength : (encodeVarint plain.length ++ plain).length ≤ 2 ^ 25 := by
    rw [List.length_append]
    omega
  have encodable : ¬ int32Max < plain.length := by
    simp only [int32Max]
    omega
  have encoded : encodeFrame (.ample zlib) packetId (.bytes payload) sender =
      (some (framed plain), { sender with allocated := sender.allocated + 1 + 1 }) := by
    refine (Prog.bind_some (refuseIf_neg valid)).trans ?_
    refine (Prog.bind_some (granted plain.length (by omega) _ _)).trans ?_
    refine (Prog.bind_some (content { sender with allocated := sender.allocated + 1 } bare)).trans ?_
    refine (Prog.bind_some (refuseIf_neg encodable)).trans ?_
    exact (Prog.bind_some (granted _ framedLength _ _)).trans rfl
  have written : (writeSocket (framed plain)
      { sender with allocated := sender.allocated + 1 + 1 }).1 = some () := by
    have long : ¬ (framed plain).length = 0 := by
      have first := (encodeVarint_length plain.length).1
      rw [framed, List.length_append]
      omega
    have loop : sendLoop [] (framed plain) = (none, framed plain, []) := by
      cases data : framed plain with
      | nil => rfl
      | cons byte data => rfl
    unfold writeSocket
    rw [if_neg long, if_neg (not_lt.mpr connected)]
    dsimp only
    rw [quiet, loop]
  have ciphered : encryptStream (.ample zlib) (framed plain)
      { sender with allocated := sender.allocated + 1 + 1 } =
      (some (framed plain), { sender with allocated := sender.allocated + 1 + 1 }) := by
    unfold encryptStream
    rw [untransformed]
  have sent : (transmit (.ample zlib) packetId (.bytes payload) sender).1 = some () := by
    have run : transmit (.ample zlib) packetId (.bytes payload) sender =
        writeSocket (framed plain) { sender with allocated := sender.allocated + 1 + 1 } :=
      (Prog.bind_some encoded).trans (Prog.bind_some ciphered)
    rw [run]
    exact written
  have run : mcClientSend (.ample zlib) packetId (.bytes payload) sender =
      sendFrame (.ample zlib) packetId (.bytes payload) sender := Prog.bind_some accepted
  rw [run, sendFrame_run]
  exact sent

/-- A frame that is too large is refused by a peer with all the memory it may ask for. -/
theorem peer_refuses {zlib : Zlib} {payload : List UInt8} (limit : payload.length ≤ mcMaxPacket)
    (large : mcDefaultMaxFrameSize < (encodeVarint 0 ++ payload).length) :
    ∃ calls, PeerReads zlib .ample (peerDecoder (-1))
        (mcClientSend (.ample zlib) 0 (.bytes payload) .sending).2.network.wire calls ∧
      (feedAll zlib .ample calls (peerDecoder (-1))).1 = [] := by
  have sent : mcClientSend (.ample zlib) 0 (.bytes payload) .sending =
      (some (), (mcClientSend (.ample zlib) 0 (.bytes payload) .sending).2) :=
    Prod.ext (mcClientSend_sends (by decide) rfl rfl rfl rfl (by decide) limit) rfl
  obtain ⟨content, written, -, -, encoded⟩ := mcClientSend_eq_some rfl sent
  have bare : content = encodeVarint 0 ++ payload := (Option.some_inj.mp encoded).symm
  have length := (encodeVarint_length 0).2
  have small : content.length ≤ 2 ^ 25 := by
    rw [bare, List.length_append]
    simp only [mcMaxPacket] at limit
    omega
  have header := (encodeVarint_length content.length).2
  have encodable : content.length ≤ int32Max := by
    simp only [int32Max]
    omega
  have verdict : frameVerdict zlib mcStreamDecoderConfigInit (-1) (framed content ++ []) =
      .reject (.frameTooLarge, 0) :=
    frameVerdict_frameTooLarge (by rw [bare]; exact large) encodable []
  rw [List.append_nil] at verdict
  have wire : (mcClientSend (.ample zlib) 0 (.bytes payload) .sending).2.network.wire =
      framed content := written
  have memory : ¬ Heap.ample.Refuses mcDefaultMaxStreamBufferedSize :=
    Heap.ample_grants (by decide)
  -- the whole frame in one feed; the next one finds the decoder failed
  let calls := [feedOf (framed content) 1, feedOf [] 1]
  have reads : PeerReads zlib .ample (peerDecoder (-1)) (framed content) calls := by
    have valid : ∀ call ∈ calls, ¬ call.Invalid := by
      simp [calls, FeedCall.Invalid, feedOf, Buffer.Missing]
    have one : ∀ call ∈ calls, call.frameCapacity = 1 := by
      simp [calls, feedOf]
    have whole : (calls.map fun call => call.data.content).flatten = framed content := by
      simp [calls, feedOf, Buffer.content]
    refine ⟨valid, one, whole, fun last _ => .inr ?_, memory⟩
    have room : (Session.fresh : Session UInt8 StreamError).rest.length +
        (calls.map fun call => call.data.content).flatten.length ≤
        mcDefaultMaxStreamBufferedSize := by
      rw [whole, framed, List.length_append]
      simp only [Session.fresh, List.length_nil, mcDefaultMaxStreamBufferedSize]
      omega
    have ran : (feedAll zlib .ample calls (peerDecoder (-1))).2.Follows _ (-1) _ :=
      feedAll_one valid one (peerDecoder_follows (by decide)) memory room
    have first : ((Session.fresh : Session UInt8 StreamError).feed
        (frameScanner zlib mcStreamDecoderConfigInit (-1)) (framed content) 1).2.error =
        some (.frameTooLarge, 0) := by
      have rejects : (frameScanner zlib mcStreamDecoderConfigInit (-1)).take 1 (framed content) =
          ⟨[], 0, some (.frameTooLarge, 0)⟩ := Scanner.take_reject verdict
      change ((frameScanner zlib mcStreamDecoderConfigInit (-1)).take 1 (framed content)).error = _
      rw [rejects]
    have failed : ((Session.fresh : Session UInt8 StreamError).run
        (frameScanner zlib mcStreamDecoderConfigInit (-1)) (FeedCall.plan calls)).2.error =
        some (.frameTooLarge, 0) :=
      @Session.run_failed _ _ _ _ (FeedCall.plan [feedOf [] 1]) _ _ first
    rw [McStreamDecoder.Follows, failed] at ran
    exact ran.1
  refine ⟨calls, ?_, (reads.rejected (by decide) small verdict).1⟩
  rw [wire]
  exact reads

/-- A payload of 16 MiB is sent, and the peer does not return it. -/
theorem framing_limits_longest :
    let payload := Buffer.bytes (List.replicate mcMaxPacket 0)
    let zlib := Zlib.knowing [] []
    let sent := mcClientSend (.ample zlib) 0 payload .sending
    sent.1 = some () ∧
      ∃ calls, PeerReads zlib .ample (peerDecoder (-1)) sent.2.network.wire calls ∧
        (feedAll zlib .ample calls (peerDecoder (-1))).1 ≠
          [McOutboundPacket.received (-1) ⟨0, payload⟩] := by
  have length : (List.replicate mcMaxPacket (0 : UInt8)).length = mcMaxPacket :=
    List.length_replicate
  generalize List.replicate mcMaxPacket (0 : UInt8) = payload at length
  have large : mcDefaultMaxFrameSize < (encodeVarint 0 ++ payload).length := by
    have header := (encodeVarint_length 0).1
    rw [List.length_append, length]
    have limits : mcDefaultMaxFrameSize = mcMaxPacket := rfl
    omega
  obtain ⟨calls, reads, nothing⟩ := @peer_refuses (.knowing [] []) payload length.le large
  refine ⟨mcClientSend_sends (by decide) rfl rfl rfl rfl (by decide) length.le, calls, reads, ?_⟩
  rw [nothing]
  exact (List.cons_ne_nil _ _).symm

end McProtocol
