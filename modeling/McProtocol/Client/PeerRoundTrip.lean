import McProtocol.Client.Framing
import McProtocol.FeedLimits

/-! # The peer reads what was sent

A batch goes out as the frames of its packets in a row; a decoder under the same
threshold returns these packets, however the bytes arrive.
-/

namespace McProtocol

open Incremental

section Sending

variable {host : Host} {world after : World}

theorem sendLoop_complete {departures left : List Departure} {data written : List UInt8}
    (run : sendLoop departures data = (none, written, left)) : written = data := by
  induction departures, data using sendLoop.induct generalizing written left with
  | case1 departures =>
      rw [sendLoop] at run
      cases run
      rfl
  | case2 data some =>
      rw [sendLoop] at run
      · cases run
        rfl
      · exact some
  | case3 departures data some ih =>
      rw [sendLoop] at run
      · exact ih run
      · exact some
  | case4 reason departures data some =>
      rw [sendLoop] at run
      · cases run
      · exact some
  | case5 more departures data some stopped written' left' rest ih =>
      rw [sendLoop, rest] at run
      · cases run
        rw [ih rest, List.take_append_drop]
      · exact some

/-- Without transforms, what is sent is what goes on the wire. -/
theorem sendAll_plain {data : List UInt8} (plain : world.client.transforms = none)
    (run : sendAll host data world = (some (), after)) :
    after.network.wire = world.network.wire ++ data := by
  obtain ⟨wire, start, copied, written⟩ := Prog.bind_eq_some run
  rw [encryptStream, plain] at copied
  cases copied
  rw [writeSocket] at written
  split_ifs at written with nothing closed
  · cases written
    rw [List.length_eq_zero_iff.mp nothing, List.append_nil]
  · cases written
  · cases sent : sendLoop world.network.departures data with
    | mk stopped outcome =>
        rw [sent] at written
        cases stopped with
        | some reason => cases written
        | none =>
            cases written
            rw [sendLoop_complete sent]

theorem encodeFrame_payload {packetId : Int} {payload : Buffer} {wire : List UInt8}
    (run : encodeFrame host packetId payload world = (some wire, after)) :
    payload.content.length ≤ mcMaxPacket := by
  obtain ⟨_, _, checked, _⟩ := Prog.bind_eq_some run
  obtain ⟨valid, -⟩ := refuseIf_eq_some checked
  cases payload with
  | bytes content =>
      have size : ¬ mcMaxPacket < content.length := fun large => valid (.inr (.inl large))
      exact not_lt.mp size
  | null size => exact Nat.zero_le _

/-- A frame that was sent without transforms. -/
theorem sendFrame_eq_some {packetId : Int} {payload : Buffer} {u : Unit}
    (untransformed : world.client.transforms = none)
    (sent : sendFrame host packetId payload world = (some u, after)) :
    ∃ content, after.network.wire = world.network.wire ++ framed content ∧ 0 ≤ packetId ∧
      payload.content.length ≤ mcMaxPacket ∧
      encodedContent host.zlib world.client.compressionThreshold
        (encodeVarint packetId ++ payload.content) = some content := by
  rw [sendFrame_run] at sent
  rcases transmitted : transmit host packetId payload world with ⟨result, reached⟩
  rw [transmitted] at sent
  cases sent
  obtain ⟨wire, encoded, made, written⟩ := Prog.bind_eq_some transmitted
  obtain ⟨natural, content, rfl, chosen⟩ := encodeFrame_eq_some made
  have same := (encodeFrame_memoryOnly host packetId payload).steps world trivial
  rw [made] at same
  refine ⟨content, ?_, natural, encodeFrame_payload made, chosen⟩
  have plain : encoded.client.transforms = none := by
    rw [same.client]
    exact untransformed
  change reached.network.wire = _
  rw [sendAll_plain plain written, same.network]

/-- The bytes of a batch: a frame for each packet, behind what was there. -/
theorem batchLoop_eq_some {packets : List McOutboundPacket} {capacity : Nat}
    {batch whole : List UInt8}
    (run : batchLoop host packets capacity batch world = (some whole, after)) :
    SameButMemory world after ∧ ∃ contents,
      whole = batch ++ (contents.map framed).flatten ∧
        List.Forall₂ (fun packet content => 0 ≤ packet.packetId ∧
          encodedContent host.zlib world.client.compressionThreshold
            (encodeVarint packet.packetId ++ packet.payload.content) = some content)
          packets contents := by
  induction packets generalizing capacity batch world with
  | nil =>
      cases run
      exact ⟨memoryOnly.step_refl _, [], by simp, .nil⟩
  | cons packet packets ih =>
      obtain ⟨frame, framedWorld, encoded, afterFrame⟩ := Prog.bind_eq_some run
      obtain ⟨natural, content, rfl, chosen⟩ := encodeFrame_eq_some encoded
      have moved := (encodeFrame_memoryOnly host packet.packetId packet.payload).steps world trivial
      rw [encoded] at moved
      obtain ⟨_, sized, checked, afterCheck⟩ := Prog.bind_eq_some afterFrame
      obtain ⟨-, rfl⟩ := refuseIf_eq_some checked
      have finish (capacity : Nat) (start : World) (same : SameButMemory world start)
          (rest : batchLoop host packets capacity (batch ++ framed content) start =
            (some whole, after)) :
          SameButMemory world after ∧ ∃ contents,
            whole = batch ++ (contents.map framed).flatten ∧
              List.Forall₂ (fun packet content => 0 ≤ packet.packetId ∧
                encodedContent host.zlib world.client.compressionThreshold
                  (encodeVarint packet.packetId ++ packet.payload.content) = some content)
                (packet :: packets) contents := by
        obtain ⟨kept, contents, whole, good⟩ := ih rest
        rw [same.client] at good
        exact ⟨memoryOnly.step_trans same kept, content :: contents, by simp [whole],
          .cons ⟨natural, chosen⟩ good⟩
      by_cases grows : capacity < batch.length + (framed content).length
      · simp only [if_pos grows] at afterCheck
        obtain ⟨_, granted, allocated, rest⟩ := Prog.bind_eq_some afterCheck
        exact finish _ _ (memoryOnly.step_trans moved (allocate_eq_some allocated)) rest
      · simp only [if_neg grows] at afterCheck
        exact finish _ _ moved afterCheck

/-- Sending a batch writes a frame for each of its packets. -/
theorem sendBatch_eq_some {packets : List McOutboundPacket}
    (plain : world.client.transforms = none)
    (run : mcClientSendBatch host (.packets packets) world = (some (), after)) :
    ∃ contents, after.network.wire = world.network.wire ++ (contents.map framed).flatten ∧
      List.Forall₂ (fun packet content => 0 ≤ packet.packetId ∧
        encodedContent host.zlib world.client.compressionThreshold
          (encodeVarint packet.packetId ++ packet.payload.content) = some content)
        packets contents := by
  obtain ⟨_, start, connected, encoding⟩ := Prog.bind_eq_some run
  obtain ⟨client, observed, seen, checked⟩ := Prog.bind_eq_some connected
  cases seen
  obtain ⟨-, rfl⟩ := refuseIf_eq_some checked
  obtain ⟨batch, encodedWorld, looped, sending⟩ := Prog.bind_eq_some encoding
  obtain ⟨same, contents, whole, good⟩ := batchLoop_eq_some looped
  rw [List.nil_append] at whole
  refine ⟨contents, ?_, good⟩
  rw [← same.network, ← whole]
  by_cases nothing : batch.length = 0
  · rw [if_pos nothing] at sending
    cases sending
    rw [List.length_eq_zero_iff.mp nothing, List.append_nil]
  · rw [if_neg nothing] at sending
    exact sendAll_plain (same.client ▸ plain) sending

end Sending

/-- What a peer is to return for a packet sent under a threshold. -/
def McOutboundPacket.received (threshold : Int) (packet : McOutboundPacket) : StreamPacket where
  packetId := packet.packetId
  payload := packet.payload.content
  compressed := decide (0 ≤ threshold ∧
    threshold ≤ (encodeVarint packet.packetId ++ packet.payload.content).length)

/-- A packet whose frame and whose plain bytes are within a decoder's limits. -/
def McOutboundPacket.Within (zlib : Zlib) (config : McStreamDecoderConfig) (threshold : Int)
    (packet : McOutboundPacket) : Prop :=
  (encodeVarint packet.packetId ++ packet.payload.content).length ≤ config.maxDecompressedSize ∧
    ∀ content ∈ encodedContent zlib threshold
      (encodeVarint packet.packetId ++ packet.payload.content),
        content.length ≤ config.maxFrameSize

instance (zlib : Zlib) (config : McStreamDecoderConfig) (threshold : Int) :
    DecidablePred (McOutboundPacket.Within zlib config threshold) :=
  fun _ => inferInstanceAs (Decidable (_ ∧ _))

/-- What a packet takes of a peer's buffers. -/
def McOutboundPacket.frameSize (zlib : Zlib) (threshold : Int) (packet : McOutboundPacket) :
    FrameSize where
  wire := ((encodedContent zlib threshold (encodeVarint packet.packetId ++ packet.payload.content)).map
    fun content => (framed content).length).getD 0
  plain := (encodeVarint packet.packetId ++ packet.payload.content).length

/-- The frames a batch is sent in. -/
theorem exists_framedPackets {zlib : Zlib} {config : McStreamDecoderConfig} {threshold : Int}
    (roundTrips : zlib.RoundTrips) {packets : List McOutboundPacket}
    (ids : ∀ packet ∈ packets, IsInt32 packet.packetId)
    (within : ∀ packet ∈ packets, packet.Within zlib config threshold)
    {contents : List (List UInt8)}
    (good : List.Forall₂ (fun packet content => 0 ≤ packet.packetId ∧
      encodedContent zlib threshold (encodeVarint packet.packetId ++ packet.payload.content) =
        some content) packets contents) :
    ∃ frames : List FramedPacket,
      frames.map FramedPacket.packet = packets.map (McOutboundPacket.received threshold) ∧
        FramedPacket.stream frames = (contents.map framed).flatten ∧
        frames.map FramedPacket.size = packets.map (McOutboundPacket.frameSize zlib threshold) ∧
        ∀ frame ∈ frames, FramedAs zlib config threshold frame.packet frame.content := by
  induction good with
  | nil => exact ⟨[], rfl, rfl, rfl, by simp⟩
  | @cons packet content packets contents first others ih =>
      obtain ⟨id, ids⟩ := List.forall_mem_cons.mp ids
      obtain ⟨⟨plain, frame⟩, within⟩ := List.forall_mem_cons.mp within
      obtain ⟨natural, encoded⟩ := first
      obtain ⟨frames, shown, stream, sizes, framedAs⟩ := ih ids within
      have size : FramedPacket.size ⟨packet.received threshold, content⟩ =
          packet.frameSize zlib threshold := by
        rw [McOutboundPacket.frameSize, encoded]
        rfl
      refine ⟨⟨packet.received threshold, content⟩ :: frames, ?_, ?_, ?_, ?_⟩
      · rw [List.map_cons, List.map_cons, shown]
      · rw [FramedPacket.stream_cons, stream]
        rfl
      · rw [List.map_cons, List.map_cons, size, sizes]
      · exact List.forall_mem_cons.mpr ⟨⟨id, natural, contentOf_encoded roundTrips encoded, rfl,
          frame content encoded, plain⟩, framedAs⟩

/-- A batch that was sent is what the peer's decoder returns, in order and with the
compressed flag telling whether the threshold was reached, and nothing stays behind, as long
as no feed takes more than the decoder's limits. -/
theorem peer_round_trip (host : Host) (roundTrips : host.zlib.RoundTrips)
    (sender : World) {after : World} (packets : List McOutboundPacket)
    (untransformed : sender.client.transforms = none)
    (ids : ∀ packet ∈ packets, IsInt32 packet.packetId)
    (sent : mcClientSendBatch host (.packets packets) sender = (some (), after))
    (config : Option McStreamDecoderConfig) {decoder : McStreamDecoder}
    (created : mcStreamDecoderCreate config true = .ok decoder)
    (set : (mcStreamDecoderSetCompression decoder sender.client.compressionThreshold).1 = none)
    (within : ∀ packet ∈ packets, packet.Within host.zlib
      (config.getD mcStreamDecoderConfigInit) sender.client.compressionThreshold) :
    ∃ stream, after.network.wire = sender.network.wire ++ stream ∧
      ∀ (heap : Heap) (calls : List FeedCall),
        ¬ heap.Refuses (max (config.getD mcStreamDecoderConfigInit).maxBufferedSize
          (config.getD mcStreamDecoderConfigInit).maxOutputSize) →
        (∀ call ∈ calls, ¬ call.Invalid) →
        (calls.map fun call => call.data.content).flatten = stream →
        FeedsFit (config.getD mcStreamDecoderConfigInit) (packets.map
          (McOutboundPacket.frameSize host.zlib sender.client.compressionThreshold)) 0 calls →
        let received := feedAll host.zlib heap calls
          (mcStreamDecoderSetCompression decoder sender.client.compressionThreshold).2
        received.1 =
            packets.map (McOutboundPacket.received sender.client.compressionThreshold) ∧
          (mcStreamDecoderFinish received.2).1 = none ∧
          mcStreamDecoderBufferedSize received.2 = 0 := by
  obtain ⟨contents, written, good⟩ := sendBatch_eq_some untransformed sent
  obtain ⟨frames, shown, stream, sizes, framedAs⟩ := exists_framedPackets roundTrips ids within good
  refine ⟨(contents.map framed).flatten, written, ?_⟩
  intro heap calls memory valid whole fits received
  obtain ⟨accepted, follows⟩ := follows_fresh created set
  rw [← sizes] at fits
  obtain ⟨packets', last, followed, clean, nothing⟩ :=
    feedAll_fits accepted memory valid framedAs rfl follows (whole.trans stream.symm) fits
  have state := followed
  rw [McStreamDecoder.Follows, clean] at state
  refine ⟨packets'.trans shown, ?_, ?_⟩
  · rw [finish_follows followed, finishError, clean, nothing]
    rfl
  · rw [mcStreamDecoderBufferedSize, state.2.2.2.1, nothing]
    rfl

/-- Two packets, one of which reaches the threshold, at a decoder that has no room for both at
once: they arrive in pieces that end inside a frame. -/
theorem peer_round_trip_two :
    let host := Host.ample (.knowing [7, 42] [120, 156, 99, 215, 2, 0, 0, 58, 0, 50])
    let config : McStreamDecoderConfig := ⟨11, 2, 16, 2, .strict⟩
    let decoder := (mcStreamDecoderSetCompression
      ((mcStreamDecoderCreate (some config) true).toOption.get (by decide)) 2).2
    let calls := [feedOf [11, 2, 120, 156, 99] 1, feedOf [215, 2, 0, 0, 58, 0, 50, 2] 1,
      feedOf [0, 1] 2, feedOf [] 1]
    let received := feedAll host.zlib .ample calls decoder
    received.1 = [⟨7, [42], true⟩, ⟨1, [], false⟩] ∧
      (mcStreamDecoderFinish received.2).1 = none ∧
      mcStreamDecoderBufferedSize received.2 = 0 := by
  intro host config decoder calls received
  let client := (mcClientCreate 772 true true).toOption.get (by decide)
  let sender := World.around
    { client with socketFd := 3, state := .play, compressionThreshold := 2 }
  let packets : List McOutboundPacket := [⟨7, .bytes [42]⟩, ⟨1, .null 0⟩]
  let sent := mcClientSendBatch host (.packets packets) sender
  obtain ⟨stream, written, delivered⟩ := peer_round_trip host (Zlib.knowing_roundTrips _ _) sender
    packets rfl (by decide) (show sent = (some (), sent.2) from Prod.ext (by decide +kernel) rfl)
    (some config) rfl rfl (by decide +kernel)
  have wire : sent.2.network.wire =
      [11, 2, 120, 156, 99, 215, 2, 0, 0, 58, 0, 50, 2, 0, 1] := by
    decide +kernel
  have nothing : sender.network.wire = [] := rfl
  rw [wire, nothing, List.nil_append] at written
  have expected : [⟨7, [42], true⟩, ⟨1, [], false⟩] =
      packets.map (McOutboundPacket.received 2) := by
    decide +kernel
  rw [expected]
  exact delivered .ample calls (Heap.ample_grants (by decide)) (by decide) written
    (by decide +kernel)

/-- The same limits for a decoder that is given two packets in one feed: each of them is within
the limits, both together are not, and the feed is refused. -/
theorem peer_round_trip_crowded :
    let host := Host.ample (.knowing [] [])
    let client := (mcClientCreate 772 true true).toOption.get (by decide)
    let sender := World.around { client with socketFd := 3, state := .play }
    let packets : List McOutboundPacket := [⟨7, .bytes [1]⟩, ⟨7, .bytes [2]⟩]
    let config : McStreamDecoderConfig := ⟨64, 2, 128, 3, .strict⟩
    let decoder := (mcStreamDecoderSetCompression
      ((mcStreamDecoderCreate (some config) true).toOption.get (by decide)) (-1)).2
    let sent := mcClientSendBatch host (.packets packets) sender
    let received := feedAll host.zlib .ample [feedOf [2, 7, 1, 2, 7, 2] 2, feedOf [] 2] decoder
    sent.1 = some () ∧ sent.2.network.wire = [2, 7, 1, 2, 7, 2] ∧
      (∀ packet ∈ packets, packet.Within host.zlib config (-1)) ∧
      received.1 ≠ packets.map (McOutboundPacket.received (-1)) ∧
      (mcStreamDecoderFinish received.2).1 =
        some { mcErrorClear with code := .bufferLimit, offset := 4 } := by
  decide +kernel

end McProtocol
