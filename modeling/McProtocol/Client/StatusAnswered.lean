import McProtocol.Client.StatusPing

/-! # A status ping that is answered

Where a server answers, and nothing fails, the ping succeeds, whatever the chunks are in which the
answers arrive.
-/

namespace McProtocol

open Incremental

/-- Nothing that is sent fails. -/
def Network.Takes (network : Network) : Prop :=
  ∀ departure ∈ network.departures, ∀ reason, departure ≠ .failed reason

theorem sendLoop_takes {departures : List Departure} {data : List UInt8}
    (takes : ∀ departure ∈ departures, ∀ reason, departure ≠ .failed reason) :
    (sendLoop departures data).1 = none ∧
      ∀ departure ∈ (sendLoop departures data).2.2, departure ∈ departures := by
  induction departures, data using sendLoop.induct with
  | case1 departures =>
      rw [sendLoop]
      exact ⟨rfl, fun _ mem => mem⟩
  | case2 data some =>
      rw [sendLoop]
      · exact ⟨rfl, fun _ mem => mem⟩
      · exact some
  | case3 departures data some ih =>
      rw [sendLoop]
      · obtain ⟨whole, fewer⟩ := ih fun departure mem => takes departure (List.mem_cons_of_mem _ mem)
        exact ⟨whole, fun departure mem => List.mem_cons_of_mem _ (fewer departure mem)⟩
      · exact some
  | case4 reason departures data some =>
      exact absurd rfl (takes (.failed reason) List.mem_cons_self reason)
  | case5 more departures data some stopped written left rest ih =>
      rw [sendLoop, rest]
      · obtain ⟨whole, fewer⟩ := ih fun departure mem => takes departure (List.mem_cons_of_mem _ mem)
        rw [rest] at whole fewer
        exact ⟨whole, fun departure mem => List.mem_cons_of_mem _ (fewer departure mem)⟩
      · exact some

/-- A connection without compression or transforms, on which nothing that is sent fails. -/
structure World.Speaks (world : World) : Prop where
  connected : 0 ≤ world.client.socketFd
  untransformed : world.client.transforms = none
  bare : world.client.compressionThreshold = -1
  takes : world.network.Takes

section Sending

variable {host : Host} {world : World}

theorem allocate_provided (provides : host.Provides) {size : Nat}
    (small : size ≤ mcDefaultMaxStreamBufferedSize) (message : String) (world : World) :
    allocate host size message world =
      (some (), { world with allocated := world.allocated + 1 }) := by
  have granted : host.heap.grant world.allocated size = true := by
    by_contra refused
    exact provides.heap ⟨_, _, small, Bool.eq_false_of_not_eq_true refused⟩
  exact if_pos granted

theorem encodeFrame_bare (provides : host.Provides) {packetId : Int} {payload : Buffer}
    (natural : 0 ≤ packetId) (there : ¬ payload.Missing) (limit : payload.size ≤ mcMaxPacket)
    (small : payload.content.length ≤ mcMaxPacket)
    (bare : world.client.compressionThreshold = -1) :
    encodeFrame host packetId payload world =
      (some (framed (encodeVarint packetId ++ payload.content)),
        { world with allocated := world.allocated + 1 + 1 }) := by
  have header := (encodeVarint_length packetId).2
  let plain := encodeVarint packetId ++ payload.content
  have length : plain.length ≤ mcMaxPacket + 5 := by
    simp only [plain, List.length_append]
    omega
  have outer := (encodeVarint_length plain.length).2
  have limits : mcMaxPacket + 10 ≤ mcDefaultMaxStreamBufferedSize := by decide
  have valid : ¬ (packetId < 0 ∨ mcMaxPacket < payload.size ∨ payload.Missing) := by
    rw [not_or, not_or]
    exact ⟨not_lt.mpr natural, not_lt.mpr limit, there⟩
  have encodable : ¬ int32Max < plain.length := by
    have wide : mcMaxPacket + 5 ≤ int32Max := by decide
    omega
  have content (start : World) (off : start.client.compressionThreshold = -1) :
      frameContent host plain start = (some ([], plain), start) := by
    have negative : start.client.compressionThreshold < 0 := by
      rw [off]
      decide
    refine (Prog.bind_some rfl).trans ?_
    rw [if_pos negative]
    rfl
  have wireLength : (encodeVarint plain.length ++ plain).length ≤ mcDefaultMaxStreamBufferedSize := by
    rw [List.length_append]
    omega
  refine (Prog.bind_some (refuseIf_neg valid)).trans ?_
  refine (Prog.bind_some (allocate_provided provides (by omega : plain.length ≤ _) _ _)).trans ?_
  refine (Prog.bind_some (content { world with allocated := world.allocated + 1 } bare)).trans ?_
  refine (Prog.bind_some (refuseIf_neg encodable)).trans ?_
  exact (Prog.bind_some (allocate_provided provides wireLength _ _)).trans rfl

/-- Such a connection sends whatever is not too long. -/
theorem sendFrame_speaks (provides : host.Provides) (speaks : world.Speaks) (packetId : Int)
    (payload : Buffer) (natural : 0 ≤ packetId) (there : ¬ payload.Missing)
    (limit : payload.size ≤ mcMaxPacket) (small : payload.content.length ≤ mcMaxPacket) :
    ∃ after, sendFrame host packetId payload world = (some (), after) ∧ after.Speaks ∧
      SameIncoming world after ∧ after.network.wire =
        world.network.wire ++ framed (encodeVarint packetId ++ payload.content) := by
  have encoded := encodeFrame_bare provides natural there limit small speaks.bare
  generalize framed (encodeVarint packetId ++ payload.content) = wire at encoded ⊢
  let middle : World := { world with allocated := world.allocated + 1 + 1 }
  have copied : encryptStream host wire middle = (some wire, middle) := by
    unfold encryptStream
    rw [show middle.client.transforms = none from speaks.untransformed]
  obtain ⟨whole, fewer⟩ := @sendLoop_takes world.network.departures wire speaks.takes
  have written : ∃ last, writeSocket wire middle = (some (), last) ∧ last.network.Takes := by
    unfold writeSocket
    split_ifs with nothing closed
    · exact ⟨_, rfl, speaks.takes⟩
    · exact absurd speaks.connected (not_le.mpr closed)
    · change (sendLoop middle.network.departures wire).1 = none at whole
      rcases looped : sendLoop middle.network.departures wire with ⟨stopped, written, left⟩
      rw [looped] at whole
      obtain rfl : stopped = none := whole
      rw [show sendLoop world.network.departures wire = _ from looped] at fewer
      exact ⟨_, rfl, fun departure mem => speaks.takes departure (fewer departure mem)⟩
  obtain ⟨last, run, takes⟩ := written
  have transmitted : transmit host packetId payload world = (some (), last) :=
    (Prog.bind_some encoded).trans ((Prog.bind_some copied).trans run)
  have plain := @sendAll_plain host middle last wire speaks.untransformed
    ((Prog.bind_some copied).trans run)
  have incoming := sendFrame_unread host packetId payload world
  have moved := (sendFrame_sending host packetId payload).moves world
  have sent := sendFrame_run host packetId payload world
  rw [transmitted] at sent
  rw [sent] at incoming moved
  refine ⟨_, sent, ⟨?_, ?_, ?_, takes⟩, incoming, plain⟩
  · rw [moved.client]
    exact speaks.connected
  · rw [moved.client]
    exact speaks.untransformed
  · rw [moved.client]
    exact speaks.bare

end Sending

/-- Nothing arrives but bytes. -/
def OnlyBytes (arrivals : List Arrival) : Prop := ∀ arrival ∈ arrivals, ∃ chunk, arrival = .bytes chunk

theorem receiveLoop_onlyBytes {arrivals : List Arrival} (only : OnlyBytes arrivals) (capacity : Nat)
    (waits : List Wait) :
    (receiveLoop capacity arrivals waits).2.2 = waits ∧
      OnlyBytes (receiveLoop capacity arrivals waits).2.1 := by
  cases arrivals with
  | nil => exact ⟨rfl, only⟩
  | cons arrival arrivals =>
      obtain ⟨first, others⟩ := List.forall_mem_cons.mp only
      obtain ⟨chunk, rfl⟩ := first
      cases chunk with
      | nil => exact ⟨rfl, others⟩
      | cons byte chunk =>
          rw [receiveLoop]
          refine ⟨rfl, ?_⟩
          dsimp only
          split_ifs with nothing
          · exact others
          · exact List.forall_mem_cons.mpr ⟨⟨_, rfl⟩, others⟩

/-- What is left alone while frames are read. -/
structure OnlyRead (before after : World) : Prop where
  departures : after.network.departures = before.network.departures
  wire : after.network.wire = before.network.wire
  threshold : after.client.compressionThreshold = before.client.compressionThreshold
  waits : OnlyBytes before.network.arrivals →
    after.network.waits = before.network.waits ∧ OnlyBytes after.network.arrivals

def onlyReading : Discipline World :=
  .moving OnlyRead (fun _ => ⟨rfl, rfl, rfl, fun only => ⟨rfl, only⟩⟩) fun _ _ _ left right =>
    { departures := right.departures.trans left.departures
      wire := right.wire.trans left.wire
      threshold := right.threshold.trans left.threshold
      waits := fun only => by
        obtain ⟨waits, only'⟩ := left.waits only
        obtain ⟨waits', only''⟩ := right.waits only'
        exact ⟨waits'.trans waits, only''⟩ }

theorem onlyReading_frames (host : Host) : CoversFrames host onlyReading where
  remembers lawful := .of_steps fun world => by
    have same := lawful.steps world trivial
    refine ⟨?_, ?_, ?_, fun only => ⟨?_, ?_⟩⟩
    · rw [same.network]
    · rw [same.network]
    · rw [same.client]
    · rw [same.network]
    · rw [same.network]
      exact only
  feeds data := by
    apply Discipline.Lawful.of_steps
    intro world
    obtain ⟨error, same⟩ := feedOne_after host data world
    rw [same]
    exact ⟨rfl, rfl, rfl, fun only => ⟨rfl, only⟩⟩
  receives capacity := by
    apply Discipline.Lawful.of_steps
    intro world
    obtain ⟨arrivals, waits, received, error, decrypted, same, queues⟩ :=
      receiveSome_after capacity world
    rw [same]
    refine ⟨rfl, rfl, rfl, fun only => ?_⟩
    obtain ⟨rfl, rfl⟩ | looped := queues
    · exact ⟨rfl, only⟩
    · have read := receiveLoop_onlyBytes only capacity world.network.waits
      rw [← looped] at read
      exact read

section Reading

variable {host : Host} {world : World}

/-- At the front of what is ahead, where nothing fails, and as many waits come to something. -/
structure World.Served (ahead : List UInt8) (waits : Nat) (world : World) : Prop where
  speaks : world.Speaks
  ahead : AtFrame (-1) ahead world
  only : OnlyBytes world.network.arrivals
  waits : List.replicate waits Wait.ready <+: world.network.waits

theorem atFrame_incoming {threshold : Int} {ahead : List UInt8} {world after : World}
    (atFrame : AtFrame threshold ahead world) (same : SameIncoming world after) :
    AtFrame threshold ahead after := by
  obtain ⟨buffer, chunks, reading, front⟩ := atFrame
  refine ⟨buffer, chunks, ⟨?_, ?_, ?_, reading.small, ?_, reading.filled⟩, front⟩
  · rw [same.socketFd]
    exact reading.connected
  · rw [same.transforms]
    exact reading.untransformed
  · rw [same.decoder]
    exact reading.holds
  · rw [same.arrivals]
    exact reading.arrivals

theorem World.Served.incoming {ahead : List UInt8} {waits : Nat} {world after : World}
    (served : world.Served ahead waits) (speaks : after.Speaks) (same : SameIncoming world after) :
    after.Served ahead waits where
  speaks := speaks
  ahead := atFrame_incoming served.ahead same
  only := by
    rw [same.arrivals]
    exact served.only
  waits := by
    rw [same.waits]
    exact served.waits

theorem readFrame_served (provides : host.Provides) {packet : StreamPacket}
    {content rest : List UInt8} {waits : Nat}
    (good : FramedAs host.zlib mcStreamDecoderConfigInit (-1) packet content)
    (served : world.Served (framed content ++ rest) waits) :
    ∃ after, readFrame host world = (some packet.plain, after) ∧ after.Served rest waits ∧
      after.network.wire = world.network.wire := by
  obtain ⟨after, run, atRest, -⟩ := readFrame_run provides good served.ahead
  have read : onlyReading.Lawful (readFrame host) :=
    .of_steps fun world => ((onlyReading_frames host).readFrameLoop_lawful _).moves world
  have moved := read.moves world
  rw [run] at moved
  obtain ⟨still, only⟩ := moved.waits served.only
  have reading := atRest
  obtain ⟨_, _, reading, -⟩ := reading
  refine ⟨after, run, ⟨⟨reading.connected, reading.untransformed, ?_, ?_⟩, atRest, only, ?_⟩,
    moved.wire⟩
  · rw [moved.threshold]
    exact served.speaks.bare
  · rw [Network.Takes, moved.departures]
    exact served.speaks.takes
  · rw [still]
    exact served.waits

/-- The next packet is returned: it is waited for where it is not there yet. -/
theorem statusReadPacket_served (provides : host.Provides) {packet : StreamPacket}
    {content rest : List UInt8} {waits : Nat}
    (good : FramedAs host.zlib mcStreamDecoderConfigInit (-1) packet content)
    (served : world.Served (framed content ++ rest) (waits + 1)) :
    ∃ body after, statusReadPacket host world = (some (packet.packetId, body), after) ∧
      body.mode = .vanillaCompat ∧ body.Before packet.payload ∧ after.Served rest waits ∧
      after.network.wire = world.network.wire := by
  have ready : ∃ ready, (∀ waiting : ClientM Unit,
        (∀ between, backendWait world = (some .ready, between) →
          waiting world = (some (), between)) →
        Prog.when (streamDecoderFrameReady world.client.streamDecoder = false) waiting world =
          (some (), ready)) ∧
      ready.Served (framed content ++ rest) waits ∧
        ready.network.wire = world.network.wire := by
    obtain ⟨others, split⟩ := served.waits
    rw [List.replicate_succ, List.cons_append] at split
    by_cases buffered : streamDecoderFrameReady world.client.streamDecoder = false
    · have waited : backendWait world = (some .ready, { world with network := { world.network with
          waits := List.replicate waits .ready ++ others } }) := by
        unfold backendWait
        rw [← split]
      refine ⟨_, fun waiting waits => (Prog.when_pos buffered).trans (waits _ waited), ?_, rfl⟩
      obtain ⟨buffer, chunks, reading, front⟩ := served.ahead
      exact ⟨⟨served.speaks.connected, served.speaks.untransformed, served.speaks.bare,
        served.speaks.takes⟩, ⟨buffer, chunks, ⟨reading.connected, reading.untransformed,
        reading.holds, reading.small, reading.arrivals, reading.filled⟩, front⟩, served.only,
        List.prefix_append _ _⟩
    · refine ⟨world, fun waiting _ => Prog.when_neg buffered,
        ⟨served.speaks, served.ahead, served.only, ?_⟩, rfl⟩
      refine List.IsPrefix.trans ?_ served.waits
      rw [List.replicate_succ']
      exact List.prefix_append _ _
  obtain ⟨ready, waited, served', wire⟩ := ready
  obtain ⟨after, read, behind, wire'⟩ := readFrame_served provides good served'
  have start : (mcReaderInit packet.plain).Before (encodeVarint packet.packetId ++ packet.payload) :=
    mcReaderInit_before packet.plain
  have identified := mcReaderVarint_run good.id start
  refine ⟨_, after, ?_, ?_, start.advance, behind, wire'.trans wire⟩
  · refine (Prog.bind_some rfl).trans ((Prog.bind_some (waited _ ?_)).trans
      ((Prog.bind_some read).trans ?_))
    · intro between woken
      exact (Prog.bind_some woken).trans rfl
    · rw [identified]
      rfl
  · rfl

end Reading

/-- Arguments with which there can be an answer. -/
structure StatusRequest.Valid (request : StatusRequest) : Prop where
  known : mcProtocolSupported request.protocol = true
  address : request.address ≠ []
  short : request.hello.length ≤ 512
  timeout : request.timeoutMs ≠ 0
  number : IsInt64 request.nonce

def statusResponse (json : List UInt8) : StreamPacket :=
  ⟨0x00, encodeVarint json.length ++ json, false⟩

def StatusRequest.pong (request : StatusRequest) : StreamPacket := ⟨0x01, request.number, false⟩

/-- A server that takes the connection and answers in some chunks, on a network that does not fail. -/
structure World.Answers (world : World) (request : StatusRequest) (json : List UInt8) : Prop where
  dials : ∃ socketFd connections, world.network.connections = .ok socketFd :: connections
  starts : ∀ reason, world.network.backends.head? ≠ some (.error reason)
  takes : world.network.Takes
  waits : [.ready, .ready] <+: world.network.waits
  arrives : ∃ (chunks : List (List UInt8)) (trailing : List UInt8),
    world.network.arrivals = chunks.map .bytes ∧ [] ∉ chunks ∧ chunks.flatten =
      framed (statusResponse json).plain ++ (framed request.pong.plain ++ trailing)

section Answering

variable {host : Host} {request : StatusRequest} {world : World}

theorem framedAs_bare {zlib : Zlib} {packet : StreamPacket} (id : IsInt32 packet.packetId)
    (natural : 0 ≤ packet.packetId) (plain : packet.compressed = false)
    (small : packet.plain.length ≤ mcDefaultMaxFrameSize) :
    FramedAs zlib mcStreamDecoderConfigInit (-1) packet packet.plain where
  id := id
  natural := natural
  shape := .bare (by decide)
  compressed := by
    rw [plain, eq_comm, decide_eq_false_iff_not]
    omega
  frame_le := small
  plain_le := small

theorem framedAs_response {zlib : Zlib} {json : List UInt8}
    (text : json.length ≤ mcDefaultMaxStringBytes) :
    FramedAs zlib mcStreamDecoderConfigInit (-1) (statusResponse json) (statusResponse json).plain := by
  refine framedAs_bare (show IsInt32 0 by decide) (le_refl (0 : Int)) rfl ?_
  have header := (encodeVarint_length 0).2
  have size := (encodeVarint_length json.length).2
  have limits : mcDefaultMaxStringBytes + 10 ≤ mcDefaultMaxFrameSize := by decide
  simp only [StreamPacket.plain, statusResponse, List.length_append]
  omega

theorem framedAs_pong {zlib : Zlib} :
    FramedAs zlib mcStreamDecoderConfigInit (-1) request.pong request.pong.plain := by
  refine framedAs_bare (show IsInt32 1 by decide) (show (0 : Int) ≤ 1 by decide) rfl ?_
  have header := (encodeVarint_length 1).2
  have limits : 13 ≤ mcDefaultMaxFrameSize := by decide
  simp only [StreamPacket.plain, StatusRequest.pong, StatusRequest.number, List.length_append,
    BigEndian.length_bytes]
  omega

theorem sendBuilder_speaks (provides : host.Provides) (speaks : world.Speaks) (packetId : Int)
    {build : WriteM Unit} {bytes : List UInt8} (writes : Writes build bytes)
    (room : bytes.length ≤ 512) (natural : 0 ≤ packetId) :
    ∃ after, sendBuilder host packetId (buildPacket 512 build).2 world = (some (), after) ∧
      after.Speaks ∧ SameIncoming world after ∧
        after.network.wire = world.network.wire ++ framed (encodeVarint packetId ++ bytes) := by
  obtain ⟨packet, built, clean, body⟩ := writes.build room
  have unrefused : ¬ packet.failed = true := by simp [clean]
  have limits : 512 ≤ mcMaxPacket := by decide
  obtain ⟨after, sent, rest⟩ := sendFrame_speaks provides speaks packetId (.bytes bytes) natural
    (fun missing => missing) (room.trans limits) (room.trans limits)
  refine ⟨after, ?_, rest⟩
  rw [built]
  refine (Prog.bind_some (refuseIf_neg unrefused)).trans ?_
  rw [body]
  exact sent

theorem requestStatus_served (provides : host.Provides) (valid : request.Valid) {json rest : List UInt8}
    (room : json.length < request.jsonCapacity) (text : json.length ≤ mcDefaultMaxStringBytes)
    {waits : Nat}
    (served : world.Served (framed (statusResponse json).plain ++ rest) (waits + 1)) :
    ∃ after, requestStatus host request world = (some json, after) ∧ after.Served rest waits ∧
      after.network.wire = world.network.wire ++ framed (encodeVarint 0x00 ++ request.hello) ++
        framed (encodeVarint 0x00) := by
  have long : request.address.length ≤ int32Max := by
    have short := valid.short
    simp only [StatusRequest.hello, List.length_append] at short
    simp only [int32Max]
    omega
  obtain ⟨greeted, greeting, speaks, same, wire⟩ := sendBuilder_speaks provides
    served.speaks 0x00 (emits_hello.complete ⟨long, rfl⟩) valid.short (by decide)
  obtain ⟨asked, asking, speaks', same', wire'⟩ := sendFrame_speaks provides speaks 0x00
    (.null 0) (by decide) (by decide) (Nat.zero_le _) (Nat.zero_le _)
  obtain ⟨body, read, reads, mode, before, atRest, wire''⟩ := statusReadPacket_served provides
    (framedAs_response text) ((served.incoming speaks same).incoming speaks' same')
  have parsed : mcReaderString.run body = (some json, body.advance (statusResponse json).payload.length) := by
    have strings : IsInt32 (json.length : Int) := isInt32_length (by
      simp only [mcDefaultMaxStringBytes] at text
      simp only [int32Max]
      omega)
    refine accepts_string.complete ⟨text, encodeVarint json.length, isVarint_encode strings, rfl⟩ body []
      mode ?_
    rw [List.append_nil]
    exact before
  have done : mcReaderRemaining (body.advance (statusResponse json).payload.length) = 0 := by
    rw [← List.append_nil (statusResponse json).payload] at before
    exact before.advance.remaining
  refine ⟨read, ?_, atRest, ?_⟩
  · unfold requestStatus
    refine (Prog.bind_some greeting).trans ((Prog.bind_some asking).trans ((Prog.bind_some reads).trans ?_))
    dsimp only
    rw [if_pos (show (statusResponse json).packetId = 0x00 from rfl), parsed]
    refine (Prog.bind_some (refuseIf_neg (not_le.mpr room))).trans ?_
    exact (Prog.bind_some (refuseIf_neg (not_not.mpr done))).trans rfl
  · rw [wire'', wire', wire]
    simp only [Buffer.content, List.append_nil]

theorem pingStatus_served (provides : host.Provides) (valid : request.Valid) {rest : List UInt8}
    {waits : Nat} (served : world.Served (framed request.pong.plain ++ rest) (waits + 1)) :
    ∃ after, pingStatus host request world = (some (), after) ∧
      after.network.wire = world.network.wire ++ framed (encodeVarint 0x01 ++ request.number) := by
  obtain ⟨pinged, pinging, speaks, same, wire⟩ := sendBuilder_speaks provides
    served.speaks 0x01 ((Emits.i64 request.nonce).complete rfl)
    (by rw [BigEndian.length_bytes]; decide) (by decide)
  obtain ⟨body, read, reads, mode, before, -, wire'⟩ := statusReadPacket_served provides
    framedAs_pong (served.incoming speaks same)
  have parsed : mcReaderI64.run body = (some request.nonce, body.advance request.number.length) := by
    refine accepts_i64.complete ⟨valid.number, rfl⟩ body [] mode ?_
    rw [List.append_nil]
    exact before
  have done : mcReaderRemaining (body.advance request.number.length) = 0 := by
    change body.Before request.number at before
    rw [← List.append_nil request.number] at before
    exact before.advance.remaining
  refine ⟨read, ?_, ?_⟩
  · unfold pingStatus
    refine (Prog.bind_some pinging).trans ((Prog.bind_some reads).trans ?_)
    dsimp only
    rw [if_pos (show request.pong.packetId = 0x01 from rfl), parsed]
    refine refuseIf_neg ?_
    rw [not_or, not_not, not_not]
    exact ⟨rfl, done⟩
  · rw [wire', wire]
    rfl

theorem backendInit_starts (world : World)
    (starts : ∀ reason, world.network.backends.head? ≠ some (.error reason)) :
    ∃ after, backendInit world = (some (), after) ∧ after.client = world.client ∧
      after.network = { world.network with backends := after.network.backends } := by
  unfold backendInit
  rcases there : world.network.backends with _ | ⟨reason | u, backends⟩
  · exact ⟨world, rfl, rfl, rfl⟩
  · rw [there] at starts
    exact absurd rfl (starts reason)
  · exact ⟨_, rfl, rfl, rfl⟩

theorem statusConnect_served {json : List UInt8} (answers : world.Answers request json)
    (untransformed : world.client.transforms = none)
    (bare : world.client.compressionThreshold = -1)
    (holds : world.client.streamDecoder.Holds (-1) []) :
    ∃ after trailing, statusConnect world = (some (), after) ∧
      after.Served (framed (statusResponse json).plain ++ (framed request.pong.plain ++ trailing)) 2 ∧
        after.network.wire = world.network.wire := by
  obtain ⟨socketFd, connections, dials⟩ := answers.dials
  obtain ⟨chunks, trailing, arrivals, filled, stream⟩ := answers.arrives
  let dialled : World :=
    { world with
      client := { world.client with socketFd := socketFd }
      network := { world.network with connections := connections } }
  have dial : connectTcp world =
      (some socketFd, { world with network := { world.network with connections := connections } }) := by
    unfold connectTcp
    rw [dials]
  obtain ⟨after, start, client, network⟩ := backendInit_starts dialled answers.starts
  have attach : modifyClient (fun client => { client with socketFd := socketFd })
      { world with network := { world.network with connections := connections } } =
        (some (), dialled) := rfl
  have connected : 0 ≤ after.client.socketFd := by
    rw [client]
    exact Int.natCast_nonneg socketFd
  have plain : after.client.transforms = none := by
    rw [client]
    exact untransformed
  refine ⟨after, trailing, (Prog.bind_some dial).trans ((Prog.bind_some attach).trans start),
    ⟨⟨connected, plain, ?_, ?_⟩, ⟨[], chunks, ⟨connected, plain, ?_, Nat.zero_le _, ?_, filled⟩,
      stream⟩, ?_, ?_⟩, ?_⟩
  · rw [client]
    exact bare
  · rw [network]
    exact answers.takes
  · rw [client]
    exact holds
  · rw [network]
    exact arrivals
  · rw [network]
    change OnlyBytes world.network.arrivals
    rw [arrivals]
    intro arrival mem
    obtain ⟨chunk, -, rfl⟩ := List.mem_map.mp mem
    exact ⟨chunk, rfl⟩
  · rw [network]
    exact answers.waits
  · rw [network]

theorem disconnect_wire (host : Host) (world : World) :
    (mcClientDisconnect host .none world).2.network = world.network := by
  have listens : App.none.Listens := ⟨nofun, nofun⟩
  obtain ⟨events, run⟩ := changeState_listens listens host .disconnected
    { world with client := { world.client with stop := true, socketFd := -1 } }
  have closed : mcClientDisconnect host .none world = _ := (Prog.bind_some rfl).trans run
  rw [closed]

theorem created_client {protocol : Int} (known : mcProtocolSupported protocol = true) :
    ∃ client, mcClientCreate protocol true true = .ok client ∧ client.transforms = none ∧
      client.compressionThreshold = -1 ∧ client.streamDecoder.Holds (-1) [] := by
  unfold mcClientCreate
  cases found : findProfile protocol with
  | none =>
      unfold mcProtocolSupported at known
      rw [found] at known
      cases known
  | some profile =>
      have usable : ¬ ((none : Option McStreamDecoderConfig).getD mcStreamDecoderConfigInit).Refused := by
        decide
      rcases created : mcStreamDecoderCreate none true with error | decoder
      · simp only [mcStreamDecoderCreate, if_neg usable] at created
        cases created
      · exact ⟨_, rfl, rfl, rfl, created_decoder created⟩

end Answering

/-- A server that answers in as many chunks as it likes, with anything behind its answers, is
understood: the call returns its JSON and the time that has passed, and has sent the hello, the
request and the ping. -/
theorem status_ping_answered (host : Host) (provides : host.Provides) (request : StatusRequest)
    (valid : request.Valid) (conditions : StatusConditions) (granted : conditions.granted = true)
    (decoderGranted : conditions.decoderGranted = true) (world : World) (json : List UInt8)
    (room : json.length < request.jsonCapacity) (text : json.length ≤ mcDefaultMaxStringBytes)
    (answers : world.Answers request json) :
    let outcome := mcStatusPingNonce host request conditions world
    outcome.1.succeeded = true ∧
      outcome.1.report =
        some (json, ⟨conditions.finished - conditions.started, json.length⟩) ∧
      outcome.2.network.wire = world.network.wire ++ framed (encodeVarint 0x00 ++ request.hello) ++
        framed (encodeVarint 0x00) ++ framed (encodeVarint 0x01 ++ request.number) := by
  intro outcome
  obtain ⟨client, created, untransformed, bare, holds⟩ := created_client valid.known
  let start : World :=
    { world with client := { client with readTimeoutMs := request.timeoutMs } }
  have answers' : start.Answers request json :=
    ⟨answers.dials, answers.starts, answers.takes, answers.waits, answers.arrives⟩
  obtain ⟨connected, trailing, connecting, served, wire⟩ :=
    statusConnect_served answers' untransformed bare holds
  obtain ⟨asked, asking, served', wire'⟩ := requestStatus_served provides valid room text served
  obtain ⟨pinged, pinging, wire''⟩ := pingStatus_served provides valid served'
  have arguments : ¬ (mcProtocolSupported request.protocol = false ∨ request.address = [] ∨
      request.timeoutMs = 0 ∨ request.jsonCapacity = 0) := by
    simp only [valid.known, Bool.true_eq_false, not_or, not_false_eq_true, true_and]
    exact ⟨valid.address, valid.timeout, by omega⟩
  have run : outcome = (⟨true, some (json, ⟨if conditions.started ≤ conditions.finished then
      conditions.finished - conditions.started else 0, json.length⟩)⟩,
        (mcClientDisconnect host .none pinged).2) := by
    have both : (do statusConnect; requestStatus host request) start = (some json, asked) :=
      (Prog.bind_some connecting).trans asking
    simp only [outcome, mcStatusPingNonce, if_neg arguments, granted, decoderGranted, created,
      statusExchange]
    rw [both]
    simp only [pinging]
  have latency : (if conditions.started ≤ conditions.finished then
      conditions.finished - conditions.started else 0) = conditions.finished - conditions.started := by
    split_ifs with forward
    · rfl
    · omega
  rw [run]
  refine ⟨rfl, ?_, ?_⟩
  · dsimp only
    rw [latency]
  · dsimp only
    rw [disconnect_wire, wire'', wire', wire]

/-- The answers in three chunks, none of which ends where one of them does. -/
theorem status_ping_answered_chunks :
    let request : StatusRequest := ⟨772, [104], 0, 5000, 77, 3⟩
    let quiet := World.around ((mcClientCreate 772 true true).toOption.get (by decide))
    let world := { quiet with network := { quiet.network with
      connections := [.ok 3]
      waits := [.ready, .ready]
      arrivals := [[4, 0, 2], [123, 125, 9, 1, 0, 0, 0], [0, 0, 0, 0, 77]].map .bytes } }
    let outcome := mcStatusPingNonce (.ample (.knowing [] [])) request ⟨true, true, 1000, 1042⟩ world
    outcome.1.succeeded = true ∧ outcome.1.report = some ([123, 125], ⟨42, 2⟩) ∧
      outcome.2.network.wire = framed (encodeVarint 0x00 ++ request.hello) ++
        framed (encodeVarint 0x00) ++ framed (encodeVarint 0x01 ++ request.number) := by
  intro request quiet world
  have valid : request.Valid :=
    ⟨by decide, by decide, by decide +kernel, by decide, by constructor <;> decide⟩
  have answers : world.Answers request [123, 125] :=
    ⟨⟨3, [], rfl⟩, nofun, nofun, List.prefix_rfl,
      [[4, 0, 2], [123, 125, 9, 1, 0, 0, 0], [0, 0, 0, 0, 77]], [], rfl, by decide, by decide +kernel⟩
  exact status_ping_answered (.ample (.knowing [] [])) (provides_ample _) request valid
    ⟨true, true, 1000, 1042⟩ rfl rfl world [123, 125] (by decide) (by decide) answers

end McProtocol
