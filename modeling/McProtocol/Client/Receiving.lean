import McProtocol.Client.CompressionSwitch
import McProtocol.Client.Configuration
import McProtocol.StreamModes

/-! # What a read takes

However the bytes arrive, and whatever stops the client in between: a frame that `read_frame`
returns is the first one of the stream, and what is behind it is still there.
-/

namespace McProtocol

open Incremental

/-- The bytes that are on their way. -/
def arrivalBytes (arrivals : List Arrival) : List UInt8 :=
  (arrivals.map fun
    | .bytes chunk => chunk
    | _ => []).flatten

theorem arrivalBytes_cons (arrival : Arrival) (arrivals : List Arrival) :
    arrivalBytes (arrival :: arrivals) = arrivalBytes [arrival] ++ arrivalBytes arrivals := by
  simp [arrivalBytes]

/-- What is received is taken from the front. -/
theorem receiveLoop_takes {capacity : Nat} {arrivals left : List Arrival} {waits spared : List Wait}
    {data : List UInt8} (run : receiveLoop capacity arrivals waits = (.ok data, left, spared)) :
    data ++ arrivalBytes left = arrivalBytes arrivals := by
  induction arrivals, waits using receiveLoop.induct capacity generalizing left spared with
  | case1 waits => cases run
  | case2 arrivals waits ih =>
      rw [arrivalBytes_cons]
      exact ih run
  | case3 reason arrivals waits => cases run
  | case4 arrivals waits => cases run
  | case5 byte chunk arrivals waits =>
      rw [receiveLoop] at run
      cases run
      have whole := List.take_append_drop capacity (byte :: chunk)
      rw [arrivalBytes_cons (.bytes (byte :: chunk))]
      split_ifs with nothing
      · rw [nothing, List.append_nil] at whole
        rw [whole]
        simp [arrivalBytes]
      · rw [arrivalBytes_cons, ← List.append_assoc]
        simp [arrivalBytes]
  | case6 arrivals => cases run
  | case7 arrivals waits ih =>
      rw [arrivalBytes_cons]
      exact ih run
  | case8 arrivals waits => cases run
  | case9 arrivals reason waits => cases run

/-- A pass for one frame that meets no error. -/
theorem take_one {α F E : Type} {S : Scanner α F E} {xs : List α}
    (clean : (S.take 1 xs).error = none) :
    S.take 1 xs = .idle ∨ ∃ f n, S.step xs = .emit f n ∧ n ≤ xs.length ∧
      S.take 1 xs = ⟨[f], n, none⟩ := by
  cases verdict : S.step xs with
  | needMore => exact .inl (S.take_needMore verdict)
  | reject e =>
      rw [S.take_reject verdict] at clean
      cases clean
  | emit f n =>
      refine .inr ⟨f, n, rfl, (S.emit_size verdict).2, ?_⟩
      rw [S.take_emit verdict]
      exact Outcome.andThen_idle _

theorem packetMeaning_id {mode : McDecodeMode} {plain : List UInt8} {compressed : Bool}
    {packet : StreamPacket} (ok : packetMeaning mode plain compressed = .ok packet) :
    IsInt32 packet.packetId ∧ 0 ≤ packet.packetId := by
  unfold packetMeaning at ok
  split_ifs at ok
  cases found : streamVarint plain mode with
  | partialInput =>
      rw [found] at ok
      cases ok
  | invalid code offset =>
      rw [found] at ok
      cases ok
  | complete packetId idSize =>
      rw [found] at ok
      dsimp only at ok
      split_ifs at ok with negative
      cases ok
      obtain ⟨word, done, rfl⟩ := streamVarint_iff.mp found
      obtain ⟨_, -, -, -, -, -, bound, -⟩ := groupsAt_done_iff.mp done
      exact ⟨isInt32_toSigned (by omega), not_lt.mp negative⟩

theorem behind_eq_ok {α : Type} {size : Nat} {result : Except StreamError α} {value : α}
    (ok : behind size result = .ok value) : result = .ok value := by
  cases result with
  | error error => cases ok
  | ok found => exact ok

/-- A packet of a frame, compressed or not, has an id. -/
theorem emitted_id {zlib : Zlib} {config : McStreamDecoderConfig} {threshold : Int}
    {data : List UInt8} {packet : StreamPacket} {size : Nat}
    (verdict : frameVerdict zlib config threshold data = .emit packet size) :
    IsInt32 packet.packetId ∧ 0 ≤ packet.packetId := by
  have meaning {frame : List UInt8} (ok : frameMeaning zlib config threshold frame = .ok packet) :
      IsInt32 packet.packetId ∧ 0 ≤ packet.packetId := by
    unfold frameMeaning at ok
    split_ifs at ok
    · exact packetMeaning_id ok
    · split at ok
      · cases ok
      · cases ok
      · dsimp only at ok
        split_ifs at ok
        · exact packetMeaning_id (behind_eq_ok ok)
        · have ok := behind_eq_ok ok
          unfold inflatedMeaning at ok
          split at ok
          · cases ok
          · split_ifs at ok
            exact packetMeaning_id ok
  unfold frameVerdict at verdict
  split at verdict
  · cases verdict
  · cases verdict
  · split_ifs at verdict
    split at verdict
    · cases verdict
      exact meaning ‹_›
    · cases verdict

section Frames

variable {host : Host} {world after : World} {threshold : Int} {buffer stream : List UInt8}

/-- A connected client that has `stream` before it, in its decoder or on the way. -/
structure Listening (threshold : Int) (stream : List UInt8) (world : World) : Prop where
  untransformed : world.client.transforms = none
  holds : ∃ buffer, world.client.streamDecoder.Holds threshold buffer ∧
    buffer ++ arrivalBytes world.network.arrivals = stream

theorem Listening.of_incoming (listening : Listening threshold stream world)
    (same : SameIncoming world after) : Listening threshold stream after where
  untransformed := same.transforms.trans listening.untransformed
  holds := by
    obtain ⟨buffer, holds, front⟩ := listening.holds
    rw [← same.decoder] at holds
    rw [← same.arrivals] at front
    exact ⟨buffer, holds, front⟩

theorem receiveSome_takes {capacity : Nat} {data : List UInt8}
    (untransformed : world.client.transforms = none)
    (run : receiveSome capacity world = (some data, after)) :
    after.client.streamDecoder = world.client.streamDecoder ∧ after.client.transforms = none ∧
      data ++ arrivalBytes after.network.arrivals = arrivalBytes world.network.arrivals := by
  unfold receiveSome at run
  split_ifs at run
  · cases run
  · rcases looped : receiveLoop capacity world.network.arrivals world.network.waits with
      ⟨message | received, arrivals, waits⟩
    · rw [looped] at run
      cases run
    · rw [looped] at run
      simp only [untransformed] at run
      cases run
      exact ⟨rfl, rfl, receiveLoop_takes looped⟩

/-- A feed that returns has found what the scanner finds, and no error. -/
theorem feedOne_scans {data : Buffer} {found : Option StreamPacket}
    (holds : world.client.streamDecoder.Holds threshold buffer)
    (run : feedOne host data world = (some found, after)) :
    let outcome := (frameScanner host.zlib mcStreamDecoderConfigInit threshold).take 1
      (buffer ++ data.content)
    outcome.error = none ∧ found = outcome.frames.head? ∧
      after.client.streamDecoder.Holds threshold ((buffer ++ data.content).drop outcome.taken) ∧
      after.client.transforms = world.client.transforms ∧ after.network = world.network := by
  intro outcome
  obtain ⟨taken, clean, config, limit, held, offset, object⟩ := holds
  have accepted : (mcStreamDecoderFeed host.zlib host.streamHeap world.client.streamDecoder
      ⟨data, 1, false, false⟩).1.ok = true := by
    by_contra refused
    unfold feedOne at run
    dsimp only at run
    rw [if_neg refused] at run
    cases run
  obtain ⟨reserved, ended, passes⟩ := feed_passes accepted
  obtain ⟨_, capacity, serial, reserve, -⟩ := streamReserve_frame host.streamHeap
    world.client.streamDecoder.emptied
    (world.client.streamDecoder.buffer.length + data.size)
  have start : (⟨{ reserved with buffer := reserved.buffer ++ data.content }, []⟩ : Feeding) =
      world.client.streamDecoder.buffering data.content capacity serial := by
    cases passes.reserved.symm.trans reserve
    rfl
  have looped := passes.looped
  rw [start] at looped
  have sound := sound_buffering clean (offset ▸ saturatingAdd_le (Nat.zero_le _) _) object
    data.content capacity serial
  have allowed : ¬ (world.client.streamDecoder.buffering data.content capacity
      serial).decoder.config.Refused := by
    change ¬ world.client.streamDecoder.config.Refused
    rw [config]
    decide
  obtain ⟨⟨_, starved, -⟩, -⟩ | finished :=
    Feeding.feedLoop_cases host.zlib host.streamHeap sound allowed 1 0
  · cases starved.symm.trans looped
  · change Feeding.Finished _ 0 ((frameScanner host.zlib world.client.streamDecoder.config
      world.client.streamDecoder.compressionThreshold).take 1
        (world.client.streamDecoder.buffer ++ data.content)) _ at finished
    rw [looped] at finished
    have follows := follows_finished offset finished (ended.ready 1)
    rw [config, limit, held] at finished follows
    change Feeding.Finished _ 0 outcome _ at finished
    obtain ⟨packets, rest⟩ := finished
    have error : outcome.error = none := by
      cases recorded : outcome.error with
      | none => rfl
      | some error =>
          rw [recorded] at rest
          cases rest.1
    change McStreamDecoder.Follows _ _ _ ⟨_, _, outcome.error⟩ at follows
    rw [error] at follows
    have result := passes.result
    unfold feedOne at run
    dsimp only at run
    rw [result] at run
    dsimp only at run
    cases run
    refine ⟨error, ?_, ⟨_, follows⟩, rfl, rfl⟩
    have heads := congrArg List.head? packets
    rw [show (world.client.streamDecoder.buffering data.content capacity serial).packets = [] from rfl,
      List.nil_append, Feeding.packets, List.head?_map] at heads
    exact heads

/-- The first packet of the stream, and a client that has the rest before it. -/
def TakesFirst (host : Host) (threshold : Int) (stream : List UInt8) (packet : StreamPacket)
    (after : World) : Prop :=
  ∃ size, frameVerdict host.zlib mcStreamDecoderConfigInit threshold stream = .emit packet size ∧
    Listening threshold (stream.drop size) after

theorem TakesFirst.of_incoming {packet : StreamPacket} {last : World}
    (takes : TakesFirst host threshold stream packet after) (same : SameIncoming after last) :
    TakesFirst host threshold stream packet last := by
  obtain ⟨size, verdict, listening⟩ := takes
  exact ⟨size, verdict, listening.of_incoming same⟩

/-- A feed finds nothing yet, or the first packet. -/
theorem feedOne_takes (data : Buffer) {found : Option StreamPacket}
    (untransformed : world.client.transforms = none)
    (holds : world.client.streamDecoder.Holds threshold buffer)
    (front : buffer ++ data.content ++ arrivalBytes world.network.arrivals = stream)
    (run : feedOne host data world = (some found, after)) :
    found = none ∧ Listening threshold stream after ∨
      ∃ packet, found = some packet ∧ TakesFirst host threshold stream packet after := by
  obtain ⟨clean, rfl, holds', transforms, network⟩ := feedOne_scans holds run
  obtain idle | ⟨packet, size, verdict, inside, taken⟩ := take_one clean
  · rw [idle] at holds' ⊢
    refine .inl ⟨rfl, transforms.trans untransformed, _, holds', ?_⟩
    rw [network]
    exact front
  · rw [taken] at holds' ⊢
    refine .inr ⟨packet, rfl, size, ?_, transforms.trans untransformed, _, holds', ?_⟩
    · rw [← front, ← verdict]
      apply frameVerdict_append
      intro waits
      exact absurd (verdict.symm.trans waits) (by simp)
    · rw [network, ← front, List.drop_append_of_le_length inside]

theorem copyDecodedFrame_takes {packet : StreamPacket} {frame : List UInt8}
    (run : copyDecodedFrame host packet world = (some frame, after)) :
    frame = packet.plain ∧ SameIncoming world after := by
  obtain ⟨_, checked, check, copying⟩ := Prog.bind_eq_some run
  obtain ⟨-, rfl⟩ := refuseIf_eq_some check
  obtain ⟨_, granted, allocated, returned⟩ := Prog.bind_eq_some copying
  have same := (unread_of_memoryOnly (allocate_memoryOnly host packet.plain.length
    "Memoria insufficiente per il frame")).moves checked
  rw [show allocate host packet.plain.length _ checked = _ from allocated] at same
  cases returned
  exact ⟨rfl, same⟩

/-- A turn that returns has brought nothing yet, or the first packet. -/
theorem readFrameTurn_takes {result : Option (List UInt8)}
    (listening : Listening threshold stream world)
    (run : readFrameTurn host world = (some result, after)) :
    result = none ∧ Listening threshold stream after ∨
      ∃ packet : StreamPacket, result = some packet.plain ∧
        TakesFirst host threshold stream packet after := by
  obtain ⟨buffer, holds, front⟩ := listening.holds
  have emits {packet : StreamPacket} {middle : World}
      (takes : TakesFirst host threshold stream packet middle)
      (copy : (do return some (← copyDecodedFrame host packet) : ClientM (Option (List UInt8)))
        middle = (some result, after)) :
      ∃ packet : StreamPacket, result = some packet.plain ∧
        TakesFirst host threshold stream packet after := by
    obtain ⟨frame, copied, copying, returned⟩ := Prog.bind_eq_some copy
    obtain ⟨rfl, same⟩ := copyDecodedFrame_takes copying
    cases returned
    exact ⟨packet, rfl, takes.of_incoming same⟩
  obtain ⟨found, fed, feed, rest⟩ := Prog.bind_eq_some run
  obtain ⟨rfl, listening⟩ | ⟨packet, rfl, takes⟩ :=
    feedOne_takes _ listening.untransformed holds (by simpa [Buffer.content] using front) feed
  · obtain ⟨data, received, receive, rest⟩ := Prog.bind_eq_some rest
    obtain ⟨buffer, holds, front⟩ := listening.holds
    obtain ⟨decoder, transforms, bytes⟩ := receiveSome_takes listening.untransformed receive
    obtain ⟨found, refed, feed, rest⟩ := Prog.bind_eq_some rest
    rw [← decoder] at holds
    rw [← bytes, ← List.append_assoc] at front
    obtain ⟨rfl, listening⟩ | ⟨packet, rfl, takes⟩ :=
      feedOne_takes (.bytes data) transforms holds front feed
    · cases rest
      exact .inl ⟨rfl, listening⟩
    · exact .inr (emits takes rest)
  · exact .inr (emits takes rest)

theorem readFrameLoop_takes {fuel : Nat} {frame : List UInt8}
    (listening : Listening threshold stream world)
    (run : readFrameLoop host fuel world = (some frame, after)) :
    ∃ packet : StreamPacket, frame = packet.plain ∧
      TakesFirst host threshold stream packet after := by
  induction fuel generalizing world with
  | zero => cases run
  | succ fuel ih =>
      obtain ⟨result, turned, turn, rest⟩ := Prog.bind_eq_some run
      obtain ⟨rfl, listening⟩ | ⟨packet, rfl, takes⟩ := readFrameTurn_takes listening turn
      · exact ih listening rest
      · cases rest
        exact ⟨packet, rfl, takes⟩

/-- A frame that is returned is the first one of the stream. -/
theorem readFrame_takes {frame : List UInt8} (listening : Listening threshold stream world)
    (run : readFrame host world = (some frame, after)) :
    ∃ packet : StreamPacket, frame = packet.plain ∧
      TakesFirst host threshold stream packet after :=
  readFrameLoop_takes listening run

theorem backendWait_incoming (listening : Listening threshold stream world) {wait : Wait}
    (run : backendWait world = (some wait, after)) : Listening threshold stream after := by
  unfold backendWait at run
  split at run
  · cases run
    exact listening
  · cases run
    exact ⟨listening.untransformed, listening.holds⟩

end Frames

/-- A connection that was just opened has before it what is on the way. -/
theorem World.Opened.listening {world : World} (opened : world.Opened) :
    Listening (-1) (arrivalBytes world.network.arrivals) world := by
  obtain ⟨used, config, object, reset⟩ := opened.reset
  refine ⟨opened.untransformed, [], ⟨0, ?_⟩, rfl⟩
  rw [reset]
  exact ⟨rfl, config, rfl, rfl, rfl, object⟩

/-- Whatever the network does: frames that are returned one after the other are those at the front
of what has come in since, in the order of the scanner. -/
theorem readFrames_take (host : Host) {threshold : Int} {stream : List UInt8} {world after : World}
    (listening : Listening threshold stream world) (count : Nat) {frames : List (List UInt8)}
    (run : readFrames host count world = (some frames, after)) :
    let outcome := (frameScanner host.zlib mcStreamDecoderConfigInit threshold).take count stream
    outcome.error = none ∧ frames = outcome.frames.map StreamPacket.plain ∧
      frames.length = count ∧ Listening threshold (stream.drop outcome.taken) after := by
  induction count generalizing world stream frames with
  | zero =>
      cases run
      exact ⟨rfl, rfl, rfl, listening⟩
  | succ count ih =>
      obtain ⟨frame, middle, read, rest⟩ := Prog.bind_eq_some run
      obtain ⟨others, last, reads, returned⟩ := Prog.bind_eq_some rest
      cases returned
      obtain ⟨packet, rfl, size, verdict, behind⟩ := readFrame_takes listening read
      obtain ⟨clean, rfl, length, listening'⟩ := ih behind reads
      intro outcome
      have split : outcome = _ :=
        (frameScanner host.zlib mcStreamDecoderConfigInit threshold).take_emit verdict
      rw [split]
      refine ⟨clean, rfl, by rw [List.length_cons, length], ?_⟩
      rw [List.drop_drop] at listening'
      exact listening'

/-- A frame in two parts, with an interruption and a wait between them, and the start of another. -/
theorem readFrames_take_interrupted :
    let client := (mcClientCreate 772 true true).toOption.get (by decide)
    let quiet := World.around
      { client with socketFd := 3, streamDecoder := mcStreamDecoderReset client.streamDecoder }
    let world := { quiet with network := { quiet.network with
      arrivals := [.interrupted, .bytes [2], .wouldBlock, .bytes [5, 1, 3]]
      waits := [.ready] } }
    ∃ after, readFrames (.ample (.knowing [] [])) 1 world = (some [[5, 1]], after) ∧
      Listening (-1) [3] after := by
  intro client quiet world
  have opened : world.Opened := ⟨by decide, rfl, client.streamDecoder, rfl, by decide, rfl⟩
  have run : readFrames (.ample (.knowing [] [])) 1 world =
      (some [[5, 1]], (readFrames (.ample (.knowing [] [])) 1 world).2) :=
    Prod.ext (by decide +kernel) rfl
  exact ⟨_, run, (readFrames_take _ opened.listening 1 run).2.2.2⟩

end McProtocol
