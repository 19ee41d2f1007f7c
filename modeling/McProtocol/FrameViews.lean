import McProtocol.StreamRuns

/-! # The frames of one feed

The views of one feed lie in its arena one behind the other, and each shows the payload of
its packet until the next call, whether or not a later frame fails.
-/

namespace McProtocol

open Incremental

namespace Feeding

variable {feeding after : Feeding}

/-- Every view lies in the arena, and behind the ones before it. -/
structure Arranged (feeding : Feeding) : Prop where
  laid : ∀ frame ∈ feeding.frames, frame.payload.arena = feeding.decoder.arena ∧
    frame.payload.offset + frame.payload.size ≤ feeding.decoder.output.length
  ordered : feeding.frames.Pairwise fun first second =>
    first.payload.offset + first.payload.size ≤ second.payload.offset

theorem Arranged.same {before : Feeding} (arranged : before.Arranged)
    (frames : after.frames = before.frames) (arena : after.decoder.arena = before.decoder.arena)
    (output : after.decoder.output = before.decoder.output) : after.Arranged := by
  obtain ⟨laid, ordered⟩ := arranged
  rw [← frames] at laid ordered
  rw [← arena, ← output] at laid
  exact ⟨laid, ordered⟩

theorem fail_output (decoder : McStreamDecoder) (code : McErrorCode) (offset : Nat) :
    (decoder.fail code offset).arena = decoder.arena ∧
      (decoder.fail code offset).output = decoder.output := by
  unfold McStreamDecoder.fail
  split_ifs <;> exact ⟨rfl, rfl⟩

theorem Arranged.fail (arranged : feeding.Arranged) (code : McErrorCode) (offset : Nat) :
    ({ feeding with decoder := feeding.decoder.fail code offset } : Feeding).Arranged :=
  arranged.same rfl (fail_output _ _ _).1 (fail_output _ _ _).2

theorem Arranged.moved (arranged : feeding.Arranged) (grown : Nat) :
    (feeding.moved grown).Arranged := by
  refine ⟨fun frame mem => ?_, ?_⟩
  · obtain ⟨old, before, rfl⟩ := List.mem_map.mp mem
    exact ⟨rfl, (arranged.laid old before).2⟩
  · exact List.pairwise_map.mpr arranged.ordered

/-- A packet behind all others. -/
theorem Arranged.placed (arranged : feeding.Arranged) {packet : List UInt8} {idSize : Nat}
    (inside : idSize ≤ packet.length) (packetId : Int) (compressed : Bool) :
    (feeding.placed packet packetId idSize compressed).Arranged := by
  refine ⟨fun frame mem => ?_, ?_⟩
  · simp only [Feeding.placed, List.mem_append, List.mem_singleton, List.length_append] at mem ⊢
    obtain old | rfl := mem
    · have laid := arranged.laid frame old
      exact ⟨laid.1, by omega⟩
    · exact ⟨rfl, by dsimp only; omega⟩
  · refine List.pairwise_append.mpr ⟨arranged.ordered, List.pairwise_singleton _ _, ?_⟩
    intro first old second new
    cases List.mem_singleton.mp new
    have laid := (arranged.laid first old).2
    dsimp only
    omega

/-- Whatever a feed does, its views stay arranged. -/
theorem arranged_moves : FeedMoves fun before after => before.Arranged → after.Arranged where
  trans left right := right ∘ left
  fails _ code offset arranged := arranged.fail code offset
  consumes feeding consumed arranged := by
    rw [consume_eq]
    exact arranged.same rfl rfl rfl
  reservesOutput heap needed feeding arranged := by
    unfold streamReserveOutput
    dsimp only
    split_ifs with limited enough granted
    · exact arranged
    · exact arranged
    · exact arranged.moved _
    · exact arranged.same rfl rfl rfl
  finishes packet compressed packetOffset feeding arranged := by
    unfold streamFinishPacket
    dsimp only
    split_ifs with empty
    · exact arranged.fail _ _
    · cases header : streamVarint packet feeding.decoder.config.mode with
      | partialInput => exact arranged.fail _ _
      | invalid code offset => exact arranged.fail _ _
      | complete packetId idSize =>
          dsimp only
          split_ifs with negative
          · exact arranged.fail _ _
          · exact arranged.placed (streamVarint_size header).2 packetId compressed

/-- Views show the same as long as arena and output are the same. -/
theorem packets_same {before : Feeding} (frames : after.frames = before.frames)
    (arena : after.decoder.arena = before.decoder.arena)
    (output : after.decoder.output = before.decoder.output) : after.packets = before.packets := by
  simp only [packets, McStreamDecoder.bytes, frames, arena, output]

theorem packets_fail (feeding : Feeding) (code : McErrorCode) (offset : Nat) :
    ({ feeding with decoder := feeding.decoder.fail code offset } : Feeding).packets =
      feeding.packets :=
  packets_same rfl (fail_output _ _ _).1 (fail_output _ _ _).2

theorem packets_moved (arranged : feeding.Arranged) (grown : Nat) :
    (feeding.moved grown).packets = feeding.packets := by
  simp only [packets, moved, List.map_map]
  refine List.map_congr_left fun frame mem => ?_
  simp only [Function.comp_apply, McStreamDecoder.bytes, (arranged.laid frame mem).1, if_true]

/-- Making room, or failing to, shows nothing new. -/
theorem packets_emitRoom (arranged : feeding.Arranged) (heap : Heap)
    (packetSize packetOffset : Nat) :
    (streamEmitRoom heap packetSize packetOffset feeding).2.packets = feeding.packets := by
  unfold streamEmitRoom
  dsimp only
  split_ifs with wraps limited
  · exact packets_fail _ _ _
  · exact packets_fail _ _ _
  · have reserved : (streamReserveOutput heap (feeding.decoder.output.length + packetSize)
        feeding).2.packets = feeding.packets := by
      unfold streamReserveOutput
      dsimp only
      split_ifs with enough granted
      · rfl
      · exact packets_moved arranged _
      · exact packets_same rfl rfl rfl
    rcases run : streamReserveOutput heap (feeding.decoder.output.length + packetSize) feeding with
      ⟨_ | u, held⟩
    · rw [run] at reserved
      exact (packets_fail _ _ _).trans reserved
    · rw [run] at reserved
      exact reserved

/-- A packet that is refused shows nothing. -/
theorem packets_finishPacket {packet : List UInt8} {compressed : Bool} {packetOffset : Nat}
    (run : streamFinishPacket packet compressed packetOffset feeding = (none, after)) :
    after.packets = feeding.packets := by
  unfold streamFinishPacket at run
  dsimp only at run
  split_ifs at run with empty
  · cases run
    exact packets_fail _ _ _
  · cases header : streamVarint packet feeding.decoder.config.mode with
    | partialInput =>
        rw [header] at run
        cases run
        exact packets_fail _ _ _
    | invalid code offset =>
        rw [header] at run
        cases run
        exact packets_fail _ _ _
    | complete packetId idSize =>
        rw [header] at run
        dsimp only at run
        split_ifs at run with negative
        · cases run
          exact packets_fail _ _ _
        · cases run

theorem packets_emitRoom_then (arranged : feeding.Arranged) {heap : Heap}
    {packetSize packetOffset : Nat} {rest : Unit → FeedM Unit}
    (behind : ∀ {between : Feeding}, rest () between = (none, after) →
      after.packets = between.packets)
    (run : (streamEmitRoom heap packetSize packetOffset >>= rest) feeding = (none, after)) :
    after.packets = feeding.packets := by
  have room := packets_emitRoom arranged heap packetSize packetOffset
  obtain refused | ⟨u, between, made, refused⟩ := Prog.bind_eq_none run
  · rw [refused] at room
    exact room
  · rw [made] at room
    exact (behind refused).trans room

/-- A frame that fails shows nothing, and what was shown before is still there. -/
theorem packets_decodeFrame (arranged : feeding.Arranged) {zlib : Zlib} {heap : Heap}
    {frame : List UInt8} {frameOffset : Nat}
    (run : streamDecodeFrame zlib heap frame frameOffset feeding = (none, after)) :
    after.packets = feeding.packets := by
  have fails {code : McErrorCode} {offset : Nat}
      (run : (streamFail code offset : FeedM Unit) feeding = (none, after)) :
      after.packets = feeding.packets := by
    cases run
    exact packets_fail _ _ _
  have stored {packet : List UInt8} {compressed : Bool} {packetOffset : Nat}
      (run : streamEmitUncompressed heap packet compressed packetOffset feeding = (none, after)) :
      after.packets = feeding.packets :=
    packets_emitRoom_then arranged packets_finishPacket run
  unfold streamDecodeFrame at run
  dsimp only at run
  split_ifs at run with bare
  · exact stored run
  · cases header : streamVarint frame feeding.decoder.config.mode with
    | partialInput =>
        rw [header] at run
        exact fails run
    | invalid code offset =>
        rw [header] at run
        exact fails run
    | complete declared headerSize =>
        rw [header] at run
        dsimp only at run
        split_ifs at run
        · exact fails run
        · exact fails run
        · exact stored run
        · exact fails run
        · exact fails run
        · unfold streamEmitCompressed at run
          split_ifs at run with large
          · exact fails run
          · refine packets_emitRoom_then arranged (fun {between} refused => ?_) run
            cases found : zlib.inflateOnce (frame.drop headerSize) declared.toNat with
            | none =>
                rw [found] at refused
                cases refused
                exact packets_fail _ _ _
            | some step =>
                rw [found] at refused
                dsimp only at refused
                split_ifs at refused with short
                · cases refused
                  exact packets_fail _ _ _
                · exact packets_finishPacket refused

theorem packets_consume (feeding : Feeding) (consumed : Nat) :
    ({ feeding with decoder := feeding.decoder.consume consumed } : Feeding).packets =
      feeding.packets := by
  rw [consume_eq]
  exact packets_same rfl rfl rfl

theorem packets_stopFailed (feeding : Feeding) (consumed : Nat) (code : McErrorCode)
    (relative : Nat) :
    (streamStopFailed consumed code relative feeding).2.packets = feeding.packets :=
  (packets_fail _ _ _).trans (packets_consume _ _)

/-- A frame that was emitted is the packet it means. -/
theorem decodeFrame_emitted {zlib : Zlib} {heap : Heap} {base : Nat} {frame : List UInt8}
    (run : streamDecodeFrame zlib heap frame base feeding = (some (), after))
    (cases : OutOfResources (streamDecodeFrame zlib heap frame base) feeding ∧
        feeding.Starved heap ∨
      Realises (streamDecodeFrame zlib heap frame base) feeding base
        (frameMeaning zlib feeding.decoder.config feeding.decoder.compressionThreshold frame)) :
    ∃ packet, frameMeaning zlib feeding.decoder.config feeding.decoder.compressionThreshold frame =
        .ok packet ∧ after.Sound ∧ feeding.decoder.SameStream after.decoder ∧
      after.packets = feeding.packets ++ [packet] := by
  obtain ⟨⟨last, failed, _⟩, _⟩ | realises := cases
  · rw [run] at failed
    cases failed
  · cases meaning : frameMeaning zlib feeding.decoder.config feeding.decoder.compressionThreshold
        frame with
    | error error =>
        rw [meaning] at realises
        obtain ⟨last, failed, _⟩ := realises
        rw [run] at failed
        cases failed
    | ok packet =>
        rw [meaning] at realises
        obtain ⟨last, emitted, sound, same, shown⟩ := realises
        rw [run] at emitted
        cases emitted
        exact ⟨packet, rfl, sound, same, shown⟩

/-- What a loop shows is what the scanner finds, from the first frame on. -/
theorem feedLoop_shows (zlib : Zlib) (heap : Heap) (sound : feeding.Sound)
    (arranged : feeding.Arranged) (accepted : ¬ feeding.decoder.config.Refused)
    (quota consumed : Nat) :
    ∃ shown, (feedLoop zlib heap quota consumed feeding).2.packets = feeding.packets ++ shown ∧
      shown <+: ((frameScanner zlib feeding.decoder.config
        feeding.decoder.compressionThreshold).take quota
          (feeding.decoder.buffer.drop consumed)).frames := by
  induction quota generalizing feeding consumed with
  | zero => exact ⟨[], by rw [List.append_nil]; exact packets_consume _ _, List.nil_prefix⟩
  | succ quota ih =>
      have nothing {ended : Option Unit × Feeding} (same : ended.2.packets = feeding.packets) :
          ∃ shown, ended.2.packets = feeding.packets ++ shown ∧
            shown <+: ((frameScanner zlib feeding.decoder.config
              feeding.decoder.compressionThreshold).take (quota + 1)
                (feeding.decoder.buffer.drop consumed)).frames :=
        ⟨[], by rw [List.append_nil, same], List.nil_prefix⟩
      unfold feedLoop
      dsimp only
      split_ifs with drained
      · exact nothing (packets_consume _ _)
      · cases header : streamVarint (feeding.decoder.buffer.drop consumed)
            feeding.decoder.config.mode with
        | partialInput => exact nothing (packets_consume _ _)
        | invalid code offset => exact nothing (packets_stopFailed _ _ _ _)
        | complete encodedSize headerSize =>
            dsimp only
            split_ifs with negative large short
            · exact nothing (packets_stopFailed _ _ _ _)
            · exact nothing (packets_stopFailed _ _ _ _)
            · exact nothing (packets_consume _ _)
            · have small : ((feeding.decoder.buffer.drop (consumed + headerSize)).take
                  encodedSize.toNat).length ≤ feeding.decoder.config.maxFrameSize :=
                (List.length_take_le _ _).trans (by omega)
              have moved := arranged_moves.frameMoves.decodeFrame zlib heap feeding
                ((feeding.decoder.buffer.drop (consumed + headerSize)).take encodedSize.toNat)
                (feeding.decoder.absoluteOffset (consumed + headerSize)) arranged
              have cases := decodeFrame_cases zlib heap
                (feeding.decoder.absoluteOffset (consumed + headerSize)) sound accepted small
              rcases run : streamDecodeFrame zlib heap
                  ((feeding.decoder.buffer.drop (consumed + headerSize)).take encodedSize.toNat)
                  (feeding.decoder.absoluteOffset (consumed + headerSize)) feeding with
                ⟨_ | ⟨⟩, next⟩
              · exact nothing ((packets_consume _ _).trans (packets_decodeFrame arranged run))
              · rw [run] at moved
                obtain ⟨packet, meaning, sound', same, shown⟩ := decodeFrame_emitted run cases
                obtain ⟨more, behind, found⟩ := ih sound' moved (same.config ▸ accepted)
                  (consumed + headerSize + encodedSize.toNat)
                rw [same.config, same.threshold, same.buffer] at found
                refine ⟨packet :: more, ?_, ?_⟩
                · dsimp only
                  rw [behind, shown, List.append_assoc]
                  rfl
                · have verdict : frameVerdict zlib feeding.decoder.config
                      feeding.decoder.compressionThreshold (feeding.decoder.buffer.drop consumed) =
                        .emit packet (headerSize + encodedSize.toNat) := by
                    rw [frameVerdict, header]
                    dsimp only
                    rw [if_neg negative, if_neg large, List.length_drop, if_neg short,
                      List.drop_drop, meaning]
                  rw [Scanner.take_emit verdict, List.drop_drop, ← Nat.add_assoc,
                    Outcome.andThen_clean rfl]
                  exact List.cons_prefix_cons.mpr ⟨rfl, found⟩

end Feeding

/-- The frames a call returned, in the decoder it left. -/
def FeedResult.views (result : FeedResult) (decoder : McStreamDecoder) : Feeding :=
  ⟨decoder, result.frames⟩

/-- The views of a call, whether it succeeded or not: they are arranged, and show the first
packets of what was buffered and fed, up to the capacity. -/
structure FeedShows (zlib : Zlib) (before : McStreamDecoder) (call : FeedCall)
    (result : FeedResult) (after : McStreamDecoder) : Prop where
  arranged : (result.views after).Arranged
  shown : (result.views after).packets <+:
    ((frameScanner zlib before.config before.compressionThreshold).take call.frameCapacity
      (before.buffer ++ call.data.content)).frames
  whole : result.ok = true → (result.views after).packets =
    ((frameScanner zlib before.config before.compressionThreshold).take call.frameCapacity
      (before.buffer ++ call.data.content)).frames

theorem feedShows_nothing {zlib : Zlib} {before after : McStreamDecoder} {call : FeedCall}
    {error : McError} : FeedShows zlib before call ⟨false, [], error⟩ after where
  arranged := ⟨nofun, .nil⟩
  shown := List.nil_prefix
  whole := nofun

theorem McStreamDecoder.Bounded.feedShows {decoder : McStreamDecoder} (bounded : decoder.Bounded)
    (zlib : Zlib) (heap : Heap) (call : FeedCall) :
    FeedShows zlib decoder call (mcStreamDecoderFeed zlib heap decoder call).1
      (mcStreamDecoderFeed zlib heap decoder call).2 := by
  unfold mcStreamDecoderFeed
  dsimp only [feedFailed]
  split_ifs with invalid failed limited
  · exact feedShows_nothing
  · exact feedShows_nothing
  · exact feedShows_nothing
  · obtain ⟨held, capacity, serial, reserved, -⟩ := streamReserve_frame heap
      { decoder with compressionTransitionReady := false, output := [] }
      (decoder.buffer.length + call.data.size)
    rw [reserved]
    cases held with
    | false => exact feedShows_nothing
    | true =>
        have clean : decoder.failed = false := Bool.eq_false_of_not_eq_true failed
        have sound := sound_buffering clean bounded.offset_le bounded.object call.data.content
          capacity serial
        have arranged : (decoder.buffering call.data.content capacity serial).Arranged :=
          ⟨fun _ there => absurd there List.not_mem_nil, .nil⟩
        obtain ⟨shown, packets, found⟩ := Feeding.feedLoop_shows zlib heap sound arranged
          bounded.accepted call.frameCapacity 0
        have kept := Feeding.arranged_moves.loop zlib heap
          (decoder.buffering call.data.content capacity serial) call.frameCapacity 0 arranged
        have whole := Feeding.feedLoop_cases zlib heap sound bounded.accepted call.frameCapacity 0
        rcases looped : feedLoop zlib heap call.frameCapacity 0
            (decoder.buffering call.data.content capacity serial) with ⟨_ | ⟨⟩, feeding⟩
        · rw [looped] at kept packets
          have run := looped
          simp only [McStreamDecoder.buffering] at run
          simp only [run]
          refine ⟨kept, ?_, fun done => ?_⟩
          · have shows : feeding.packets = shown := packets
            exact (shows ▸ found :)
          · cases done
        · rw [looped] at kept packets
          have run := looped
          simp only [McStreamDecoder.buffering] at run
          simp only [run]
          rw [looped] at whole
          refine ⟨kept.same rfl rfl rfl, ?_, fun _ => ?_⟩
          · have shows : feeding.packets = shown := packets
            exact (shows ▸ found :)
          · obtain ⟨⟨last, failing, _⟩, _⟩ | finished := whole
            · rw [looped] at failing
              cases failing
            · exact finished.1

end McProtocol
