import McProtocol.Fragmentation

/-! # The frame format

What a frame on the wire looks like under a compression threshold, whoever wrote it,
and what the stream decoder makes of it in either mode.
-/

namespace McProtocol

open Incremental

/-- The bytes of a packet: its id and its payload. -/
def StreamPacket.plain (packet : StreamPacket) : List UInt8 :=
  encodeVarint packet.packetId ++ packet.payload

/-- A frame around its content. -/
def framed (content : List UInt8) : List UInt8 := encodeVarint content.length ++ content

theorem framed_ne_nil (content : List UInt8) : framed content ≠ [] := by
  have header := (encodeVarint_length content.length).1
  intro empty
  have sizes := congrArg List.length empty
  rw [framed, List.length_append, List.length_nil] at sizes
  omega

/-- The contents a frame of `plain` may have. -/
inductive ContentOf (zlib : Zlib) (threshold : Int) (plain : List UInt8) : List UInt8 → Prop where
  | bare (off : threshold < 0) : ContentOf zlib threshold plain plain
  | stored (on : 0 ≤ threshold) (small : plain.length < threshold) :
      ContentOf zlib threshold plain (0 :: plain)
  | deflated {compressed : List UInt8} (on : 0 ≤ threshold) (reached : threshold ≤ plain.length)
      (deflates : zlib.Deflates plain compressed) :
      ContentOf zlib threshold plain (encodeVarint plain.length ++ compressed)

/-- The content `encode_frame` chooses, if zlib can give it. -/
def encodedContent (zlib : Zlib) (threshold : Int) (plain : List UInt8) : Option (List UInt8) :=
  if threshold < 0 then some plain
  else if (plain.length : Int) < threshold then some (0 :: plain)
  else
    (zlib.compress2 plain (zlib.compressBound plain.length)).map fun compressed =>
      encodeVarint plain.length ++ compressed

theorem contentOf_encoded {zlib : Zlib} (roundTrips : zlib.RoundTrips) {threshold : Int}
    {plain content : List UInt8} (encoded : encodedContent zlib threshold plain = some content) :
    ContentOf zlib threshold plain content := by
  rw [encodedContent] at encoded
  split_ifs at encoded with off small
  · cases encoded
    exact .bare off
  · cases encoded
    exact .stored (by omega) small
  · obtain ⟨compressed, written, rfl⟩ := Option.map_eq_some_iff.mp encoded
    exact .deflated (by omega) (by omega) (roundTrips.inverse plain _ compressed written)

/-- A packet and the content of its frame, within the limits of a decoder. -/
structure FramedAs (zlib : Zlib) (config : McStreamDecoderConfig) (threshold : Int)
    (packet : StreamPacket) (content : List UInt8) : Prop where
  id : IsInt32 packet.packetId
  natural : 0 ≤ packet.packetId
  shape : ContentOf zlib threshold packet.plain content
  compressed : packet.compressed = decide (0 ≤ threshold ∧ threshold ≤ packet.plain.length)
  frame_le : content.length ≤ config.maxFrameSize
  plain_le : packet.plain.length ≤ config.maxDecompressedSize

section Decoding

variable {zlib : Zlib} {config : McStreamDecoderConfig} {threshold : Int} {packet : StreamPacket}
  {content : List UInt8}

theorem StreamPacket.plain_pos (packet : StreamPacket) : 0 < packet.plain.length := by
  have id := (encodeVarint_length packet.packetId).1
  rw [plain, List.length_append]
  omega

theorem packetMeaning_plain (id : IsInt32 packet.packetId) (natural : 0 ≤ packet.packetId)
    (mode : McDecodeMode) (compressed : Bool) :
    packetMeaning mode packet.plain compressed =
      .ok ⟨packet.packetId, packet.payload, compressed⟩ := by
  have some := packet.plain_pos
  have header : streamVarint packet.plain mode = .complete packet.packetId _ :=
    streamVarint_run id mode packet.payload
  rw [packetMeaning, if_neg (by omega), header]
  dsimp only
  rw [if_neg (by omega), StreamPacket.plain, List.drop_left]

theorem isInt32_length {size : Nat} (small : size ≤ int32Max) : IsInt32 size := by
  simp only [int32Max] at small
  simp only [IsInt32]
  omega

theorem encodeVarint_zero : encodeVarint 0 = [0] := by
  rw [encodeVarint, encodeGroups_eq, Base128.encode]
  rfl

theorem frameMeaning_framed (accepted : ¬ config.Refused)
    (framed : FramedAs zlib config threshold packet content) :
    frameMeaning zlib config threshold content = .ok packet := by
  have meaning (compressed : Bool) (same : packet.compressed = compressed) :
      packetMeaning config.mode packet.plain compressed = .ok packet := by
    rw [packetMeaning_plain framed.id framed.natural, ← same]
  have flag := framed.compressed
  cases framed.shape with
  | bare off =>
      rw [frameMeaning, if_pos off]
      exact meaning false (by rw [flag]; exact decide_eq_false (by omega))
  | stored on small =>
      have header : streamVarint (0 :: packet.plain) config.mode = .complete 0 1 := by
        have run := streamVarint_run (v := 0) ⟨by decide, by decide⟩ config.mode packet.plain
        rwa [encodeVarint_zero] at run
      have short : ¬ (config.mode = .strict ∧ threshold ≤ packet.plain.length) := by omega
      rw [frameMeaning, if_neg (by omega), header]
      simp only [List.drop_succ_cons, List.drop_zero, lt_irrefl, if_false, if_true, if_neg short]
      rw [meaning false (by rw [flag]; exact decide_eq_false (by omega))]
      rfl
  | @deflated compressed on reached deflates =>
      obtain ⟨step, inflated, ends, output, rest⟩ := deflates
      have limits := accepted
      simp only [McStreamDecoderConfig.Refused, not_or] at limits
      have some := packet.plain_pos
      have fits := framed.plain_le
      have header := streamVarint_run (isInt32_length (by omega : packet.plain.length ≤ int32Max))
        config.mode compressed
      have size : ((packet.plain.length : Int)).toNat = packet.plain.length := Int.toNat_natCast _
      have strict : ¬ (config.mode = .strict ∧ (packet.plain.length : Int) < threshold) := by omega
      rw [frameMeaning, if_neg (by omega), header]
      dsimp only
      rw [if_neg (by omega), if_neg (by omega), size, if_neg (by omega), if_neg strict,
        List.drop_left, inflatedMeaning, inflated]
      have good : ¬ (step.status ≠ .streamEnd ∨ step.output.length ≠ packet.plain.length ∨
          config.mode = .strict ∧ step.rest.length ≠ 0) := by
        simp [ends, output, rest]
      dsimp only
      rw [if_neg good, output, meaning true (by rw [flag]; exact decide_eq_true ⟨on, reached⟩)]
      rfl

theorem FramedAs.content_pos (good : FramedAs zlib config threshold packet content) :
    0 < content.length := by
  have plain := packet.plain_pos
  cases good.shape with
  | bare off => exact plain
  | stored on small => exact Nat.succ_pos _
  | deflated on reached deflates =>
      have header := (encodeVarint_length packet.plain.length).1
      rw [List.length_append]
      omega

/-- The scanner takes exactly one frame off the front. -/
theorem frameVerdict_framed (accepted : ¬ config.Refused)
    (good : FramedAs zlib config threshold packet content) (rest : List UInt8) :
    frameVerdict zlib config threshold (framed content ++ rest) =
      .emit packet (framed content).length := by
  have limits := accepted
  simp only [McStreamDecoderConfig.Refused, not_or] at limits
  have some := good.content_pos
  have fits := good.frame_le
  have header := streamVarint_run (isInt32_length (by omega : content.length ≤ int32Max))
    config.mode (content ++ rest)
  have size : ((content.length : Int)).toNat = content.length := Int.toNat_natCast _
  rw [frameVerdict, framed, List.append_assoc, header]
  dsimp only
  rw [if_neg (by omega), size, if_neg (by omega), List.drop_left, List.take_left',
    frameMeaning_framed accepted good, if_neg]
  · rw [List.length_append]
  · simp only [List.length_append]
    omega
  · rfl

/-- One pass over frames in a row returns their packets. -/
theorem all_framed (accepted : ¬ config.Refused) {packets : List StreamPacket}
    {contents : List (List UInt8)}
    (good : List.Forall₂ (FramedAs zlib config threshold) packets contents) (rest : List UInt8) :
    (frameScanner zlib config threshold).all ((contents.map framed).flatten ++ rest) =
      (⟨packets, (contents.map framed).flatten.length, none⟩ : Outcome _ _).andThen
        ((frameScanner zlib config threshold).all rest) := by
  induction good with
  | nil => exact (Outcome.idle_andThen _).symm
  | @cons packet content packets contents first others ih =>
      have emits : (frameScanner zlib config threshold).step _ = _ :=
        frameVerdict_framed accepted first ((contents.map framed).flatten ++ rest)
      rw [List.map_cons, List.flatten_cons, List.append_assoc, Scanner.all_emit emits,
        List.drop_left, ih, ← Outcome.andThen_assoc]
      congr 1
      rw [Outcome.andThen_clean rfl, List.length_append]
      rfl

end Decoding

end McProtocol
