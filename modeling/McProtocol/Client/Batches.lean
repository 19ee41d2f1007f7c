import McProtocol.Client.Connect
import McProtocol.Client.PeerRoundTrip

/-! # Batches

`mc_client_send_batch` encodes its packets into one buffer, and gives the buffer to the
stream transform and to the socket at once. On the wire that is what sending the packets
one by one puts there.
-/

namespace McProtocol

namespace McStreamTransforms

variable (transforms : McStreamTransforms)

/-- Given the one or the other, `encrypt` does the same to all that follows. -/
def SameState (left right : List (List UInt8)) : Prop :=
  ∀ later data, transforms.encrypt (left ++ later) data = transforms.encrypt (right ++ later) data

/-- What `encrypt` does to two pieces in a row is what it does to the one and then to the
other. -/
structure ByteStream : Prop where
  joins : ∀ given first second, transforms.encrypt given (first ++ second) =
    (transforms.encrypt given first).bind fun cipher =>
      (transforms.encrypt (given ++ [first]) second).map (cipher ++ ·)
  state : ∀ given first second,
    transforms.SameState (given ++ [first ++ second]) (given ++ [first] ++ [second])

/-- The pieces one after the other. -/
def encryptEach : List (List UInt8) → List (List UInt8) → Option (List UInt8)
  | _, [] => some []
  | given, piece :: pieces =>
      (transforms.encrypt given piece).bind fun cipher =>
        (encryptEach (given ++ [piece]) pieces).map (cipher ++ ·)

variable {transforms}

theorem SameState.trans {first second third : List (List UInt8)}
    (left : transforms.SameState first second) (right : transforms.SameState second third) :
    transforms.SameState first third :=
  fun later data => (left later data).trans (right later data)

theorem encryptEach_append (given first second : List (List UInt8)) :
    transforms.encryptEach given (first ++ second) =
      (transforms.encryptEach given first).bind fun cipher =>
        (transforms.encryptEach (given ++ first) second).map (cipher ++ ·) := by
  induction first generalizing given with
  | nil => simp [encryptEach]
  | cons piece first ih =>
      simp only [List.cons_append, encryptEach, ih, List.append_assoc, List.nil_append]
      cases transforms.encrypt given piece with
      | none => rfl
      | some cipher =>
          cases transforms.encryptEach (given ++ [piece]) first with
          | none => rfl
          | some more =>
              cases transforms.encryptEach (given ++ piece :: first) second with
              | none => simp
              | some last => simp

/-- Pieces in a row are the pieces one after the other. -/
theorem ByteStream.flatten (stream : transforms.ByteStream) (given : List (List UInt8))
    (piece : List UInt8) (pieces : List (List UInt8)) :
    transforms.encrypt given (piece :: pieces).flatten =
        transforms.encryptEach given (piece :: pieces) ∧
      transforms.SameState (given ++ [(piece :: pieces).flatten]) (given ++ piece :: pieces) := by
  induction pieces generalizing given piece with
  | nil =>
      have whole : [piece].flatten = piece := by simp
      rw [whole]
      refine ⟨?_, fun _ _ => rfl⟩
      simp only [encryptEach]
      cases transforms.encrypt given piece with
      | none => rfl
      | some cipher => simp
  | cons next pieces ih =>
      obtain ⟨cipher, state⟩ := ih (given ++ [piece]) next
      rw [List.flatten_cons]
      refine ⟨?_, ?_⟩
      · rw [stream.joins, cipher]
        rfl
      · have moved := (stream.state given piece (next :: pieces).flatten).trans state
        rw [List.append_assoc given [piece] (next :: pieces)] at moved
        exact moved

end McStreamTransforms

/-- `mc_client_send` for packet after packet. -/
def sendEach (host : Host) : List McOutboundPacket → ClientM Unit
  | [] => pure ()
  | packet :: packets => do
      mcClientSend host packet.packetId packet.payload
      sendEach host packets

/-- What leaves a client for the pieces it is given one after the other. -/
def World.cipherOf (world : World) (pieces : List (List UInt8)) : Option (List UInt8) :=
  match world.client.transforms with
  | none => some pieces.flatten
  | some transforms => transforms.encryptEach world.encrypted pieces

/-- What the transform has been given behind them. -/
def World.givenBehind (world : World) (pieces : List (List UInt8)) : List (List UInt8) :=
  match world.client.transforms with
  | none => world.encrypted
  | some _ => world.encrypted ++ pieces

/-- `after` is the world behind the writing of some pieces one after the other. -/
structure Wrote (world : World) (pieces : List (List UInt8)) (after : World) : Prop where
  transforms : after.client.transforms = world.client.transforms
  threshold : after.client.compressionThreshold = world.client.compressionThreshold
  encrypted : after.encrypted = world.givenBehind pieces
  cipher : ∃ cipher, world.cipherOf pieces = some cipher ∧
    after.network.wire = world.network.wire ++ cipher ∧
    after.client.sentBytes = (world.client.sentBytes + cipher.length) % 2 ^ 64

section Writing

variable {host : Host} {world after : World} {packets : List McOutboundPacket}

theorem writeSocket_eq_some {wire : List UInt8} {u : Unit} (some : wire ≠ [])
    (run : writeSocket wire world = (Option.some u, after)) :
    after.network.wire = world.network.wire ++ wire ∧
      after.client = { world.client with
        sentBytes := (world.client.sentBytes + wire.length) % 2 ^ 64 } ∧
      after.encrypted = world.encrypted := by
  rw [writeSocket] at run
  split_ifs at run with nothing closed
  · exact absurd (List.length_eq_zero_iff.mp nothing) some
  · cases run
  · rcases sent : sendLoop world.network.departures wire with ⟨_ | reason, written, departures⟩
    · rw [sent] at run
      cases run
      rw [sendLoop_complete sent]
      exact ⟨rfl, rfl, rfl⟩
    · rw [sent] at run
      cases run

/-- What is encrypted, if anything is, is told to the transform. -/
theorem encryptStream_eq_some {data wire : List UInt8} (some : data ≠ [])
    (run : encryptStream host data world = (Option.some wire, after)) :
    world.cipherOf [data] = Option.some wire ∧ after.encrypted = world.givenBehind [data] ∧
      after.client = world.client ∧ after.network = world.network := by
  unfold encryptStream at run
  cases there : world.client.transforms with
  | none =>
      rw [there] at run
      cases run
      simp only [World.cipherOf, World.givenBehind, there, List.flatten_singleton]
      exact ⟨trivial, trivial, trivial, trivial⟩
  | some transforms =>
      rw [there] at run
      dsimp only at run
      rw [if_neg fun empty => some (List.length_eq_zero_iff.mp empty)] at run
      rcases allocated : allocate host data.length
        "Memoria insufficiente per la cifratura stream" world with ⟨_ | u, granted⟩
      · rw [allocated] at run
        cases run
      · have same := allocate_eq_some allocated
        rw [allocated] at run
        dsimp only at run
        cases encrypted : transforms.encrypt granted.encrypted data with
        | none =>
            rw [encrypted] at run
            cases run
        | some transformed =>
            rw [encrypted] at run
            cases run
            rw [same.encrypted] at encrypted
            refine ⟨?_, ?_, same.client, same.network⟩
            · simp only [World.cipherOf, there, McStreamTransforms.encryptEach, encrypted]
              simp
            · simp only [World.givenBehind, there, same.encrypted]

/-- One piece. -/
theorem sendAll_wrote {piece : List UInt8} {u : Unit} (some : piece ≠ [])
    (run : sendAll host piece world = (Option.some u, after)) : Wrote world [piece] after := by
  obtain ⟨wire, told, encrypted, written⟩ := Prog.bind_eq_some run
  have nonempty := encryptStream_nonempty some encrypted
  obtain ⟨cipher, given, client, network⟩ := encryptStream_eq_some some encrypted
  obtain ⟨sent, changed, kept⟩ := writeSocket_eq_some nonempty written
  rw [client] at changed
  rw [network] at sent
  refine ⟨?_, ?_, kept.trans given, wire, cipher, sent, ?_⟩
  · rw [changed]
  · rw [changed]
  · rw [changed]

/-- One packet. -/
theorem mcClientSend_wrote {packet : McOutboundPacket} {u : Unit}
    (run : mcClientSend host packet.packetId packet.payload world = (some u, after)) :
    ∃ content, encodedContent host.zlib world.client.compressionThreshold
        (encodeVarint packet.packetId ++ packet.payload.content) = some content ∧
      Wrote world [framed content] after := by
  obtain ⟨_, start, connected, sent⟩ := Prog.bind_eq_some run
  obtain ⟨client, observed, seen, checked⟩ := Prog.bind_eq_some connected
  cases seen
  obtain ⟨-, rfl⟩ := refuseIf_eq_some checked
  rw [sendFrame_run] at sent
  rcases transmitted : transmit host packet.packetId packet.payload start with ⟨result, reached⟩
  rw [transmitted] at sent
  cases sent
  obtain ⟨wire, encoded, made, written⟩ := Prog.bind_eq_some transmitted
  obtain ⟨-, content, rfl, chosen⟩ := encodeFrame_eq_some made
  have same := (encodeFrame_memoryOnly host packet.packetId packet.payload).steps start trivial
  rw [made] at same
  obtain ⟨transforms, threshold, encrypted, cipher⟩ := sendAll_wrote (framed_ne_nil content) written
  refine ⟨content, chosen, ?_⟩
  dsimp only at same
  simp only [World.cipherOf, World.givenBehind, same.client, same.network, same.encrypted]
    at transforms threshold encrypted cipher
  exact ⟨transforms, threshold, encrypted, cipher⟩

/-- Writing goes on where it stopped. -/
theorem Wrote.append {between : World} {first second : List (List UInt8)}
    (left : Wrote world first between) (right : Wrote between second after) :
    Wrote world (first ++ second) after := by
  obtain ⟨cipher, enciphered, wire, sent⟩ := left.cipher
  obtain ⟨more, enciphered', wire', sent'⟩ := right.cipher
  have counted : ((world.client.sentBytes + cipher.length) % 2 ^ 64 + more.length) % 2 ^ 64 =
      (world.client.sentBytes + (cipher ++ more).length) % 2 ^ 64 := by
    rw [List.length_append]
    omega
  refine ⟨right.transforms.trans left.transforms, right.threshold.trans left.threshold, ?_,
    cipher ++ more, ?_, ?_, ?_⟩
  · rw [right.encrypted, World.givenBehind, World.givenBehind, left.transforms, left.encrypted,
      World.givenBehind]
    cases world.client.transforms with
    | none => rfl
    | some transforms => exact List.append_assoc _ _ _
  · rw [World.cipherOf, left.transforms, left.encrypted, World.givenBehind] at enciphered'
    rw [World.cipherOf] at enciphered ⊢
    cases there : world.client.transforms with
    | none =>
        rw [there] at enciphered enciphered'
        cases enciphered
        cases enciphered'
        exact congrArg some List.flatten_append
    | some transforms =>
        rw [there] at enciphered enciphered'
        dsimp only at enciphered enciphered' ⊢
        rw [McStreamTransforms.encryptEach_append, enciphered, Option.bind_some, enciphered']
        rfl
  · rw [wire', wire, List.append_assoc]
  · rw [sent', sent, counted]

/-- Packet after packet, if there is one. -/
theorem sendEach_wrote {packet : McOutboundPacket} {u : Unit}
    (run : sendEach host (packet :: packets) world = (some u, after)) :
    ∃ contents, List.Forall₂ (fun packet content =>
        encodedContent host.zlib world.client.compressionThreshold
          (encodeVarint packet.packetId ++ packet.payload.content) = some content)
        (packet :: packets) contents ∧
      Wrote world (contents.map framed) after := by
  induction packets generalizing packet world with
  | nil =>
      obtain ⟨_, last, sent, ended⟩ := Prog.bind_eq_some run
      cases ended
      obtain ⟨content, chosen, wrote⟩ := mcClientSend_wrote sent
      exact ⟨[content], .cons chosen .nil, wrote⟩
  | cons next packets ih =>
      obtain ⟨_, between, sent, rest⟩ := Prog.bind_eq_some run
      obtain ⟨content, chosen, wrote⟩ := mcClientSend_wrote sent
      obtain ⟨contents, others, more⟩ := ih rest
      rw [wrote.threshold] at others
      exact ⟨content :: contents, .cons chosen others, wrote.append more⟩

/-- A batch is written as one piece. -/
theorem mcClientSendBatch_wrote {packet : McOutboundPacket} {u : Unit}
    (run : mcClientSendBatch host (.packets (packet :: packets)) world = (some u, after)) :
    ∃ contents, List.Forall₂ (fun packet content =>
        encodedContent host.zlib world.client.compressionThreshold
          (encodeVarint packet.packetId ++ packet.payload.content) = some content)
        (packet :: packets) contents ∧
      Wrote world [(contents.map framed).flatten] after := by
  obtain ⟨_, start, connected, encoding⟩ := Prog.bind_eq_some run
  obtain ⟨client, observed, seen, checked⟩ := Prog.bind_eq_some connected
  cases seen
  obtain ⟨-, rfl⟩ := refuseIf_eq_some checked
  obtain ⟨batch, encodedWorld, looped, sending⟩ := Prog.bind_eq_some encoding
  obtain ⟨same, contents, whole, good⟩ := batchLoop_eq_some looped
  rw [List.nil_append] at whole
  have chosen := good.imp fun _ _ both => both.2
  refine ⟨contents, chosen, ?_⟩
  cases good with
  | @cons _ content _ contents first others =>
      have some : batch ≠ [] := by
        rw [whole, List.map_cons, List.flatten_cons]
        exact fun empty => framed_ne_nil content (List.append_eq_nil_iff.mp empty).1
      rw [if_neg fun nothing => some (List.length_eq_zero_iff.mp nothing), whole] at sending
      rw [whole] at some
      obtain ⟨transforms, threshold, encrypted, cipher⟩ := sendAll_wrote some sending
      simp only [World.cipherOf, World.givenBehind, same.client, same.network, same.encrypted]
        at transforms threshold encrypted cipher
      exact ⟨transforms, threshold, encrypted, cipher⟩

/-- A packet has at most one content. -/
theorem contents_unique {threshold : Int} {left right : List (List UInt8)}
    (first : List.Forall₂ (fun (packet : McOutboundPacket) content =>
      encodedContent host.zlib threshold
        (encodeVarint packet.packetId ++ packet.payload.content) = some content) packets left)
    (second : List.Forall₂ (fun (packet : McOutboundPacket) content =>
      encodedContent host.zlib threshold
        (encodeVarint packet.packetId ++ packet.payload.content) = some content) packets right) :
    left = right := by
  induction first generalizing right with
  | nil =>
      cases second
      rfl
  | cons chosen _ ih =>
      cases second with
      | cons chosen' others =>
          rw [ih others, Option.some.inj (chosen.symm.trans chosen')]

/-- To a byte stream, pieces in a row are the pieces one after the other. -/
theorem one_cipherOf
    (streams : ∀ transforms, world.client.transforms = some transforms → transforms.ByteStream)
    (piece : List UInt8) (pieces : List (List UInt8)) :
    world.cipherOf [(piece :: pieces).flatten] = world.cipherOf (piece :: pieces) := by
  rw [World.cipherOf, World.cipherOf]
  cases there : world.client.transforms with
  | none => simp
  | some transforms =>
      have joined := ((streams transforms there).flatten world.encrypted piece pieces).1
      dsimp only
      rw [McStreamTransforms.encryptEach, joined]
      cases transforms.encryptEach world.encrypted (piece :: pieces) with
      | none => rfl
      | some cipher => simp [McStreamTransforms.encryptEach]

/-- A batch that was sent, and the same packets sent one by one from the same world. -/
theorem batched_eq_sequenced {batched sequenced : World}
    (streams : ∀ transforms, world.client.transforms = some transforms → transforms.ByteStream)
    (batch : mcClientSendBatch host (.packets packets) world = (some (), batched))
    (each : sendEach host packets world = (some (), sequenced)) :
    batched.network.wire = sequenced.network.wire ∧
      batched.client.sentBytes = sequenced.client.sentBytes ∧
      ∀ transforms, world.client.transforms = some transforms →
        transforms.SameState batched.encrypted sequenced.encrypted := by
  cases packets with
  | nil =>
      obtain ⟨_, start, connected, sending⟩ := Prog.bind_eq_some batch
      obtain ⟨client, observed, seen, checked⟩ := Prog.bind_eq_some connected
      cases seen
      obtain ⟨-, rfl⟩ := refuseIf_eq_some checked
      cases each
      cases sending
      exact ⟨rfl, rfl, fun _ _ _ _ => rfl⟩
  | cons packet packets =>
      obtain ⟨contents, chosen, whole⟩ := mcClientSendBatch_wrote batch
      obtain ⟨others, chosen', pieces⟩ := sendEach_wrote each
      obtain rfl := contents_unique chosen chosen'
      cases contents with
      | nil => cases chosen
      | cons content contents =>
          have same := one_cipherOf streams (framed content) (contents.map framed)
          obtain ⟨cipher, enciphered, wire, sent⟩ := whole.cipher
          obtain ⟨cipher', enciphered', wire', sent'⟩ := pieces.cipher
          obtain rfl : cipher = cipher' :=
            Option.some.inj (enciphered.symm.trans (same.trans enciphered'))
          refine ⟨wire.trans wire'.symm, sent.trans sent'.symm, fun transforms there => ?_⟩
          have state := ((streams transforms there).flatten world.encrypted (framed content)
            (contents.map framed)).2
          have left := whole.encrypted
          have right := pieces.encrypted
          rw [World.givenBehind, there] at left right
          rw [left, right]
          exact state

/-- Some packet of a list cannot be encoded, in the memory that the packets before it
leave. -/
def Unencodable (host : Host) (packets : List McOutboundPacket) (world : World) : Prop :=
  ∃ before packet behind, packets = before ++ packet :: behind ∧
    ∀ batch reached, batchLoop host before 0 [] world = (some batch, reached) →
      (encodeFrame host packet.packetId packet.payload reached).1 = none

/-- The loop over some packets and the loop over those behind them, whatever the capacity
has grown to. -/
theorem batchLoop_append {before behind : List McOutboundPacket} {capacity : Nat}
    {batch whole : List UInt8}
    (run : batchLoop host (before ++ behind) capacity batch world = (some whole, after)) :
    ∃ capacity' batch' reached, batchLoop host before capacity batch world = (some batch', reached) ∧
      batchLoop host behind capacity' batch' reached = (some whole, after) := by
  induction before generalizing capacity batch world with
  | nil => exact ⟨capacity, batch, world, rfl, run⟩
  | cons packet before ih =>
      obtain ⟨frame, encoded, made, afterFrame⟩ := Prog.bind_eq_some run
      obtain ⟨_, sized, checked, afterCheck⟩ := Prog.bind_eq_some afterFrame
      dsimp only at afterCheck
      by_cases grows : capacity < batch.length + frame.length
      · rw [if_pos grows] at afterCheck
        obtain ⟨_, granted, allocated, rest⟩ := Prog.bind_eq_some afterCheck
        obtain ⟨capacity', batch', reached, looped, last⟩ := ih rest
        refine ⟨capacity', batch', reached, ?_, last⟩
        refine (Prog.bind_some made).trans ((Prog.bind_some checked).trans ?_)
        dsimp only
        rw [if_pos grows]
        exact (Prog.bind_some allocated).trans looped
      · rw [if_neg grows] at afterCheck
        obtain ⟨capacity', batch', reached, looped, last⟩ := ih afterCheck
        refine ⟨capacity', batch', reached, ?_, last⟩
        refine (Prog.bind_some made).trans ((Prog.bind_some checked).trans ?_)
        dsimp only
        rw [if_neg grows]
        exact looped

/-- Such a list is not sent: nothing is written and nothing is told to the transform. -/
theorem unencodable_refused (unencodable : Unencodable host packets world) :
    (mcClientSendBatch host (.packets packets) world).1 = none ∧
      SameButMemory world (mcClientSendBatch host (.packets packets) world).2 := by
  have refuses : memoryOnly.Lawful refuseUnconnected :=
    .bind (.observe fun _ _ _ _ below => below.elim) fun _ => refuseIf_memoryOnly _ _
  rcases connected : refuseUnconnected world with ⟨_ | u, start⟩
  · have same := refuses.steps world trivial
    rw [connected] at same
    have run : mcClientSendBatch host (.packets packets) world = (none, start) :=
      Prog.bind_none connected
    rw [run]
    exact ⟨rfl, same⟩
  · obtain ⟨client, observed, seen, checked⟩ := Prog.bind_eq_some connected
    cases seen
    obtain ⟨-, rfl⟩ := refuseIf_eq_some checked
    have same := (batchLoop_memoryOnly host packets 0 []).steps start trivial
    rcases looped : batchLoop host packets 0 [] start with ⟨_ | whole, reached⟩
    · rw [looped] at same
      have run : mcClientSendBatch host (.packets packets) start = (none, reached) :=
        (Prog.bind_some connected).trans (Prog.bind_none looped)
      rw [run]
      exact ⟨rfl, same⟩
    · obtain ⟨before, packet, behind, rfl, fails⟩ := unencodable
      obtain ⟨capacity, batch, turn, ahead, rest⟩ := batchLoop_append looped
      obtain ⟨frame, encoded, made, _⟩ := Prog.bind_eq_some rest
      have failed := fails batch turn ahead
      rw [made] at failed
      cases failed

end Writing

/-- A batch is its packets sent one by one: where both succeed, the same bytes are on the
wire and counted, and a transform that works on the byte stream is in the same state. A
list with a packet that cannot be encoded is refused before anything is written. -/
theorem batch_is_sequence (host : Host) (world : World) (packets : List McOutboundPacket) :
    (∀ batched sequenced,
      (∀ transforms, world.client.transforms = some transforms → transforms.ByteStream) →
      mcClientSendBatch host (.packets packets) world = (some (), batched) →
      sendEach host packets world = (some (), sequenced) →
        batched.network.wire = sequenced.network.wire ∧
          batched.client.sentBytes = sequenced.client.sentBytes ∧
          ∀ transforms, world.client.transforms = some transforms →
            transforms.SameState batched.encrypted sequenced.encrypted) ∧
    (Unencodable host packets world →
      (mcClientSendBatch host (.packets packets) world).1 = none ∧
        (mcClientSendBatch host (.packets packets) world).2.network = world.network ∧
        (mcClientSendBatch host (.packets packets) world).2.encrypted = world.encrypted ∧
        (mcClientSendBatch host (.packets packets) world).2.client.sentBytes =
          world.client.sentBytes) := by
  refine ⟨fun _ _ streams batch each => batched_eq_sequenced streams batch each, ?_⟩
  intro unencodable
  obtain ⟨refused, same⟩ := unencodable_refused unencodable
  exact ⟨refused, same.network, same.encrypted, by rw [same.client]⟩

/-- A cipher that takes each byte with its place in the stream. -/
def placed : Nat → List UInt8 → List UInt8
  | _, [] => []
  | place, byte :: bytes => (byte ^^^ UInt8.ofNat place) :: placed (place + 1) bytes

theorem placed_length (place : Nat) (bytes : List UInt8) :
    (placed place bytes).length = bytes.length := by
  induction bytes generalizing place with
  | nil => rfl
  | cons byte bytes ih => simp only [placed, List.length_cons, ih]

theorem placed_append (place : Nat) (first second : List UInt8) :
    placed place (first ++ second) = placed place first ++ placed (place + first.length) second := by
  induction first generalizing place with
  | nil => rfl
  | cons byte first ih =>
      have next : place + 1 + first.length = place + (byte :: first).length := by
        rw [List.length_cons]
        omega
      rw [List.cons_append, placed, ih, next]
      rfl

def placing : McStreamTransforms where
  encrypt given data := some (placed given.flatten.length data)
  decrypt given wire := some (placed given.flatten.length wire)
  encrypt_length given data wire done := by
    cases done
    exact placed_length _ data
  decrypt_length given wire data done := by
    cases done
    exact placed_length _ wire

theorem placing_byteStream : placing.ByteStream where
  joins given first second := by
    have behind : (given ++ [first]).flatten.length = given.flatten.length + first.length := by
      simp
    simp only [placing, behind, placed_append]
    rfl
  state given first second later data := by
    have same : (given ++ [first ++ second] ++ later).flatten =
        (given ++ [first] ++ [second] ++ later).flatten := by simp
    simp only [placing, same]

/-- Two packets through that cipher, and a list with a negative id. -/
theorem batch_is_sequence_placed :
    let host := Host.ample (.knowing [] [])
    let client := (mcClientCreate 47 true true).toOption.get (by decide)
    let world := World.around
      { client with socketFd := 3, state := .play, transforms := some placing }
    let packets : List McOutboundPacket := [⟨1, .bytes [7, 8]⟩, ⟨2, .bytes []⟩]
    (mcClientSendBatch host (.packets packets) world).2.network.wire =
        (sendEach host packets world).2.network.wire ∧
      (mcClientSendBatch host (.packets (packets ++ [⟨-1, .bytes []⟩])) world).2.network.wire =
        [] := by
  intro host client world packets
  have streams : ∀ transforms, world.client.transforms = some transforms →
      transforms.ByteStream := by
    intro transforms there
    cases there
    exact placing_byteStream
  have batched : (mcClientSendBatch host (.packets packets) world).1 = some () := by decide +kernel
  have sequenced : (sendEach host packets world).1 = some () := by decide +kernel
  refine ⟨((batch_is_sequence host world packets).1 _ _ streams (Prod.ext batched rfl)
    (Prod.ext sequenced rfl)).1, ?_⟩
  have unencodable : Unencodable host (packets ++ [⟨-1, .bytes []⟩]) world := by
    refine ⟨packets, ⟨-1, .bytes []⟩, [], rfl, fun batch reached _ => ?_⟩
    rw [encodeFrame, Prog.bind_none (refuseIf_pos (.inl (by decide)))]
  exact ((batch_is_sequence host world _).2 unencodable).2.1.symm ▸ rfl

end McProtocol
