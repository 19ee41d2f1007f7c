import McProtocol.Client.World
import McProtocol.FrameFormat

/-! # Framing

A packet leaves as one frame: its length, under compression the length of what is
compressed, and the packet. Frames come back through the stream decoder, which a
client asks for one frame at a time.
-/

namespace McProtocol

/-- The data length and the inner bytes of a frame. -/
def frameContent (host : Host) (plain : List UInt8) : ClientM (List UInt8 × List UInt8) := do
  let threshold ← Prog.observe fun world => world.client.compressionThreshold
  if threshold < 0 then pure ([], plain)
  else if (plain.length : Int) < threshold then pure ([0], plain)
  else do
    let capacity := host.zlib.compressBound plain.length
    allocate host capacity "Compressione zlib fallita"
    match host.zlib.compress2 plain capacity with
    | none => setError "Compressione zlib fallita"
    | some compressed => pure (encodeVarint plain.length, compressed)

def encodeFrame (host : Host) (packetId : Int) (payload : Buffer) : ClientM (List UInt8) := do
  refuseIf (packetId < 0 ∨ mcMaxPacket < payload.size ∨ payload.Missing)
    "Packet ID o payload non valido"
  let plain := encodeVarint packetId ++ payload.content
  allocate host plain.length "Memoria insufficiente"
  let (dataLength, inner) ← frameContent host plain
  let framed := dataLength ++ inner
  refuseIf (int32Max < framed.length) "Frame troppo grande"
  let wire := encodeVarint framed.length ++ framed
  allocate host wire.length "Memoria insufficiente"
  pure wire

/-- What `send_frame` does. -/
def transmit (host : Host) (packetId : Int) (payload : Buffer) : ClientM Unit := do
  let wire ← encodeFrame host packetId payload
  sendAll host wire

/-- `send_frame`, with its entry in the world's log. -/
def sendFrame (host : Host) (packetId : Int) (payload : Buffer) : ClientM Unit := fun world =>
  let (result, world) := transmit host packetId payload world
  (result, { world with
    frames := world.frames ++ [⟨packetId, payload.content, result.isSome⟩] })

/-- `send_builder`: the error of a failed builder, or its body in a frame. -/
def sendBuilder (host : Host) (packetId : Int) (packet : McPacket) : ClientM Unit := do
  refuseIf (packet.failed = true) "Packet builder pieno"
  sendFrame host packetId packet.body

/-- The test every sending call starts with. -/
def refuseUnconnected : ClientM Unit := do
  let client ← Prog.observe World.client
  refuseIf (client.socketFd < 0 ∨ client.state = .disconnected) "Client non connesso"

def mcClientSend (host : Host) (packetId : Int) (payload : Buffer) : ClientM Unit := do
  refuseUnconnected
  sendFrame host packetId payload

structure McOutboundPacket where
  packetId : Int
  payload : Buffer
  deriving Repr, DecidableEq

/-- The packets and the count of a batch. -/
inductive Batch where
  | null (count : Nat)
  | packets (list : List McOutboundPacket)
  deriving Repr, DecidableEq

/-- The doubling of a batch's capacity. -/
def batchGrowLoop (needed grown : Nat) : Nat :=
  if 0 < grown ∧ grown < needed ∧ grown ≤ sizeMax / 2 then batchGrowLoop needed (grown * 2)
  else if grown < needed then needed
  else grown
termination_by needed - grown

/-- The loop of `mc_client_send_batch` behind the bytes of `batch`. -/
def batchLoop (host : Host) : List McOutboundPacket → Nat → List UInt8 → ClientM (List UInt8)
  | [], _, batch => pure batch
  | packet :: packets, capacity, batch => do
      let frame ← encodeFrame host packet.packetId packet.payload
      refuseIf (sizeMax - batch.length < frame.length) "Batch pacchetti troppo grande"
      let needed := batch.length + frame.length
      if capacity < needed then do
        let grown := batchGrowLoop needed (if capacity = 0 then 4096 else capacity)
        allocate host grown "Memoria insufficiente per il batch"
        batchLoop host packets grown (batch ++ frame)
      else batchLoop host packets capacity (batch ++ frame)

def mcClientSendBatch (host : Host) (batch : Batch) : ClientM Unit := do
  refuseUnconnected
  match batch with
  | .null count => refuseIf (count ≠ 0) "Batch pacchetti non valido"
  | .packets packets => do
      let batch ← batchLoop host packets 0 []
      if batch.length = 0 then pure () else sendAll host batch

section Encoding

variable {host : Host} {world after : World}

theorem refuseIf_pos {condition : Prop} [Decidable condition] {message : String}
    (bad : condition) : refuseIf condition message world = setError message world := by
  rw [refuseIf, if_pos bad]

theorem refuseIf_neg {condition : Prop} [Decidable condition] {message : String}
    (good : ¬ condition) : refuseIf condition message world = (some (), world) := by
  rw [refuseIf, if_neg good]
  rfl

theorem refuseIf_eq_some {condition : Prop} [Decidable condition] {message : String} {u : Unit}
    (run : refuseIf condition message world = (some u, after)) : ¬ condition ∧ after = world := by
  by_cases holds : condition
  · rw [refuseIf, if_pos holds] at run
    cases run
  · rw [refuseIf, if_neg holds] at run
    cases run
    exact ⟨holds, rfl⟩

theorem refuseIf_eq_none {condition : Prop} [Decidable condition] {message : String}
    (run : refuseIf condition message world = (none, after)) :
    condition ∧ after = { world with error := message } := by
  by_cases holds : condition
  · rw [refuseIf_pos holds] at run
    cases run
    exact ⟨holds, rfl⟩
  · rw [refuseIf_neg holds] at run
    cases run

/-- Allocating leaves everything but the count. -/
structure SameButMemory (before after : World) : Prop where
  client : after.client = before.client
  network : after.network = before.network
  events : after.events = before.events
  frames : after.frames = before.frames
  encrypted : after.encrypted = before.encrypted
  decrypted : after.decrypted = before.decrypted

/-- Programs that touch memory only. -/
def memoryOnly : Discipline World where
  inv _ := True
  step := SameButMemory
  le _ _ := False
  step_refl _ := ⟨rfl, rfl, rfl, rfl, rfl, rfl⟩
  step_trans left right :=
    ⟨right.client.trans left.client, right.network.trans left.network,
      right.events.trans left.events, right.frames.trans left.frames,
      right.encrypted.trans left.encrypted, right.decrypted.trans left.decrypted⟩

theorem memoryOnly_of_steps {α : Type} {program : ClientM α}
    (steps : ∀ world, SameButMemory world (program world).2) : memoryOnly.Lawful program where
  keeps _ _ := trivial
  steps world _ := steps world
  replay _ _ _ _ _ below := below.elim

theorem setError_memoryOnly {α : Type} (message : String) :
    memoryOnly.Lawful (setError message : ClientM α) :=
  memoryOnly_of_steps fun _ => ⟨rfl, rfl, rfl, rfl, rfl, rfl⟩

theorem refuseIf_memoryOnly (condition : Prop) [Decidable condition] (message : String) :
    memoryOnly.Lawful (refuseIf condition message) := by
  rw [refuseIf]
  split_ifs
  · exact setError_memoryOnly message
  · exact .pure ()

theorem allocate_memoryOnly (host : Host) (size : Nat) (message : String) :
    memoryOnly.Lawful (allocate host size message) := by
  apply memoryOnly_of_steps
  intro world
  rw [allocate]
  split_ifs
  · exact ⟨rfl, rfl, rfl, rfl, rfl, rfl⟩
  · exact ⟨rfl, rfl, rfl, rfl, rfl, rfl⟩

theorem frameContent_memoryOnly (host : Host) (plain : List UInt8) :
    memoryOnly.Lawful (frameContent host plain) := by
  refine .bind (.observe fun _ _ _ _ below => below.elim) fun threshold => ?_
  split_ifs
  · exact .pure _
  · exact .pure _
  · refine .bind (allocate_memoryOnly ..) fun _ => ?_
    cases host.zlib.compress2 plain (host.zlib.compressBound plain.length) with
    | none => exact setError_memoryOnly _
    | some compressed => exact .pure _

theorem encodeFrame_memoryOnly (host : Host) (packetId : Int) (payload : Buffer) :
    memoryOnly.Lawful (encodeFrame host packetId payload) :=
  .bind (refuseIf_memoryOnly ..) fun _ =>
    .bind (allocate_memoryOnly ..) fun _ =>
      .bind (frameContent_memoryOnly host _) fun _ =>
        .bind (refuseIf_memoryOnly ..) fun _ => .bind (allocate_memoryOnly ..) fun _ => .pure _

/-- Sending leaves everything of the client but a counter. -/
structure SameButSending (before after : World) : Prop where
  client : after.client = { before.client with sentBytes := after.client.sentBytes }
  events : after.events = before.events
  logged : before.frames <+: after.frames

theorem SameButSending.refl (world : World) : SameButSending world world :=
  ⟨rfl, rfl, List.prefix_rfl⟩

theorem SameButSending.trans {first second third : World} (left : SameButSending first second)
    (right : SameButSending second third) : SameButSending first third := by
  refine ⟨?_, right.events.trans left.events, left.logged.trans right.logged⟩
  rw [right.client, left.client]

theorem SameButMemory.sending {before after : World} (same : SameButMemory before after) :
    SameButSending before after :=
  ⟨by rw [same.client], same.events, by rw [same.frames]⟩

/-- Programs that send. -/
def sending : Discipline World :=
  .moving SameButSending .refl fun _ _ _ => .trans

theorem sending_of_memoryOnly {α : Type} {program : ClientM α}
    (lawful : memoryOnly.Lawful program) : sending.Lawful program :=
  .of_steps fun world => (lawful.steps world trivial).sending

/-- What is written, and what it was made of. -/
structure SameButWriting (before after : World) : Prop where
  client : after.client = { before.client with sentBytes := after.client.sentBytes }
  events : after.events = before.events
  frames : after.frames = before.frames

theorem SameButWriting.trans {first second third : World} (left : SameButWriting first second)
    (right : SameButWriting second third) : SameButWriting first third := by
  refine ⟨?_, right.events.trans left.events, right.frames.trans left.frames⟩
  rw [right.client, left.client]

def writing : Discipline World :=
  .moving SameButWriting (fun _ => ⟨rfl, rfl, rfl⟩) fun _ _ _ => .trans

theorem SameButMemory.writing {before after : World} (same : SameButMemory before after) :
    SameButWriting before after :=
  ⟨by rw [same.client], same.events, same.frames⟩

theorem encryptStream_writing (host : Host) (data : List UInt8) :
    writing.Lawful (encryptStream host data) := by
  apply Discipline.Lawful.of_steps
  intro world
  unfold encryptStream
  cases world.client.transforms with
  | none => exact ⟨rfl, rfl, rfl⟩
  | some transforms =>
      dsimp only
      split_ifs with nothing
      · exact ⟨rfl, rfl, rfl⟩
      · have same := (allocate_memoryOnly host data.length
          "Memoria insufficiente per la cifratura stream").steps world trivial
        rcases allocated : allocate host data.length
          "Memoria insufficiente per la cifratura stream" world with ⟨_ | u, granted⟩
        · rw [allocated] at same
          exact same.writing
        · rw [allocated] at same
          have written := same.writing
          dsimp only
          cases transforms.encrypt granted.encrypted data with
          | none => exact ⟨written.client, written.events, written.frames⟩
          | some transformed => exact ⟨written.client, written.events, written.frames⟩

theorem writeSocket_writing (wire : List UInt8) : writing.Lawful (writeSocket wire) := by
  apply Discipline.Lawful.of_steps
  intro world
  unfold writeSocket
  split_ifs with nothing closed
  · exact ⟨rfl, rfl, rfl⟩
  · exact ⟨rfl, rfl, rfl⟩
  · rcases sendLoop world.network.departures wire with ⟨_ | reason, written, departures⟩
    · exact ⟨rfl, rfl, rfl⟩
    · exact ⟨rfl, rfl, rfl⟩

theorem sendAll_writing (host : Host) (data : List UInt8) : writing.Lawful (sendAll host data) :=
  .bind (encryptStream_writing host data) writeSocket_writing

theorem sendAll_sending (host : Host) (data : List UInt8) : sending.Lawful (sendAll host data) :=
  .of_steps fun world => by
    have written := (sendAll_writing host data).moves world
    exact ⟨written.client, written.events, by rw [written.frames]⟩

theorem transmit_writing (host : Host) (packetId : Int) (payload : Buffer) :
    writing.Lawful (transmit host packetId payload) :=
  .bind (.of_steps fun world =>
    ((encodeFrame_memoryOnly host packetId payload).steps world trivial).writing)
    (sendAll_writing host)

theorem sendFrame_run (host : Host) (packetId : Int) (payload : Buffer) (world : World) :
    sendFrame host packetId payload world =
      ((transmit host packetId payload world).1,
        { (transmit host packetId payload world).2 with
          frames := world.frames ++
            [⟨packetId, payload.content, (transmit host packetId payload world).1.isSome⟩] }) := by
  have written := (transmit_writing host packetId payload).moves world
  rw [← written.frames]
  rfl

theorem sendFrame_sending (host : Host) (packetId : Int) (payload : Buffer) :
    sending.Lawful (sendFrame host packetId payload) := by
  apply Discipline.Lawful.of_steps
  intro world
  have written := (transmit_writing host packetId payload).moves world
  rw [sendFrame_run]
  exact ⟨written.client, written.events, List.prefix_append _ _⟩

theorem refuseIf_sending (condition : Prop) [Decidable condition] (message : String) :
    sending.Lawful (refuseIf condition message) :=
  sending_of_memoryOnly (refuseIf_memoryOnly condition message)

theorem observe_sending {α : Type} (read : World → α) : sending.Lawful (Prog.observe read) :=
  .observe fun _ _ _ _ below => below.elim

theorem sendBuilder_sending (host : Host) (packetId : Int) (packet : McPacket) :
    sending.Lawful (sendBuilder host packetId packet) :=
  .bind (refuseIf_sending _ _) fun _ => sendFrame_sending host packetId packet.body

theorem refuseUnconnected_sending : sending.Lawful refuseUnconnected :=
  .bind (observe_sending _) fun _ => refuseIf_sending _ _

theorem mcClientSend_sending (host : Host) (packetId : Int) (payload : Buffer) :
    sending.Lawful (mcClientSend host packetId payload) :=
  .bind refuseUnconnected_sending fun _ => sendFrame_sending host packetId payload

theorem batchLoop_memoryOnly (host : Host) (packets : List McOutboundPacket) (capacity : Nat)
    (batch : List UInt8) : memoryOnly.Lawful (batchLoop host packets capacity batch) := by
  induction packets generalizing capacity batch with
  | nil => exact .pure _
  | cons packet packets ih =>
      refine .bind (encodeFrame_memoryOnly host _ _) fun frame => ?_
      refine .bind (refuseIf_memoryOnly _ _) fun _ => ?_
      dsimp only
      split
      · exact .bind (allocate_memoryOnly ..) fun _ => ih _ _
      · exact ih _ _

theorem batchLoop_sending (host : Host) (packets : List McOutboundPacket) (capacity : Nat)
    (batch : List UInt8) : sending.Lawful (batchLoop host packets capacity batch) :=
  sending_of_memoryOnly (batchLoop_memoryOnly host packets capacity batch)

theorem mcClientSendBatch_sending (host : Host) (batch : Batch) :
    sending.Lawful (mcClientSendBatch host batch) := by
  refine .bind refuseUnconnected_sending fun _ => ?_
  cases batch with
  | null count => exact refuseIf_sending _ _
  | packets packets =>
      refine .bind (batchLoop_sending host packets 0 []) fun batch => ?_
      split_ifs
      · exact .pure ()
      · exact sendAll_sending host batch

theorem allocate_eq_some {size : Nat} {message : String} {u : Unit}
    (run : allocate host size message world = (some u, after)) : SameButMemory world after := by
  have steps := (allocate_memoryOnly host size message).steps world trivial
  rwa [run] at steps

theorem frameContent_eq_some {plain : List UInt8} {dataLength inner : List UInt8}
    (run : frameContent host plain world = (some (dataLength, inner), after)) :
    encodedContent host.zlib world.client.compressionThreshold plain =
      some (dataLength ++ inner) := by
  obtain ⟨threshold, start, observed, run⟩ := Prog.bind_eq_some run
  cases observed
  dsimp only at run
  rw [encodedContent]
  split_ifs at run ⊢ with off small
  · cases run
    rfl
  · cases run
    rfl
  · obtain ⟨_, granted, allocated, run⟩ := Prog.bind_eq_some run
    cases written : host.zlib.compress2 plain (host.zlib.compressBound plain.length) with
    | none =>
        rw [written] at run
        cases run
    | some compressed =>
        rw [written] at run
        cases run
        rfl

/-- An encoded frame is its content behind the length of it. -/
theorem encodeFrame_eq_some {packetId : Int} {payload : Buffer} {wire : List UInt8}
    (run : encodeFrame host packetId payload world = (some wire, after)) :
    0 ≤ packetId ∧ ∃ content, wire = framed content ∧
      encodedContent host.zlib world.client.compressionThreshold
        (encodeVarint packetId ++ payload.content) = some content := by
  obtain ⟨_, start, checked, afterCheck⟩ := Prog.bind_eq_some run
  obtain ⟨valid, rfl⟩ := refuseIf_eq_some checked
  obtain ⟨_, granted, allocated, afterPlain⟩ := Prog.bind_eq_some afterCheck
  have same := allocate_eq_some allocated
  obtain ⟨⟨dataLength, inner⟩, filled, content, afterContent⟩ := Prog.bind_eq_some afterPlain
  have encoded := frameContent_eq_some content
  obtain ⟨_, sized, fits, afterSize⟩ := Prog.bind_eq_some afterContent
  obtain ⟨_, last, _, returned⟩ := Prog.bind_eq_some afterSize
  cases returned
  rw [same.client] at encoded
  exact ⟨by omega, dataLength ++ inner, rfl, encoded⟩

end Encoding

/-- A feed of the client's decoder with room for one frame: the frame, if any, and its
payload, copied while it is valid. -/
def feedOne (host : Host) (data : Buffer) : ClientM (Option StreamPacket) := fun world =>
  let (result, decoder) := mcStreamDecoderFeed host.zlib host.streamHeap world.client.streamDecoder
    { data := data, frameCapacity := 1, framesNull := false, frameCountNull := false }
  let world := { world with client := { world.client with streamDecoder := decoder } }
  if result.ok then
    (some (result.frames.head?.map fun frame =>
      ⟨frame.packetId, decoder.bytes frame.payload, frame.compressed⟩), world)
  else
    setError ("Frame Minecraft non valido: " ++ mcErrorName result.error.code ++ " a " ++
      toString result.error.offset) world

def copyDecodedFrame (host : Host) (decoded : StreamPacket) : ClientM (List UInt8) := do
  let id := encodeVarint decoded.packetId
  refuseIf (sizeMax - id.length < decoded.payload.length)
    "Dimensione packet decodificato non valida"
  allocate host (id ++ decoded.payload).length "Memoria insufficiente per il frame"
  pure (id ++ decoded.payload)

def chunkCapacity : Nat := 8192

/-- One turn of the loop of `read_frame`: a frame, or nothing yet. -/
def readFrameTurn (host : Host) : ClientM (Option (List UInt8)) := do
  match ← feedOne host (.null 0) with
  | some decoded => return some (← copyDecodedFrame host decoded)
  | none => do
      let received ← receiveSome chunkCapacity
      match ← feedOne host received with
      | some decoded => return some (← copyDecodedFrame host decoded)
      | none => return none

/-- What the arrivals can still bring: every `recv` that returns bytes takes some. -/
def arrivalWeight (arrivals : List Arrival) : Nat :=
  (arrivals.map fun
    | .bytes chunk => 1 + chunk.length
    | _ => 1).sum

def readFrameLoop (host : Host) : Nat → ClientM (List UInt8)
  | 0 => .refuse
  | fuel + 1 => do
      match ← readFrameTurn host with
      | some frame => pure frame
      | none => readFrameLoop host fuel

def readFrame (host : Host) : ClientM (List UInt8) := fun world =>
  readFrameLoop host (arrivalWeight world.network.arrivals + 1) world

def mcClientSetCompression (threshold : Int) : ClientM Unit := fun world =>
  if world.client.socketFd < 0 then setError "Client non connesso" world
  else if threshold < -1 then setError "Soglia compressione non valida" world
  else
    match mcStreamDecoderSetCompression world.client.streamDecoder threshold with
    | (some error, decoder) =>
        setError ("Compressione non applicabile: " ++ mcErrorName error.code ++ " a " ++
          toString error.offset)
          { world with client := { world.client with streamDecoder := decoder } }
    | (none, decoder) =>
        (some (), { world with client := { world.client with
          streamDecoder := decoder
          compressionThreshold := threshold } })

/-- Receiving takes from what has arrived, counts it and may decrypt it; nothing else changes. -/
theorem receiveSome_after (capacity : Nat) (world : World) :
    ∃ arrivals waits received error decrypted,
      (receiveSome capacity world).2 =
        { world with
          client := { world.client with receivedBytes := received }
          network := { world.network with arrivals := arrivals, waits := waits }
          error := error
          decrypted := decrypted } ∧
      (arrivals = world.network.arrivals ∧ waits = world.network.waits ∨
        (arrivals, waits) =
          (receiveLoop capacity world.network.arrivals world.network.waits).2) := by
  unfold receiveSome
  split_ifs with closed
  · exact ⟨_, _, _, _, _, rfl, .inl ⟨rfl, rfl⟩⟩
  · rcases receiveLoop capacity world.network.arrivals world.network.waits with
      ⟨message | data, arrivals, waits⟩
    · exact ⟨_, _, _, _, _, rfl, .inr rfl⟩
    · dsimp only
      cases world.client.transforms with
      | none => exact ⟨_, _, _, _, _, rfl, .inr rfl⟩
      | some transforms =>
          dsimp only
          cases transforms.decrypt world.decrypted data with
          | none => exact ⟨_, _, _, _, _, rfl, .inr rfl⟩
          | some plain => exact ⟨_, _, _, _, _, rfl, .inr rfl⟩

/-- Feeding is left to the decoder. -/
theorem feedOne_after (host : Host) (data : Buffer) (world : World) :
    ∃ error, (feedOne host data world).2 =
      { world with
        client := { world.client with
          streamDecoder := (mcStreamDecoderFeed host.zlib host.streamHeap
            world.client.streamDecoder ⟨data, 1, false, false⟩).2 }
        error := error } := by
  unfold feedOne
  dsimp only
  split_ifs
  · exact ⟨_, rfl⟩
  · exact ⟨_, rfl⟩

end McProtocol
