import McProtocol.Client.Connect

/-! # Play

In PLAY a client answers what keeps a connection alive: keep-alives, positions the server
sets, and chunk batches. The application has every packet before it is answered.
-/

namespace McProtocol

def movementPacket (protocol : Int) : Int :=
  if protocol ≤ 47 then 0x06
  else if protocol ≤ 316 then 0x0d
  else if protocol = 335 then 0x0f
  else if protocol ≤ 340 then 0x0e
  else if protocol ≤ 404 then 0x11
  else if protocol ≤ 734 then 0x12
  else if protocol ≤ 754 then 0x13
  else if protocol ≤ 758 then 0x12
  else if protocol = 759 then 0x14
  else if protocol = 760 then 0x15
  else if protocol = 761 then 0x14
  else if protocol ≤ 763 then 0x15
  else if protocol = 764 then 0x17
  else if protocol = 765 then 0x18
  else if protocol ≤ 767 then 0x1b
  else if protocol ≤ 770 then 0x1d
  else if protocol ≤ 774 then 0x1e
  else 0x1f

def playerLoadedPacket (protocol : Int) : Int :=
  if 775 ≤ protocol then 0x2c
  else if 771 ≤ protocol then 0x2b
  else if 769 ≤ protocol then 0x2a
  else -1

def batchResponsePacket (protocol : Int) : Int :=
  if 775 ≤ protocol then 0x0b
  else if 771 ≤ protocol then 0x0a
  else if 768 ≤ protocol then 0x09
  else if 766 ≤ protocol then 0x08
  else if 764 ≤ protocol then 0x07
  else -1

/-- The packet that ends a batch of chunks. -/
def batchFinishedPacket (protocol : Int) : Int :=
  if 770 ≤ protocol then 0x0b else if 764 ≤ protocol then 0x0c else -1

/-- The bits of `automatic_replies`. -/
inductive AutomaticReply where
  | keepAlive
  | teleport
  | playerLoaded
  | chunkBatch
  deriving Repr, DecidableEq

def AutomaticReply.bit : AutomaticReply → Nat
  | .keepAlive => 0
  | .teleport => 1
  | .playerLoaded => 2
  | .chunkBatch => 3

/-- `(client->automatic_replies & MC_AUTOMATIC_…) != 0`. -/
def McClient.replies (client : McClient) (reply : AutomaticReply) : Bool :=
  client.automaticReplies.testBit reply.bit

/-- The last known position, if there is one. -/
def McClient.known (client : McClient) : Option McPlayerPosition :=
  if client.trackedPositionValid then some client.trackedPosition else none

/-- Bit `axis` of the flags is set. -/
def McClientboundPlayerPosition.relative (decoded : McClientboundPlayerPosition) (axis : Nat) :
    Bool :=
  decoded.relativeFlags.testBit axis

/-- Relative axes count from the last known position; without one the wire values are
absolute. -/
def resolvePosition (known : Option McPlayerPosition) (decoded : McClientboundPlayerPosition) :
    McPlayerPosition :=
  match known with
  | none => decoded.position
  | some last =>
      let position := decoded.position
      { position with
        x := if decoded.relative 0 then position.x + last.x else position.x
        y := if decoded.relative 1 then position.y + last.y else position.y
        z := if decoded.relative 2 then position.z + last.z else position.z
        yaw := if decoded.relative 3 then position.yaw + last.yaw else position.yaw
        pitch := if decoded.relative 4 then position.pitch + last.pitch else position.pitch }

/-- The teleport confirmation, which carries the accepted position from 777 on. -/
def confirmationPacket (protocol : Int) (teleportId : Int) (absolute : McPlayerPosition) :
    WriteM Unit := do
  mcPacketVarint teleportId
  .when (777 ≤ protocol) do
    mcPacketDouble absolute.x
    mcPacketDouble absolute.y
    mcPacketDouble absolute.z
    mcPacketFloat absolute.yaw
    mcPacketFloat absolute.pitch

section Answers

variable (host : Host)

/-- The movement packet with which releases before 107 accept a position. -/
def answerMovement (decoded : McClientboundPlayerPosition) : ClientM Unit := do
  let client ← Prog.observe World.client
  let protocol := client.profile.protocol
  .when (protocol < 107 ∧ client.replies .teleport = true)
    (sendBuilder host (movementPacket protocol)
      (buildPacket 48 (mcPacketPlayerPosition protocol
        { decoded.position with onGround := true })).2)

def answerTeleport (decoded : McClientboundPlayerPosition) (absolute : McPlayerPosition) :
    ClientM Unit := do
  let client ← Prog.observe World.client
  .when (decoded.hasTeleportId = true ∧ client.replies .teleport = true)
    (sendBuilder host client.profile.teleportConfirm
      (buildPacket 48
        (confirmationPacket client.profile.protocol decoded.teleportId absolute)).2)

def answerLoaded : ClientM Unit := do
  let client ← Prog.observe World.client
  let loaded := playerLoadedPacket client.profile.protocol
  .when (0 ≤ loaded ∧ client.playerLoadedSent = false ∧ client.replies .playerLoaded = true) do
    sendFrame host loaded (.null 0)
    modifyClient fun client => { client with playerLoadedSent := true }

/-- What `handle_play` does with a Player Position. -/
def answerPosition (body : McReader) : ClientM Unit := do
  let client ← Prog.observe World.client
  let (result, rest) := (mcReaderClientboundPlayerPosition client.profile.protocol).run body
  match result with
  | none => setError "Player Position non valido"
  | some decoded => do
      refuseIf (mcReaderRemaining rest ≠ 0) "Player Position non valido"
      let absolute := resolvePosition client.known decoded
      trackPosition absolute
      answerMovement host decoded
      answerTeleport host decoded absolute
      answerLoaded host

/-- `64.0F`. -/
def chunksPerTick : McFloat := ⟨0x42800000⟩

def answerBatch : ClientM Unit := do
  let client ← Prog.observe World.client
  sendBuilder host (batchResponsePacket client.profile.protocol)
    (buildPacket 4 (mcPacketFloat chunksPerTick)).2

def handlePlay (packetId : Int) (body : McReader) : ClientM Unit := do
  let client ← Prog.observe World.client
  if packetId = client.profile.keepAlive ∧ client.replies .keepAlive = true then
    sendFrame host client.profile.keepAliveResponse (body.data.drop body.offset)
  else do
    .when (packetId = client.profile.playerPosition ∧
        (client.replies .teleport || client.replies .playerLoaded) = true)
      (answerPosition host body)
    .when (packetId = batchFinishedPacket client.profile.protocol ∧
        client.replies .chunkBatch = true)
      (answerBatch host)

end Answers

/-- A packet as `mc_client_poll` hands it on: the state it came in, its id and body. -/
structure Received where
  state : McState
  packetId : Int
  body : McReader
  deriving DecidableEq

section Polling

variable (host : Host) (app : App)

/-- Whether there may be a packet: a whole frame is buffered, or the socket gets ready. -/
def pollReady : ClientM Bool := do
  let client ← Prog.observe World.client
  if streamDecoderFrameReady client.streamDecoder then pure true
  else
    match ← backendWait with
    | .ready => pure true
    | .timeout => pure false
    | .failed reason => setError ("Attesa socket fallita: " ++ reason)

/-- Read a packet with the timeout of the poll, and put the client's back whether or not
that succeeded. -/
def pollRead (timeoutMs : Nat) : ClientM Received := fun world =>
  let state := world.client.state
  let saved := world.client.readTimeoutMs
  let (result, world) := readProtocolPacket host app state
    { world with client := { world.client with readTimeoutMs := timeoutMs } }
  (result.map fun packet => ⟨state, packet.1, packet.2⟩,
    { world with client := { world.client with readTimeoutMs := saved } })

/-- The first half of `mc_client_poll`: the next packet, if there is one, and the
application's callback on it. -/
def pollPacket (timeoutMs : Nat) : ClientM (Option Received) := do
  if ← pollReady then
    let received ← pollRead host app timeoutMs
    pure (some received)
  else pure none

/-- The application has left the client in PLAY and connected. -/
def McClient.Playing (client : McClient) : Prop := client.state = .play ∧ 0 ≤ client.socketFd

instance : DecidablePred McClient.Playing := fun _ => inferInstanceAs (Decidable (_ ∧ _))

/-- The second half of `mc_client_poll`: an answer, unless a callback moved on. -/
def pollAnswer (received : Received) : ClientM Unit := do
  let client ← Prog.observe World.client
  .when (received.state = .play ∧ client.Playing) (handlePlay host received.packetId received.body)

/-- `mc_client_poll` on a connection that is not stopped. -/
def pollConnected (timeoutMs : Nat) : ClientM Bool := do
  match ← pollPacket host app timeoutMs with
  | none => pure false
  | some received => do
      pollAnswer host received
      pure true

/-- `mc_client_poll`, which returns whether a packet was handled. -/
def mcClientPoll (timeoutMs : Nat) : ClientM Bool := do
  refuseUnconnected
  let client ← Prog.observe World.client
  if client.stop then pure false
  else orDisconnect host app (pollConnected host app timeoutMs)

end Polling

end McProtocol
