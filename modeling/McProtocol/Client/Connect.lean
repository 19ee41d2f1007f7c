import McProtocol.Client.Application
import McProtocol.Uuid

/-! # Connecting

Opening a connection, logging in and the configuration exchange of modern releases.
Between any two steps the application is called back and may disconnect.
-/

namespace McProtocol

/-- The locale is `none` for a null pointer. -/
structure McClientInformation where
  locale : Option (List UInt8)
  viewDistance : Int
  chatMode : Int
  chatColors : Bool
  skinParts : UInt8
  difficulty : UInt8
  showCape : Bool
  mainHand : Int
  textFiltering : Bool
  serverListing : Bool
  particleStatus : Int
  deriving Repr, DecidableEq

def defaultClientInformation : McClientInformation where
  locale := some "en_us".toUTF8.toList
  viewDistance := 2
  chatMode := 0
  chatColors := true
  skinParts := 0x7f
  difficulty := 0
  showCape := true
  mainHand := 1
  textFiltering := false
  serverListing := true
  particleStatus := 0

def mcPacketClientInformation (protocol : Int) (value : McClientInformation) : WriteM Unit := do
  let locale := value.locale.getD []
  refuseWhen (mcProtocolSupported protocol = false ∨ value.locale = none)
  refuseWhen (locale.length = 0 ∨ 16 < locale.length
    ∨ value.viewDistance < 2 ∨ 32 < value.viewDistance
    ∨ value.chatMode < 0 ∨ 2 < value.chatMode
    ∨ protocol ≤ 5 ∧ 3 < value.difficulty
    ∨ 107 ≤ protocol ∧ (value.mainHand < 0 ∨ 1 < value.mainHand)
    ∨ 768 ≤ protocol ∧ (value.particleStatus < 0 ∨ 2 < value.particleStatus))
  mcPacketStringN locale
  mcPacketI8 value.viewDistance
  if protocol ≤ 47 then mcPacketI8 value.chatMode else mcPacketVarint value.chatMode
  mcPacketBool value.chatColors
  if protocol ≤ 5 then do
    mcPacketU8 value.difficulty
    mcPacketBool value.showCape
  else do
    mcPacketU8 value.skinParts
    .when (107 ≤ protocol) (mcPacketVarint value.mainHand)
    .when (755 ≤ protocol) (mcPacketBool value.textFiltering)
    .when (757 ≤ protocol) (mcPacketBool value.serverListing)
    .when (768 ≤ protocol) (mcPacketVarint value.particleStatus)

section Connecting

variable (host : Host) (app : App)

/-- `read_protocol_packet`: the id of the next packet and a reader on its body. -/
def readProtocolPacket (state : McState) : ClientM (Int × McReader) := do
  let frame ← readFrame host
  match mcReaderVarint.run (mcReaderInit frame) with
  | (none, _) => setError "Pacchetto senza ID VarInt"
  | (some packetId, body) => do
      emitPacket host app state packetId (body.data.drop body.offset)
      pure (packetId, body)

/-- `connect_tcp`, which says itself what went wrong. -/
def connectTcp : ClientM Nat := fun world =>
  match world.network.connections with
  | [] => setError "Connessione TCP fallita: Connection refused" world
  | .error message :: connections =>
      setError message { world with network := { world.network with connections := connections } }
  | .ok socketFd :: connections =>
      (some socketFd, { world with network := { world.network with connections := connections } })

def backendInit : ClientM Unit := fun world =>
  match world.network.backends with
  | [] => (some (), world)
  | .error message :: backends =>
      setError message { world with network := { world.network with backends := backends } }
  | .ok () :: backends =>
      (some (), { world with network := { world.network with backends := backends } })

/-- Dialling uses up what the network has in store, and nothing else. -/
structure SameButDialling (before after : World) : Prop where
  client : after.client = before.client
  events : after.events = before.events
  wire : after.network.wire = before.network.wire

theorem connectTcp_eq_some {world after : World} {socketFd : Nat}
    (run : connectTcp world = (some socketFd, after)) : SameButDialling world after := by
  unfold connectTcp at run
  split at run
  · cases run
  · cases run
  · cases run
    exact ⟨rfl, rfl, rfl⟩

theorem backendInit_eq_some {world after : World} {u : Unit}
    (run : backendInit world = (some u, after)) : SameButDialling world after := by
  unfold backendInit at run
  split at run
  · cases run
    exact ⟨rfl, rfl, rfl⟩
  · cases run
  · cases run
    exact ⟨rfl, rfl, rfl⟩

def mcDefaultPort : Nat := 25565

/-- What `mc_client_open` resets. -/
def McClient.reopened (client : McClient) : McClient :=
  { client with
    stop := false
    streamDecoder := mcStreamDecoderReset client.streamDecoder
    compressionThreshold := -1
    playerLoadedSent := false
    transforms := none
    serverSide := false }

def handshakePacket (protocol : Int) (address : List UInt8) (port : UInt16) (next : McState) :
    WriteM Unit := do
  mcPacketVarint protocol
  mcPacketStringN address
  mcPacketU16 (if port = 0 then mcDefaultPort else port.toNat)
  mcPacketVarint (if next = .status then 1 else 2)

/-- `mc_client_open`; an address that is not there is empty. -/
def mcClientOpen (address : List UInt8) (port : UInt16) (next : McState) : ClientM Unit := do
  refuseIf (address = [] ∨ next ≠ .login ∧ next ≠ .status) "Host o stato handshake non valido"
  let client ← Prog.observe World.client
  refuseIf (0 ≤ client.socketFd) "Client gia connesso"
  modifyClient McClient.reopened
  let socketFd ← connectTcp
  modifyClient fun client => { client with socketFd := socketFd }
  orDisconnect host app do
    backendInit
    let handshake := buildPacket 512 (handshakePacket client.profile.protocol address port next)
    sendBuilder host 0x00 handshake.2
  changeState host app next

/-- The client information, in 128 bytes of storage. -/
def sendInformation (information : McClientInformation) : ClientM Unit := do
  let client ← Prog.observe World.client
  let settings := buildPacket 128 (mcPacketClientInformation client.profile.protocol information)
  sendBuilder host 0x00 settings.2

/-- The answer to the known packs: the same selection from 776 on, none before. -/
def selectKnownPacks (protocol : Int) (body : McReader) : WriteM Unit :=
  if 776 ≤ protocol then mcPacketBytes (body.data.drop body.offset) else mcPacketVarint 0

/-- The answer to a resource pack nobody asked for. -/
def resourcePackAnswer : WriteM Unit := do
  mcPacketBytes (.bytes (List.replicate 16 0))
  mcPacketVarint 0

/-- The packet that ends the configuration, either way. -/
def finishId (protocol : Int) : Int := if 766 ≤ protocol then 0x03 else 0x02

/-- What `configuration` does when the server has finished. -/
def finishConfiguration (protocol : Int) (requested : Option McClientInformation)
    (informationSent : Bool) : ClientM Unit := do
  .when (informationSent = false)
    (sendInformation host (requested.getD defaultClientInformation))
  .when (765 ≤ protocol ∧ protocol ≤ 775)
    (sendBuilder host (if protocol = 765 then 0x05 else 0x06) (buildPacket 20 resourcePackAnswer).2)
  sendFrame host (finishId protocol) (.null 0)

/-- The loop of `configuration`, with `left` packets to go. -/
def configurationLoop (protocol : Int) (requested : Option McClientInformation) :
    Nat → Bool → ClientM Unit
  | 0, _ => setError "Configuration non terminata"
  | left + 1, informationSent => do
      let (packetId, body) ← readProtocolPacket host app .configuration
      let early := 776 ≤ protocol ∧ informationSent = false
      .when early (sendInformation host
        (requested.getD { defaultClientInformation with serverListing := false }))
      let knownPacksId := host.catalog.mcPacketId protocol .configuration .clientbound
        "select_known_packs"
      .when (766 ≤ protocol ∧ 0 ≤ knownPacksId ∧ packetId = knownPacksId)
        (sendBuilder host 0x07 (buildPacket 1024 (selectKnownPacks protocol body)).2)
      if packetId = finishId protocol then
        finishConfiguration host protocol requested (informationSent || decide early)
      else configurationLoop protocol requested left (informationSent || decide early)

/-- `configuration` up to its change of state to PLAY. -/
def configurationExchange (requested : Option McClientInformation) : ClientM Unit := do
  changeState host app .configuration
  sendFrame host 0x03 (.null 0)
  let client ← Prog.observe World.client
  configurationLoop host app client.profile.protocol requested mcConfigPackets false

def loginPacket (profile : McProfile) (username : List UInt8) (profileId : McUuid) :
    WriteM Unit := do
  mcPacketStringN username
  .when (.loginKey ∈ profile.flags) (mcPacketU8 0)
  if .optionalUuid ∈ profile.flags then do
    mcPacketU8 1
    mcPacketUuid profileId
  else .when (.requiredUuid ∈ profile.flags) (mcPacketUuid profileId)

/-- The loop of `client_connect_profile` up to the login success, with `left` packets
to go. -/
def loginLoop : Nat → ClientM Unit
  | 0 => setError "Login Success non ricevuto"
  | left + 1 => do
      let (packetId, body) ← readProtocolPacket host app .login
      if packetId = 0x00 then setError "Login rifiutato dal server"
      else if packetId = 0x01 then
        setError "Online-mode/encryption non supportato da questa build"
      else if packetId = 0x03 then
        match (mcReaderVarint.run body).1 with
        | none => setError "Soglia compressione non valida"
        | some threshold => do
            refuseIf (threshold < 0) "Soglia compressione non valida"
            mcClientSetCompression threshold
            loginLoop left
      else if packetId = 0x02 then pure ()
      else loginLoop left

/-- What `client_connect_profile` does behind the opening, up to its change of state to
PLAY. -/
def logIn (username : List UInt8) (profileId : McUuid)
    (requested : Option McClientInformation) : ClientM Unit := do
  let client ← Prog.observe World.client
  sendBuilder host 0x00 (buildPacket 512 (loginPacket client.profile username profileId)).2
  loginLoop host app mcLoginPackets
  .when (.configuration ∈ client.profile.flags) (configurationExchange host app requested)

/-- `client_connect_profile` up to its change of state to PLAY. -/
def reachPlay (address : List UInt8) (port : UInt16) (username : List UInt8)
    (profileId : Option McUuid) (requested : Option McClientInformation) : ClientM Unit := do
  refuseIf (address = [] ∨ ¬ ValidUsername username) "Host o username non valido"
  match profileId with
  | none => setError "Host o username non valido"
  | some profileId => do
      mcClientOpen host app address port .login
      orDisconnect host app (logIn host app username profileId requested)

def clientConnectProfile (address : List UInt8) (port : UInt16) (username : List UInt8)
    (profileId : Option McUuid) (requested : Option McClientInformation) : ClientM Unit := do
  reachPlay host app address port username profileId requested
  changeState host app .play

def mcClientConnectProfile (address : List UInt8) (port : UInt16) (username : List UInt8)
    (profileId : Option McUuid) (requested : Option McClientInformation) : ClientM Unit :=
  clientConnectProfile host app address port username profileId requested

def mcClientConnect (address : List UInt8) (port : UInt16) (username : List UInt8) :
    ClientM Unit := do
  let profileId := mcOfflineUuid username
  refuseIf (¬ ValidUsername username ∨ profileId = none) "Host o username non valido"
  clientConnectProfile host app address port username profileId none

end Connecting

/-- The two ways to connect. -/
inductive ConnectCall where
  | connect (address : List UInt8) (port : UInt16) (username : List UInt8)
  | connectProfile (address : List UInt8) (port : UInt16) (username : List UInt8)
      (profileId : Option McUuid) (requested : Option McClientInformation)

namespace ConnectCall

variable (host : Host) (app : App)

def perform : ConnectCall → ClientM Unit
  | .connect address port username => mcClientConnect host app address port username
  | .connectProfile address port username profileId requested =>
      mcClientConnectProfile host app address port username profileId requested

/-- The call up to its change of state to PLAY. -/
def reach : ConnectCall → ClientM Unit
  | .connect address port username => do
      let profileId := mcOfflineUuid username
      refuseIf (¬ ValidUsername username ∨ profileId = none) "Host o username non valido"
      reachPlay host app address port username profileId none
  | .connectProfile address port username profileId requested =>
      reachPlay host app address port username profileId requested

end ConnectCall

/-- Connected in PLAY on success, closed on failure. -/
structure Settled (outcome : Option Unit × World) : Prop where
  play : outcome.1 = some () →
    outcome.2.client.state = .play ∧ 0 ≤ outcome.2.client.socketFd
  closed : outcome.1 = none →
    outcome.2.client.state = .disconnected ∧ outcome.2.client.socketFd = -1

/-- The state callback told of PLAY neither disconnects nor leaves the state. -/
def App.StaysInPlay (host : Host) (app : App) (before : World) : Prop :=
  let told := (changeState host app .play before).2
  told.client.state = .play ∧ told.client.socketFd = before.client.socketFd

section Ending

variable {host : Host} {app : App} {world after : World}

theorem ConnectCall.perform_eq (call : ConnectCall) :
    call.perform host app world = (call.reach host app >>= fun _ => changeState host app .play)
      world := by
  cases call with
  | connectProfile address port username profileId requested => rfl
  | connect address port username =>
      simp only [perform, reach, mcClientConnect, clientConnectProfile, Prog.bind_run]
      rcases refuseIf (¬ ValidUsername username ∨ mcOfflineUuid username = none)
        "Host o username non valido" world with ⟨_ | u, start⟩
      · rfl
      · rfl

/-- A frame that was sent needed a socket. -/
theorem writeSocket_connected {wire : List UInt8} {u : Unit} (some : wire ≠ [])
    (run : writeSocket wire world = (Option.some u, after)) : 0 ≤ after.client.socketFd := by
  unfold writeSocket at run
  have long : ¬ wire.length = 0 := fun zero => some (List.length_eq_zero_iff.mp zero)
  rw [if_neg long] at run
  split_ifs at run with closed
  · cases run
  · rcases looped : sendLoop world.network.departures wire with ⟨_ | reason, written, departures⟩
    · rw [looped] at run
      cases run
      exact not_lt.mp closed
    · rw [looped] at run
      cases run

theorem encryptStream_nonempty {data wire : List UInt8} (some : data ≠ [])
    (run : encryptStream host data world = (Option.some wire, after)) : wire ≠ [] := by
  unfold encryptStream at run
  cases there : world.client.transforms with
  | none =>
      rw [there] at run
      cases run
      exact some
  | some transforms =>
      rw [there] at run
      dsimp only at run
      split_ifs at run with nothing
      · cases run
        exact some
      · rcases allocated : allocate host data.length
          "Memoria insufficiente per la cifratura stream" world with ⟨_ | u, granted⟩
        · rw [allocated] at run
          cases run
        · rw [allocated] at run
          dsimp only at run
          cases encrypted : transforms.encrypt granted.encrypted data with
          | none =>
              rw [encrypted] at run
              cases run
          | some transformed =>
              rw [encrypted] at run
              cases run
              have length := transforms.encrypt_length _ _ _ encrypted
              intro empty
              rw [empty] at length
              exact nothing length.symm

theorem sendFrame_connected {packetId : Int} {payload : Buffer} {u : Unit}
    (run : sendFrame host packetId payload world = (some u, after)) :
    0 ≤ after.client.socketFd := by
  rw [sendFrame_run] at run
  rcases transmitted : transmit host packetId payload world with ⟨result, reached⟩
  rw [transmitted] at run
  cases run
  obtain ⟨wire, encoded, made, sent⟩ := Prog.bind_eq_some transmitted
  obtain ⟨_, content, rfl, _⟩ := encodeFrame_eq_some made
  obtain ⟨ciphered, told, encrypted, written⟩ := Prog.bind_eq_some sent
  have connected := writeSocket_connected
    (encryptStream_nonempty (framed_ne_nil content) encrypted) written
  exact connected

/-- The configuration exchange ends with a frame that was sent, so that no callback has
disconnected by then. -/
theorem configurationLoop_connected {protocol : Int} {requested : Option McClientInformation}
    {left : Nat} {informationSent : Bool} {u : Unit}
    (run : configurationLoop host app protocol requested left informationSent world =
      (some u, after)) : 0 ≤ after.client.socketFd := by
  induction left generalizing informationSent world with
  | zero => cases run
  | succ left ih =>
      obtain ⟨⟨packetId, body⟩, received, _, afterRead⟩ := Prog.bind_eq_some run
      obtain ⟨_, informed, _, afterInformation⟩ := Prog.bind_eq_some afterRead
      obtain ⟨_, selected, _, afterPacks⟩ := Prog.bind_eq_some afterInformation
      split at afterPacks
      · obtain ⟨_, settled, _, afterSettings⟩ := Prog.bind_eq_some afterPacks
        obtain ⟨_, packed, _, sent⟩ := Prog.bind_eq_some afterSettings
        exact sendFrame_connected sent
      · exact ih afterPacks

theorem configurationExchange_connected {requested : Option McClientInformation} {u : Unit}
    (run : configurationExchange host app requested world = (some u, after)) :
    0 ≤ after.client.socketFd := by
  obtain ⟨_, entered, _, afterChange⟩ := Prog.bind_eq_some run
  obtain ⟨_, sent, _, afterFrame⟩ := Prog.bind_eq_some afterChange
  obtain ⟨client, start, _, looped⟩ := Prog.bind_eq_some afterFrame
  exact configurationLoop_connected looped

/-- An opening that fails leaves a closed client closed. -/
theorem mcClientOpen_none {address : List UInt8} {port : UInt16} {next : McState}
    (closed : world.client.Closed)
    (run : mcClientOpen host app address port next world = (none, after)) :
    after.client.Closed := by
  obtain refused | ⟨_, start, checked, afterCheck⟩ := Prog.bind_eq_none run
  · obtain ⟨-, rfl⟩ := refuseIf_eq_none refused
    exact closed
  obtain ⟨-, same⟩ := refuseIf_eq_some checked
  subst same
  obtain refused | ⟨client, seen, observed, afterSeen⟩ := Prog.bind_eq_none afterCheck
  · cases refused
  cases observed
  obtain refused | ⟨_, free, unconnected, afterFree⟩ := Prog.bind_eq_none afterSeen
  · obtain ⟨-, rfl⟩ := refuseIf_eq_none refused
    exact closed
  obtain ⟨-, same⟩ := refuseIf_eq_some unconnected
  subst same
  obtain refused | ⟨_, reset, modified, afterReset⟩ := Prog.bind_eq_none afterFree
  · cases refused
  cases modified
  obtain refused | ⟨socketFd, connected, _, afterConnect⟩ := Prog.bind_eq_none afterReset
  · unfold connectTcp at refused
    split at refused
    · cases refused
      exact ⟨closed.socket, closed.state⟩
    · cases refused
      exact ⟨closed.socket, closed.state⟩
    · cases refused
  obtain refused | ⟨_, attached, _, afterAttach⟩ := Prog.bind_eq_none afterConnect
  · cases refused
  obtain failed | ⟨_, greeted, _, changed⟩ := Prog.bind_eq_none afterAttach
  · exact orDisconnect_none host failed
  · obtain ⟨_, _, returned⟩ := changeStateAt_total host app app.nesting next greeted
    rw [changeState, returned] at changed
    cases changed

theorem reachPlay_none {address : List UInt8} {port : UInt16} {username : List UInt8}
    {profileId : Option McUuid} {requested : Option McClientInformation}
    (closed : world.client.Closed)
    (run : reachPlay host app address port username profileId requested world = (none, after)) :
    after.client.Closed := by
  obtain refused | ⟨_, start, checked, afterCheck⟩ := Prog.bind_eq_none run
  · obtain ⟨-, rfl⟩ := refuseIf_eq_none refused
    exact closed
  obtain ⟨-, same⟩ := refuseIf_eq_some checked
  subst same
  cases profileId with
  | none =>
      cases afterCheck
      exact closed
  | some profileId =>
      obtain refused | ⟨_, opened, _, failed⟩ := Prog.bind_eq_none afterCheck
      · exact mcClientOpen_none closed refused
      · exact orDisconnect_none host failed

theorem ConnectCall.reach_none (call : ConnectCall) (closed : world.client.Closed)
    (run : call.reach host app world = (none, after)) : after.client.Closed := by
  cases call with
  | connectProfile address port username profileId requested => exact reachPlay_none closed run
  | connect address port username =>
      obtain refused | ⟨_, start, checked, reached⟩ := Prog.bind_eq_none run
      · obtain ⟨-, rfl⟩ := refuseIf_eq_none refused
        exact closed
      · obtain ⟨-, same⟩ := refuseIf_eq_some checked
        subst same
        exact reachPlay_none closed reached

/-- A connect that fails leaves the client closed; one that succeeds leaves it connected
in PLAY exactly when no callback disconnects unnoticed: not before PLAY is entered, and
not when the application is told of it. -/
theorem settled_iff_reach (host : Host) (app : App) (call : ConnectCall) (world : World)
    (closed : world.client.Closed) :
    Settled (call.perform host app world) ↔
      ∀ before, call.reach host app world = (some (), before) →
        0 ≤ before.client.socketFd ∧ app.StaysInPlay host before := by
  rw [call.perform_eq]
  rcases reached : call.reach host app world with ⟨_ | u, before⟩
  · rw [Prog.bind_none reached]
    have shut := call.reach_none closed reached
    constructor
    · intro _ before entered
      cases entered
    · intro _
      exact ⟨nofun, fun _ => ⟨shut.state, shut.socket⟩⟩
  · obtain ⟨u, told, returned⟩ := changeStateAt_total host app app.nesting .play before
    have entered : changeState host app .play before = (some u, told) := returned
    have socket := changeStateAt_socket host app app.nesting .play before
    rw [returned] at socket
    rw [Prog.bind_some reached, entered]
    constructor
    · intro settled before' same
      cases same
      obtain ⟨state, connected⟩ := settled.play rfl
      unfold App.StaysInPlay
      rw [entered]
      dsimp only at socket connected
      cases socket with
      | inl kept => exact ⟨kept ▸ connected, state, kept⟩
      | inr gone =>
          rw [gone] at connected
          exact absurd connected (by decide)
    · intro condition
      obtain ⟨connected, stays⟩ := condition before rfl
      unfold App.StaysInPlay at stays
      rw [entered] at stays
      refine ⟨fun _ => ⟨stays.1, ?_⟩, nofun⟩
      dsimp only at stays ⊢
      rw [stays.2]
      exact connected

end Ending

/-- A server that accepts the client's connection and sends it `bytes`. -/
def World.serving (client : McClient) (bytes : List UInt8) : World :=
  let quiet := World.around client
  { quiet with network := { quiet.network with
      connections := [.ok 3]
      arrivals := [.bytes bytes] } }

instance (outcome : Option Unit × World) : Decidable (Settled outcome) :=
  decidable_of_iff
    ((outcome.1 = some () → outcome.2.client.state = .play ∧ 0 ≤ outcome.2.client.socketFd) ∧
      (outcome.1 = none → outcome.2.client.state = .disconnected ∧ outcome.2.client.socketFd = -1))
    ⟨fun both => ⟨both.1, both.2⟩, fun settled => ⟨settled.play, settled.closed⟩⟩

end McProtocol
