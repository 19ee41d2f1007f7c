import McProtocol.Client.Framing
import McProtocol.Writing

/-! # The application

A client calls its application back on every packet and every change of state, and the
application may call the client from there. What it does is a program that depends on
all it was told before; within a call back it neither opens nor polls.
-/

namespace McProtocol

/-- The argument of `mc_client_set_stream_transforms`. -/
inductive TransformsArgument where
  | null
  | incomplete
  | given (transforms : McStreamTransforms)

inductive AppCall where
  | disconnect
  | setState (state : McState)
  | setCompression (threshold : Int)
  | setReadTimeout (timeoutMs : Nat)
  | setStreamTransforms (transforms : TransformsArgument)
  | send (packetId : Int) (payload : Buffer)
  | sendNamed (packetName : String) (payload : Buffer)
  | sendBatch (batch : Batch)
  | sendPlayerPosition (position : McPlayerPosition)

/-- What an application does in a callback, told whether each call returned `0`. -/
inductive AppProgram where
  | done
  | call (request : AppCall) (next : Bool → AppProgram)

/-- The callbacks, `none` for a null pointer. State callbacks nest: `nesting` levels
down the application only listens. -/
structure App where
  onState : Option (List McEvent → AppProgram)
  onPacket : Option (List McEvent → AppProgram)
  nesting : Nat

def tell (event : McEvent) : ClientM Unit := fun world =>
  (some (), { world with events := world.events ++ [event] })

/-- Whether a call returned `0`. -/
def answered (call : ClientM Unit) : ClientM Bool := fun world =>
  let (result, world) := call world
  (some result.isSome, world)

section Calls

variable (host : Host) (change : McState → ClientM Unit)

/-- `mc_client_disconnect`, where `change` is `change_state`. -/
def disconnectWith : ClientM Unit := do
  modifyClient fun client => { client with stop := true, socketFd := -1 }
  change .disconnected

def setStateWith (state : McState) : ClientM Unit := do
  let client ← Prog.observe World.client
  refuseIf (client.socketFd < 0) "Client non connesso"
  refuseIf (state = .disconnected) "Stato protocollo non valido"
  change state

def mcClientSetReadTimeout (timeoutMs : Nat) : ClientM Unit := do
  refuseIf (timeoutMs = 0) "Timeout lettura non valido"
  modifyClient fun client => { client with readTimeoutMs := timeoutMs }

/-- New transforms have been given nothing yet. -/
def installTransforms (transforms : Option McStreamTransforms) : ClientM Unit := fun world =>
  (some (), { world with
    client := { world.client with transforms := transforms }
    encrypted := []
    decrypted := [] })

def mcClientSetStreamTransforms (transforms : TransformsArgument) : ClientM Unit := do
  let client ← Prog.observe World.client
  refuseIf (client.socketFd < 0) "Client non connesso"
  match transforms with
  | .null => installTransforms none
  | .incomplete => setError "Le trasformazioni stream richiedono encrypt e decrypt"
  | .given transforms => installTransforms transforms

def mcClientSendNamed (packetName : String) (payload : Buffer) : ClientM Unit := do
  refuseUnconnected
  let client ← Prog.observe World.client
  let direction := if client.serverSide then McPacketDirection.clientbound else .serverbound
  let packetId := host.catalog.mcPacketId client.profile.protocol client.state direction packetName
  refuseIf (packetId < 0) ("Pacchetto " ++ (if client.serverSide then "clientbound" else "serverbound")
    ++ " sconosciuto: " ++ packetName)
  mcClientSend host packetId payload

/-- The position sent is the one relative corrections refer to. -/
def trackPosition (position : McPlayerPosition) : ClientM Unit :=
  modifyClient fun client =>
    { client with trackedPosition := position, trackedPositionValid := true }

def mcClientSendPlayerPosition (position : McPlayerPosition) : ClientM Unit := do
  let client ← Prog.observe World.client
  refuseIf (client.socketFd < 0 ∨ client.state ≠ .play) "Client non in stato PLAY"
  let (built, body) := buildPacket 48 (mcPacketPlayerPosition client.profile.protocol position)
  refuseIf (built = none) "Posizione Minecraft non valida"
  mcClientSendNamed host "position_look" body.body
  trackPosition position

def performAppCall : AppCall → ClientM Unit
  | .disconnect => disconnectWith change
  | .setState state => setStateWith change state
  | .setCompression threshold => mcClientSetCompression threshold
  | .setReadTimeout timeoutMs => mcClientSetReadTimeout timeoutMs
  | .setStreamTransforms transforms => mcClientSetStreamTransforms transforms
  | .send packetId payload => mcClientSend host packetId payload
  | .sendNamed packetName payload => mcClientSendNamed host packetName payload
  | .sendBatch batch => mcClientSendBatch host batch
  | .sendPlayerPosition position => mcClientSendPlayerPosition host position

def runProgram : AppProgram → ClientM Unit
  | .done => pure ()
  | .call request next => do
      let succeeded ← answered (performAppCall host change request)
      tell (.returned succeeded)
      runProgram (next succeeded)

/-- A callback reacts to all it was told. -/
def runCallback (callback : List McEvent → AppProgram) : ClientM Unit := do
  let events ← Prog.observe World.events
  runProgram host change (callback events)

end Calls

section Callbacks

variable (host : Host) (app : App)

/-- `change_state` with `depth` levels of callbacks to go. -/
def changeStateAt : Nat → McState → ClientM Unit
  | depth, state => do
      let previous ← Prog.observe fun world => world.client.state
      if previous = state then pure ()
      else do
        modifyClient fun client => { client with state := state }
        match app.onState with
        | none => pure ()
        | some callback => do
            tell (.state previous state)
            match depth with
            | 0 => pure ()
            | depth + 1 => runCallback host (changeStateAt depth) callback

def changeState : McState → ClientM Unit := changeStateAt host app app.nesting

def emitPacket (state : McState) (packetId : Int) (payload : List UInt8) : ClientM Unit :=
  match app.onPacket with
  | none => pure ()
  | some callback => do
      tell (.packet state packetId payload)
      runCallback host (changeState host app) callback

def mcClientDisconnect : ClientM Unit := disconnectWith (changeState host app)

def mcClientSetState : McState → ClientM Unit := setStateWith (changeState host app)

/-- `goto fail`, where the label disconnects and returns `-1`. -/
def orDisconnect {α : Type} (call : ClientM α) : ClientM α := fun world =>
  match call world with
  | (some value, world) => (some value, world)
  | (none, world) => (none, (mcClientDisconnect host app world).2)

theorem orDisconnect_some {α : Type} {call : ClientM α} {value : α} {world after : World}
    (run : call world = (some value, after)) :
    orDisconnect host app call world = (some value, after) := by
  rw [orDisconnect, run]

theorem orDisconnect_failed {α : Type} {call : ClientM α} {world after : World}
    (run : call world = (none, after)) :
    orDisconnect host app call world = (none, (mcClientDisconnect host app after).2) := by
  rw [orDisconnect, run]

theorem orDisconnect_eq_some {α : Type} {call : ClientM α} {value : α} {world after : World}
    (run : orDisconnect host app call world = (some value, after)) :
    call world = (some value, after) := by
  rcases called : call world with ⟨_ | found, reached⟩
  · rw [orDisconnect_failed host app called] at run
    cases run
  · rw [orDisconnect_some host app called] at run
    exact run

/-- A state is set on a connected client. -/
theorem setStateWith_cases (change : McState → ClientM Unit) (state : McState) (world : World) :
    (∃ message, setStateWith change state world = setError message world) ∨
      0 ≤ world.client.socketFd ∧ setStateWith change state world = change state world := by
  by_cases closed : world.client.socketFd < 0
  · exact .inl ⟨_, (Prog.bind_some rfl).trans (Prog.bind_none (refuseIf_pos closed))⟩
  · by_cases invalid : state = .disconnected
    · exact .inl ⟨_, (Prog.bind_some rfl).trans
        ((Prog.bind_some (refuseIf_neg closed)).trans (Prog.bind_none (refuseIf_pos invalid)))⟩
    · exact .inr ⟨by omega, (Prog.bind_some rfl).trans
        ((Prog.bind_some (refuseIf_neg closed)).trans (Prog.bind_some (refuseIf_neg invalid)))⟩

/-- A change of state to the state the client is in does nothing. -/
theorem changeStateAt_same {depth : Nat} {state : McState} {world : World}
    (same : world.client.state = state) :
    changeStateAt host app depth state world = (some (), world) := by
  rw [changeStateAt]
  exact (Prog.bind_some rfl).trans (by rw [if_pos same]; rfl)

/-- What follows a change of state. -/
def afterChange (depth : Nat) (previous state : McState) : ClientM Unit :=
  match app.onState with
  | none => pure ()
  | some callback => do
      tell (.state previous state)
      match depth with
      | 0 => pure ()
      | depth + 1 => runCallback host (changeStateAt host app depth) callback

theorem changeStateAt_other {depth : Nat} {state : McState} {world : World}
    (other : world.client.state ≠ state) :
    changeStateAt host app depth state world = afterChange host app depth world.client.state state
      { world with client := { world.client with state := state } } := by
  rw [changeStateAt]
  refine (Prog.bind_some rfl).trans ?_
  rw [if_neg other]
  refine (Prog.bind_some rfl).trans ?_
  cases depth with
  | zero => rfl
  | succ depth => rfl

end Callbacks

/-- A discipline that does not mind memory and messages. -/
structure CoversMemory (D : Discipline World) : Prop where
  remembers : ∀ {α : Type} {program : ClientM α}, memoryOnly.Lawful program → D.Lawful program

namespace CoversMemory

variable {D : Discipline World} (covers : CoversMemory D)
include covers

theorem refuseIf_lawful (condition : Prop) [Decidable condition] (message : String) :
    D.Lawful (refuseIf condition message) :=
  covers.remembers (refuseIf_memoryOnly condition message)

theorem observe_lawful {α : Type} (read : World → α) : D.Lawful (Prog.observe read) :=
  covers.remembers (.observe fun _ _ _ _ below => below.elim)

theorem setError_lawful {α : Type} (message : String) : D.Lawful (setError message : ClientM α) :=
  covers.remembers (setError_memoryOnly message)

end CoversMemory

/-- The moves calls and callbacks are made of: a discipline that covers them covers
whatever an application does. -/
structure CoversCalls (host : Host) (D : Discipline World) : Prop extends CoversMemory D where
  answers : ∀ {call : ClientM Unit}, D.Lawful call → D.Lawful (answered call)
  detaches : D.Lawful (modifyClient fun client => { client with stop := true, socketFd := -1 })
  enters : ∀ state, D.Lawful (modifyClient fun client => { client with state := state })
  waits : ∀ timeoutMs,
    D.Lawful (modifyClient fun client => { client with readTimeoutMs := timeoutMs })
  sends : ∀ packetId payload, D.Lawful (mcClientSend host packetId payload)
  sendsNamed : ∀ packetName payload, D.Lawful (mcClientSendNamed host packetName payload)
  sendsBatch : ∀ batch, D.Lawful (mcClientSendBatch host batch)
  sendsPosition : ∀ position, D.Lawful (mcClientSendPlayerPosition host position)
  installs : ∀ transforms, D.Lawful (installTransforms transforms)
  compresses : ∀ threshold, D.Lawful (mcClientSetCompression threshold)
  tells : ∀ event, D.Lawful (tell event)

theorem mcClientSendNamed_sending (host : Host) (packetName : String) (payload : Buffer) :
    sending.Lawful (mcClientSendNamed host packetName payload) :=
  .bind refuseUnconnected_sending fun _ => .bind (observe_sending _) fun _ =>
    .bind (refuseIf_sending _ _) fun _ => mcClientSend_sending host _ payload

namespace CoversCalls

variable {D : Discipline World} {host : Host} (covers : CoversCalls host D)
  {change : McState → ClientM Unit}
include covers

theorem performAppCall_lawful (changes : ∀ state, D.Lawful (change state)) (request : AppCall) :
    D.Lawful (performAppCall host change request) := by
  cases request with
  | disconnect => exact .bind covers.detaches fun _ => changes _
  | setState state =>
      exact .bind (covers.observe_lawful _) fun _ => .bind (covers.refuseIf_lawful _ _) fun _ =>
        .bind (covers.refuseIf_lawful _ _) fun _ => changes state
  | setCompression threshold => exact covers.compresses threshold
  | setReadTimeout timeoutMs =>
      exact .bind (covers.refuseIf_lawful _ _) fun _ => covers.waits timeoutMs
  | setStreamTransforms transforms =>
      refine .bind (covers.observe_lawful _) fun _ => .bind (covers.refuseIf_lawful _ _) fun _ => ?_
      cases transforms with
      | null => exact covers.installs none
      | incomplete => exact covers.remembers (setError_memoryOnly _)
      | given transforms => exact covers.installs (some transforms)
  | send packetId payload => exact covers.sends packetId payload
  | sendNamed packetName payload => exact covers.sendsNamed packetName payload
  | sendBatch batch => exact covers.sendsBatch batch
  | sendPlayerPosition position => exact covers.sendsPosition position

theorem runProgram_lawful (changes : ∀ state, D.Lawful (change state)) (program : AppProgram) :
    D.Lawful (runProgram host change program) := by
  induction program with
  | done => exact .pure ()
  | call request next ih =>
      exact .bind (covers.answers (covers.performAppCall_lawful changes request))
        fun succeeded => .bind (covers.tells _) fun _ => ih succeeded

theorem runCallback_lawful (changes : ∀ state, D.Lawful (change state))
    (callback : List McEvent → AppProgram) : D.Lawful (runCallback host change callback) :=
  .bind (covers.observe_lawful _) fun events =>
    covers.runProgram_lawful changes (callback events)

theorem changeStateAt_lawful (app : App) (depth : Nat) (state : McState) :
    D.Lawful (changeStateAt host app depth state) := by
  induction depth generalizing state with
  | zero =>
      unfold changeStateAt
      refine .bind (covers.observe_lawful _) fun previous => ?_
      split_ifs
      · exact .pure ()
      · refine .bind (covers.enters state) fun _ => ?_
        cases app.onState with
        | none => exact .pure ()
        | some callback => exact .bind (covers.tells _) fun _ => .pure ()
  | succ depth ih =>
      unfold changeStateAt
      refine .bind (covers.observe_lawful _) fun previous => ?_
      split_ifs
      · exact .pure ()
      · refine .bind (covers.enters state) fun _ => ?_
        cases app.onState with
        | none => exact .pure ()
        | some callback =>
            exact .bind (covers.tells _) fun _ => covers.runCallback_lawful ih callback

theorem emitPacket_lawful (app : App) (state : McState) (packetId : Int) (payload : List UInt8) :
    D.Lawful (emitPacket host app state packetId payload) := by
  unfold emitPacket
  cases app.onPacket with
  | none => exact .pure ()
  | some callback =>
      exact .bind (covers.tells _) fun _ =>
        covers.runCallback_lawful (covers.changeStateAt_lawful app _) callback

theorem mcClientDisconnect_lawful (app : App) : D.Lawful (mcClientDisconnect host app) :=
  .bind covers.detaches fun _ => covers.changeStateAt_lawful app _ _

end CoversCalls

/-- A discipline that covers reading a frame. -/
structure CoversFrames (host : Host) (D : Discipline World) : Prop extends CoversMemory D where
  feeds : ∀ data, D.Lawful (feedOne host data)
  receives : ∀ capacity, D.Lawful (receiveSome capacity)

namespace CoversFrames

variable {D : Discipline World} {host : Host} (covers : CoversFrames host D)
include covers

theorem copyDecodedFrame_lawful (decoded : StreamPacket) :
    D.Lawful (copyDecodedFrame host decoded) :=
  .bind (covers.refuseIf_lawful _ _) fun _ =>
    .bind (covers.remembers (allocate_memoryOnly ..)) fun _ => .pure _

theorem readFrameTurn_lawful : D.Lawful (readFrameTurn host) := by
  refine .bind (covers.feeds _) fun found => ?_
  cases found with
  | some decoded => exact .bind (covers.copyDecodedFrame_lawful decoded) fun _ => .pure _
  | none =>
      refine .bind (covers.receives _) fun received => .bind (covers.feeds _) fun found => ?_
      cases found with
      | some decoded => exact .bind (covers.copyDecodedFrame_lawful decoded) fun _ => .pure _
      | none => exact .pure _

theorem readFrameLoop_lawful (fuel : Nat) : D.Lawful (readFrameLoop host fuel) := by
  induction fuel with
  | zero => exact .refuse
  | succ fuel ih =>
      refine .bind covers.readFrameTurn_lawful fun frame => ?_
      cases frame with
      | some frame => exact .pure _
      | none => exact ih

end CoversFrames

/-- A discipline that covers reading too. -/
structure CoversReads (host : Host) (D : Discipline World) : Prop
    extends CoversCalls host D, CoversFrames host D where
  polls : D.Lawful backendWait

/-- What nothing an application does changes. -/
structure Undisturbed (before after : World) : Prop where
  profile : after.client.profile = before.client.profile
  automaticReplies : after.client.automaticReplies = before.client.automaticReplies
  playerLoadedSent : after.client.playerLoadedSent = before.client.playerLoadedSent
  serverSide : after.client.serverSide = before.client.serverSide
  decoder : before.client.streamDecoder.SameMake after.client.streamDecoder
  logged : before.frames <+: after.frames

theorem Undisturbed.refl (world : World) : Undisturbed world world :=
  ⟨rfl, rfl, rfl, rfl, .refl _, List.prefix_rfl⟩

theorem Undisturbed.trans {first second third : World} (left : Undisturbed first second)
    (right : Undisturbed second third) : Undisturbed first third :=
  ⟨right.profile.trans left.profile, right.automaticReplies.trans left.automaticReplies,
    right.playerLoadedSent.trans left.playerLoadedSent, right.serverSide.trans left.serverSide,
    left.decoder.trans right.decoder, left.logged.trans right.logged⟩

def undisturbed : Discipline World := .moving Undisturbed .refl fun _ _ _ => .trans

theorem SameButSending.undisturbed {before after : World} (same : SameButSending before after) :
    Undisturbed before after := by
  rcases before with ⟨client, network, allocated, error, events, frames, encrypted, decrypted⟩
  obtain ⟨kept, -, logged⟩ := same
  dsimp only at kept logged
  rcases after with ⟨client', network', allocated', error', events', frames', encrypted', decrypted'⟩
  dsimp only at kept
  rw [kept]
  exact ⟨rfl, rfl, rfl, rfl, .refl _, logged⟩

theorem undisturbed_of_sending {α : Type} {program : ClientM α} (lawful : sending.Lawful program) :
    undisturbed.Lawful program :=
  .of_steps fun world => (lawful.moves world).undisturbed

theorem undisturbed_covers (host : Host) : CoversCalls host undisturbed where
  remembers lawful := undisturbed_of_sending (sending_of_memoryOnly lawful)
  answers lawful := .of_steps lawful.moves
  detaches := .of_steps fun _ => ⟨rfl, rfl, rfl, rfl, .refl _, List.prefix_rfl⟩
  enters _ := .of_steps fun _ => ⟨rfl, rfl, rfl, rfl, .refl _, List.prefix_rfl⟩
  waits _ := .of_steps fun _ => ⟨rfl, rfl, rfl, rfl, .refl _, List.prefix_rfl⟩
  sends packetId payload := undisturbed_of_sending (mcClientSend_sending host packetId payload)
  sendsNamed packetName payload :=
    undisturbed_of_sending (mcClientSendNamed_sending host packetName payload)
  sendsBatch batch := undisturbed_of_sending (mcClientSendBatch_sending host batch)
  sendsPosition position := by
    refine .bind (undisturbed_of_sending (observe_sending _)) fun _ => ?_
    refine .bind (undisturbed_of_sending (refuseIf_sending _ _)) fun _ => ?_
    refine .bind (undisturbed_of_sending (refuseIf_sending _ _)) fun _ => ?_
    refine .bind (undisturbed_of_sending (mcClientSendNamed_sending host _ _)) fun _ => ?_
    exact .of_steps fun _ => ⟨rfl, rfl, rfl, rfl, .refl _, List.prefix_rfl⟩
  installs _ := .of_steps fun _ => ⟨rfl, rfl, rfl, rfl, .refl _, List.prefix_rfl⟩
  compresses threshold := by
    apply Discipline.Lawful.of_steps
    intro world
    have made := world.client.streamDecoder.sameMake_setCompression threshold
    unfold mcClientSetCompression
    split_ifs with closed low
    · exact ⟨rfl, rfl, rfl, rfl, .refl _, List.prefix_rfl⟩
    · exact ⟨rfl, rfl, rfl, rfl, .refl _, List.prefix_rfl⟩
    · rcases set : mcStreamDecoderSetCompression world.client.streamDecoder threshold with
        ⟨_ | error, decoder⟩
      · rw [set] at made
        exact ⟨rfl, rfl, rfl, rfl, made, List.prefix_rfl⟩
      · rw [set] at made
        exact ⟨rfl, rfl, rfl, rfl, made, List.prefix_rfl⟩
  tells _ := .of_steps fun _ => ⟨rfl, rfl, rfl, rfl, .refl _, List.prefix_rfl⟩

theorem undisturbed_reads (host : Host) : CoversReads host undisturbed where
  toCoversCalls := undisturbed_covers host
  feeds data := by
    apply Discipline.Lawful.of_steps
    intro world
    obtain ⟨error, same⟩ := feedOne_after host data world
    rw [same]
    exact ⟨rfl, rfl, rfl, rfl, mcStreamDecoderFeed_make host.zlib host.streamHeap _ _,
      List.prefix_rfl⟩
  receives capacity := by
    apply Discipline.Lawful.of_steps
    intro world
    obtain ⟨arrivals, waits, received, error, decrypted, same, -⟩ := receiveSome_after capacity world
    rw [same]
    exact ⟨rfl, rfl, rfl, rfl, .refl _, List.prefix_rfl⟩
  polls := by
    apply Discipline.Lawful.of_steps
    intro world
    unfold backendWait
    cases world.network.waits with
    | nil => exact .refl world
    | cons wait waits => exact ⟨rfl, rfl, rfl, rfl, .refl _, List.prefix_rfl⟩

/-- A client without a socket gets none, sends nothing and forgets nothing. -/
structure Silent (before after : World) : Prop where
  socket : after.client.socketFd < 0
  frames : after.frames = before.frames
  position : after.client.trackedPosition = before.client.trackedPosition
  valid : after.client.trackedPositionValid = before.client.trackedPositionValid

def silent : Discipline World :=
  .moving (fun before after => before.client.socketFd < 0 → Silent before after)
    (fun _ detached => ⟨detached, rfl, rfl, rfl⟩) fun _ _ _ left right detached => by
      have first := left detached
      have second := right first.socket
      exact ⟨second.socket, second.frames.trans first.frames,
        second.position.trans first.position, second.valid.trans first.valid⟩

theorem silent_of_memoryOnly {α : Type} {program : ClientM α} (lawful : memoryOnly.Lawful program) :
    silent.Lawful program := by
  apply Discipline.Lawful.of_steps
  intro world detached
  have same := lawful.steps world trivial
  refine ⟨?_, same.frames, ?_, ?_⟩
  · rw [same.client]
    exact detached
  · rw [same.client]
  · rw [same.client]

/-- What starts with the test for a connection ends with it. -/
theorem silent_of_refuseUnconnected {α : Type} (rest : Unit → ClientM α) :
    silent.Lawful (refuseUnconnected >>= rest) := by
  apply Discipline.Lawful.of_steps
  intro world detached
  have refused : refuseUnconnected world = setError "Client non connesso" world :=
    (Prog.bind_some rfl).trans (refuseIf_pos (.inl detached))
  rw [Prog.bind_none refused]
  exact ⟨detached, rfl, rfl, rfl⟩

theorem silent_covers (host : Host) : CoversCalls host silent where
  remembers lawful := silent_of_memoryOnly lawful
  answers lawful := .of_steps lawful.moves
  detaches := .of_steps fun _ _ => ⟨(by decide : (-1 : Int) < 0), rfl, rfl, rfl⟩
  enters _ := .of_steps fun _ detached => ⟨detached, rfl, rfl, rfl⟩
  waits _ := .of_steps fun _ detached => ⟨detached, rfl, rfl, rfl⟩
  sends _ _ := silent_of_refuseUnconnected _
  sendsNamed _ _ := silent_of_refuseUnconnected _
  sendsBatch _ := silent_of_refuseUnconnected _
  sendsPosition position := by
    apply Discipline.Lawful.of_steps
    intro world detached
    have refused : mcClientSendPlayerPosition host position world =
        setError "Client non in stato PLAY" world :=
      (Prog.bind_some rfl).trans (Prog.bind_none (refuseIf_pos (.inl detached)))
    rw [refused]
    exact ⟨detached, rfl, rfl, rfl⟩
  installs _ := .of_steps fun _ detached => ⟨detached, rfl, rfl, rfl⟩
  compresses threshold := by
    apply Discipline.Lawful.of_steps
    intro world detached
    have refused : mcClientSetCompression threshold world = setError "Client non connesso" world :=
      if_pos detached
    rw [refused]
    exact ⟨detached, rfl, rfl, rfl⟩
  tells _ := .of_steps fun _ detached => ⟨detached, rfl, rfl, rfl⟩

/-- Disconnecting says nothing. -/
theorem mcClientDisconnect_silent (host : Host) (app : App) (world : World) :
    Silent world (mcClientDisconnect host app world).2 := by
  have run : mcClientDisconnect host app world = changeStateAt host app app.nesting .disconnected
      { world with client := { world.client with stop := true, socketFd := -1 } } :=
    Prog.bind_some rfl
  have said := ((silent_covers host).changeStateAt_lawful app app.nesting .disconnected).moves
    { world with client := { world.client with stop := true, socketFd := -1 } }
    (by decide : (-1 : Int) < 0)
  rw [run]
  exact ⟨said.socket, said.frames, said.position, said.valid⟩

/-- Without a socket, and in the state that says so. -/
structure McClient.Closed (client : McClient) : Prop where
  socket : client.socketFd = -1
  state : client.state = .disconnected

/-- The socket stays or goes for good. -/
structure Descends (before after : World) : Prop where
  socket : after.client.socketFd = before.client.socketFd ∨ after.client.socketFd = -1
  closed : before.client.Closed → after.client.Closed

theorem Descends.refl (world : World) : Descends world world := ⟨.inl rfl, id⟩

theorem Descends.trans {first second third : World} (left : Descends first second)
    (right : Descends second third) : Descends first third := by
  refine ⟨?_, right.closed ∘ left.closed⟩
  cases right.socket with
  | inl kept => exact left.socket.imp kept.trans kept.trans
  | inr gone => exact .inr gone

/-- Programs that reopen nothing. -/
def descending : Discipline World := .moving Descends .refl fun _ _ _ => .trans

theorem descends_of_same {before after : World}
    (socket : after.client.socketFd = before.client.socketFd)
    (state : after.client.state = before.client.state) : Descends before after :=
  ⟨.inl socket, fun closed => ⟨socket.trans closed.socket, state.trans closed.state⟩⟩

theorem SameButSending.descends {before after : World} (same : SameButSending before after) :
    Descends before after := by
  apply descends_of_same
  · rw [same.client]
  · rw [same.client]

theorem descending_of_sending {α : Type} {program : ClientM α} (lawful : sending.Lawful program) :
    descending.Lawful program :=
  .of_steps fun world => (lawful.moves world).descends

theorem modifyClient_descending {change : McClient → McClient}
    (socket : ∀ client, (change client).socketFd = client.socketFd)
    (state : ∀ client, (change client).state = client.state) :
    descending.Lawful (modifyClient change) :=
  .of_steps fun world => descends_of_same (socket world.client) (state world.client)

theorem tell_descending (event : McEvent) : descending.Lawful (tell event) :=
  .of_steps fun _ => descends_of_same rfl rfl

theorem answered_descending {call : ClientM Unit} (lawful : descending.Lawful call) :
    descending.Lawful (answered call) :=
  .of_steps lawful.moves

theorem installTransforms_descending (transforms : Option McStreamTransforms) :
    descending.Lawful (installTransforms transforms) :=
  .of_steps fun _ => descends_of_same rfl rfl

theorem mcClientSetCompression_descending (threshold : Int) :
    descending.Lawful (mcClientSetCompression threshold) := by
  apply Discipline.Lawful.of_steps
  intro world
  unfold mcClientSetCompression
  split_ifs with closed low
  · exact descends_of_same rfl rfl
  · exact descends_of_same rfl rfl
  · rcases mcStreamDecoderSetCompression world.client.streamDecoder threshold with
      ⟨_ | error, decoder⟩
    · exact descends_of_same rfl rfl
    · exact descends_of_same rfl rfl

section Descending

variable (host : Host) {change : McState → ClientM Unit}

/-- What `change_state` owes: only a client that is not closed enters another state. -/
def Settling (change : McState → ClientM Unit) : Prop :=
  ∀ state world, state = .disconnected ∨ ¬ world.client.Closed →
    Descends world (change state world).2

theorem disconnectWith_descending (settling : Settling change) :
    descending.Lawful (disconnectWith change) := by
  refine .bind (.of_steps fun world => ⟨.inr rfl, fun closed => ⟨rfl, closed.state⟩⟩) fun _ => ?_
  exact .of_steps fun world => settling .disconnected world (.inl rfl)

theorem setStateWith_descending (settling : Settling change) (state : McState) :
    descending.Lawful (setStateWith change state) := by
  apply Discipline.Lawful.of_steps
  intro world
  obtain ⟨message, refused⟩ | ⟨connected, accepted⟩ := setStateWith_cases change state world
  · rw [refused]
    exact descends_of_same rfl rfl
  · rw [accepted]
    refine settling state world (.inr fun closed => ?_)
    rw [closed.socket] at connected
    exact absurd connected (by decide)

theorem performAppCall_descending (settling : Settling change) (request : AppCall) :
    descending.Lawful (performAppCall host change request) := by
  cases request with
  | disconnect => exact disconnectWith_descending settling
  | setState state => exact setStateWith_descending settling state
  | setCompression threshold => exact mcClientSetCompression_descending threshold
  | setReadTimeout timeoutMs =>
      refine .bind (descending_of_sending (refuseIf_sending _ _)) fun _ => ?_
      exact modifyClient_descending (fun _ => rfl) fun _ => rfl
  | setStreamTransforms transforms =>
      refine .bind (descending_of_sending (observe_sending _)) fun _ => ?_
      refine .bind (descending_of_sending (refuseIf_sending _ _)) fun _ => ?_
      cases transforms with
      | null => exact installTransforms_descending none
      | incomplete => exact descending_of_sending (sending_of_memoryOnly (setError_memoryOnly _))
      | given transforms => exact installTransforms_descending _
  | send packetId payload => exact descending_of_sending (mcClientSend_sending host packetId payload)
  | sendNamed packetName payload =>
      exact descending_of_sending (mcClientSendNamed_sending host packetName payload)
  | sendBatch batch => exact descending_of_sending (mcClientSendBatch_sending host batch)
  | sendPlayerPosition position =>
      refine .bind (descending_of_sending (observe_sending _)) fun _ => ?_
      refine .bind (descending_of_sending (refuseIf_sending _ _)) fun _ => ?_
      refine .bind (descending_of_sending (refuseIf_sending _ _)) fun _ => ?_
      refine .bind (descending_of_sending (mcClientSendNamed_sending host _ _)) fun _ => ?_
      exact modifyClient_descending (fun _ => rfl) fun _ => rfl

theorem runProgram_descending (settling : Settling change) (program : AppProgram) :
    descending.Lawful (runProgram host change program) := by
  induction program with
  | done => exact .pure ()
  | call request next ih =>
      refine .bind (answered_descending (performAppCall_descending host settling request)) ?_
      intro succeeded
      exact .bind (tell_descending _) fun _ => ih succeeded

theorem runCallback_descending (settling : Settling change)
    (callback : List McEvent → AppProgram) :
    descending.Lawful (runCallback host change callback) :=
  .bind (descending_of_sending (observe_sending _)) fun events =>
    runProgram_descending host settling (callback events)

/-- What follows a change of state reopens nothing if no change further down does. -/
theorem afterChange_descending_of (app : App) {depth : Nat}
    (settling : ∀ below, depth = below + 1 → Settling (changeStateAt host app below))
    (previous state : McState) : descending.Lawful (afterChange host app depth previous state) := by
  unfold afterChange
  cases app.onState with
  | none => exact .pure ()
  | some callback =>
      refine .bind (tell_descending _) fun _ => ?_
      cases depth with
      | zero => exact .pure ()
      | succ depth => exact runCallback_descending host (settling depth rfl) callback

/-- A change of state, with all it calls back. -/
theorem changeStateAt_settling (app : App) (depth : Nat) :
    Settling (changeStateAt host app depth) := by
  have settled : ∀ depth, (∀ below, depth = below + 1 → Settling (changeStateAt host app below)) →
      Settling (changeStateAt host app depth) := by
    intro depth below state world entered
    by_cases same : world.client.state = state
    · rw [changeStateAt_same host app same]
      exact .refl world
    · rw [changeStateAt_other host app same]
      have moved : Descends world
          { world with client := { world.client with state := state } } := by
        refine ⟨.inl rfl, fun closed => ?_⟩
        cases entered with
        | inl disconnects => exact absurd (closed.state.trans disconnects.symm) same
        | inr opened => exact absurd closed opened
      exact moved.trans ((afterChange_descending_of host app below _ _).moves _)
  induction depth with
  | zero => exact settled 0 fun below zero => absurd zero (by omega)
  | succ depth ih =>
      apply settled
      intro below successor
      obtain rfl : depth = below := by omega
      exact ih

theorem afterChange_descending (app : App) (depth : Nat) (previous state : McState) :
    descending.Lawful (afterChange host app depth previous state) :=
  afterChange_descending_of host app (fun below _ => changeStateAt_settling host app below)
    previous state

/-- No change of state, to whichever state, gives a client a socket. -/
theorem changeStateAt_socket (app : App) (depth : Nat) (state : McState) (world : World) :
    (changeStateAt host app depth state world).2.client.socketFd = world.client.socketFd ∨
      (changeStateAt host app depth state world).2.client.socketFd = -1 := by
  by_cases same : world.client.state = state
  · rw [changeStateAt_same host app same]
    exact .inl rfl
  · rw [changeStateAt_other host app same]
    exact ((afterChange_descending host app depth _ _).moves _).socket

/-- Entering the disconnected state without a socket closes the client for good. -/
theorem changeStateAt_closed (app : App) (depth : Nat) {world : World}
    (detached : world.client.socketFd = -1) :
    (changeStateAt host app depth .disconnected world).2.client.Closed := by
  by_cases same : world.client.state = .disconnected
  · rw [changeStateAt_same host app same]
    exact ⟨detached, same⟩
  · rw [changeStateAt_other host app same]
    exact ((afterChange_descending host app depth _ _).moves _).closed ⟨detached, rfl⟩

/-- A disconnected client is closed, whatever its callbacks do. -/
theorem mcClientDisconnect_closed (app : App) (world : World) :
    (mcClientDisconnect host app world).2.client.Closed := by
  have run : mcClientDisconnect host app world = changeStateAt host app app.nesting .disconnected
      { world with client := { world.client with stop := true, socketFd := -1 } } :=
    Prog.bind_some rfl
  rw [run]
  exact changeStateAt_closed host app app.nesting rfl

/-- A call that fails on its way out leaves the client closed. -/
theorem orDisconnect_none {α : Type} {app : App} {call : ClientM α} {world after : World}
    (failed : orDisconnect host app call world = (none, after)) : after.client.Closed := by
  rcases run : call world with ⟨_ | value, reached⟩
  · rw [orDisconnect_failed host app run] at failed
    cases failed
    exact mcClientDisconnect_closed host app reached
  · rw [orDisconnect_some host app run] at failed
    cases failed

theorem runProgram_total (program : AppProgram) : (runProgram host change program).Total := by
  induction program with
  | done => exact .pure ()
  | call request next ih =>
      exact .bind (fun world => ⟨_, _, rfl⟩) fun succeeded =>
        .bind (fun world => ⟨_, _, rfl⟩) fun _ => ih succeeded

theorem runCallback_total (callback : List McEvent → AppProgram) :
    (runCallback host change callback).Total :=
  .bind (.observe _) fun events => runProgram_total host (callback events)

theorem changeStateAt_total (app : App) (depth : Nat) (state : McState) :
    (changeStateAt host app depth state).Total := by
  intro world
  by_cases same : world.client.state = state
  · exact ⟨_, _, changeStateAt_same host app same⟩
  · rw [changeStateAt_other host app same]
    unfold afterChange
    cases app.onState with
    | none => exact ⟨_, _, rfl⟩
    | some callback =>
        cases depth with
        | zero => exact ⟨_, _, rfl⟩
        | succ depth =>
            have returns : (do
                tell (.state world.client.state state)
                runCallback host (changeStateAt host app depth) callback : ClientM Unit).Total :=
              .bind (fun _ => ⟨_, _, rfl⟩) fun _ => runCallback_total host callback
            exact returns _

end Descending

end McProtocol
