import McProtocol.Client.AutomaticReplies
import McProtocol.Client.Runs
import McProtocol.StreamReuse

/-! # Clients with a past

Two clients that differ in what an earlier session left behind: the counters, the timeout, the
memory of the decoder and the tracked position. Whatever is called on them they do the same, up to
what is made of the tracked position.
-/

namespace McProtocol

open Prog (Agrees Concur)

/-- A client without what a session leaves behind. -/
def McClient.session (client : McClient) : McClient :=
  { client with
    sentBytes := 0
    receivedBytes := 0
    readTimeoutMs := 0
    streamDecoder := client.streamDecoder.session
    trackedPosition := ⟨⟨0⟩, ⟨0⟩, ⟨0⟩, ⟨0⟩, ⟨0⟩, false⟩
    trackedPositionValid := false }

def World.session (world : World) : World := { world with client := world.client.session }

/-- No answer of the client carries a resolved position. -/
def McClient.Blind (client : McClient) : Prop :=
  client.profile.protocol < 777 ∨ client.replies .teleport = false

/-- Both clients are where their session is, the right one with `leftover` from an earlier one as
long as this session knows no position. -/
structure Twin (leftover : Option McPlayerPosition) (left right : World) : Prop where
  session : left.session = right.session
  config : left.client.streamDecoder.config = mcStreamDecoderConfigInit
  position : left.client.Blind ∨ left.client.known = none ∧ right.client.known = leftover ∨
    left.client.known = right.client.known

/-- What few calls change. -/
structure Unmoved (before after : World) : Prop where
  profile : after.client.profile = before.client.profile
  mask : after.client.automaticReplies = before.client.automaticReplies
  known : after.client.known = before.client.known
  config : after.client.streamDecoder.config = before.client.streamDecoder.config

theorem Unmoved.blind {before after : World} (unmoved : Unmoved before after)
    (blind : before.client.Blind) : after.client.Blind := by
  unfold McClient.Blind McClient.replies at *
  rw [unmoved.profile, unmoved.mask]
  exact blind

/-- A program that neither looks at what a session leaves behind nor moves the client. -/
structure Overlooks {α : Type} (program : ClientM α) : Prop where
  value : ∀ world, (program world).1 = (program world.session).1
  session : ∀ world, (program world).2.session = (program world.session).2.session
  unmoved : ∀ world, Unmoved world (program world).2

theorem Overlooks.of_parts {α : Type} {program : ClientM α}
    (same : ∀ world, (program world).1 = (program world.session).1 ∧
      (program world).2.session = (program world.session).2.session ∧
      Unmoved world (program world).2) : Overlooks program :=
  ⟨fun world => (same world).1, fun world => (same world).2.1, fun world => (same world).2.2⟩

theorem Overlooks.agrees {α : Type} {program : ClientM α} (overlooks : Overlooks program)
    (leftover : Option McPlayerPosition) : Agrees (Twin leftover) program := by
  intro left right twin
  have first := overlooks.unmoved left
  have second := overlooks.unmoved right
  refine ⟨?_, ?_, first.config.trans twin.config, ?_⟩
  · rw [overlooks.value left, overlooks.value right, twin.session]
  · rw [overlooks.session left, overlooks.session right, twin.session]
  · rw [first.known, second.known]
    exact twin.position.imp_left first.blind

section primitives

variable {host : Host}

theorem overlooks_setError {α : Type} (message : String) :
    Overlooks (setError message : ClientM α) :=
  ⟨fun _ => rfl, fun _ => rfl, fun _ => ⟨rfl, rfl, rfl, rfl⟩⟩

theorem overlooks_tell (event : McEvent) : Overlooks (tell event) :=
  ⟨fun _ => rfl, fun _ => rfl, fun _ => ⟨rfl, rfl, rfl, rfl⟩⟩

theorem overlooks_allocate (size : Nat) (message : String) :
    Overlooks (allocate host size message) := by
  apply Overlooks.of_parts
  intro world
  unfold allocate World.session
  dsimp only
  split_ifs
  · exact ⟨rfl, rfl, rfl, rfl, rfl, rfl⟩
  · exact ⟨rfl, rfl, rfl, rfl, rfl, rfl⟩

/-- A change of what a session leaves alone. -/
theorem overlooks_modify {change : McClient → McClient}
    (session : ∀ client, (change client).session = (change client.session).session)
    (unmoved : ∀ client, (change client).profile = client.profile ∧
      (change client).automaticReplies = client.automaticReplies ∧
      (change client).known = client.known ∧
      (change client).streamDecoder.config = client.streamDecoder.config) :
    Overlooks (modifyClient change) where
  value _ := rfl
  session world := by
    change World.session { world with client := change world.client } =
      World.session { world with client := change world.client.session }
    unfold World.session
    dsimp only
    rw [session]
  unmoved world := by
    obtain ⟨profile, mask, known, config⟩ := unmoved world.client
    exact ⟨profile, mask, known, config⟩

theorem overlooks_writeSocket (wire : List UInt8) : Overlooks (writeSocket wire) := by
  apply Overlooks.of_parts
  intro world
  unfold writeSocket World.session McClient.session
  dsimp only
  split_ifs
  · exact ⟨rfl, rfl, rfl, rfl, rfl, rfl⟩
  · exact ⟨rfl, rfl, rfl, rfl, rfl, rfl⟩
  · rcases sendLoop world.network.departures wire with ⟨_ | reason, written, departures⟩
    · exact ⟨rfl, rfl, rfl, rfl, rfl, rfl⟩
    · exact ⟨rfl, rfl, rfl, rfl, rfl, rfl⟩

theorem overlooks_receiveSome (capacity : Nat) : Overlooks (receiveSome capacity) := by
  apply Overlooks.of_parts
  intro world
  unfold receiveSome World.session McClient.session
  dsimp only
  split_ifs
  · exact ⟨rfl, rfl, rfl, rfl, rfl, rfl⟩
  · rcases receiveLoop capacity world.network.arrivals world.network.waits with
      ⟨message | data, arrivals, waits⟩
    · exact ⟨rfl, rfl, rfl, rfl, rfl, rfl⟩
    · cases world.client.transforms with
      | none => exact ⟨rfl, rfl, rfl, rfl, rfl, rfl⟩
      | some transforms =>
          dsimp only
          cases transforms.decrypt world.decrypted data with
          | none => exact ⟨rfl, rfl, rfl, rfl, rfl, rfl⟩
          | some plain => exact ⟨rfl, rfl, rfl, rfl, rfl, rfl⟩

theorem overlooks_backendWait : Overlooks backendWait := by
  apply Overlooks.of_parts
  intro world
  unfold backendWait World.session
  dsimp only
  cases world.network.waits with
  | nil => exact ⟨rfl, rfl, rfl, rfl, rfl, rfl⟩
  | cons wait waits => exact ⟨rfl, rfl, rfl, rfl, rfl, rfl⟩

theorem overlooks_encryptStream (data : List UInt8) : Overlooks (encryptStream host data) := by
  apply Overlooks.of_parts
  intro world
  obtain ⟨⟨socketFd, stop, profile, state, threshold, sent, received, mask, timeout, transforms,
    decoder, tracked, valid, loaded, serverSide⟩, network, allocated, error, events, frames,
    encrypted, decrypted⟩ := world
  unfold encryptStream allocate World.session McClient.session
  dsimp only
  cases transforms with
  | none => exact ⟨rfl, rfl, rfl, rfl, rfl, rfl⟩
  | some transforms =>
      dsimp only
      split_ifs
      · exact ⟨rfl, rfl, rfl, rfl, rfl, rfl⟩
      · dsimp only
        cases transforms.encrypt encrypted data with
        | none => exact ⟨rfl, rfl, rfl, rfl, rfl, rfl⟩
        | some transformed => exact ⟨rfl, rfl, rfl, rfl, rfl, rfl⟩
      · exact ⟨rfl, rfl, rfl, rfl, rfl, rfl⟩

theorem overlooks_installTransforms (transforms : Option McStreamTransforms) :
    Overlooks (installTransforms transforms) :=
  ⟨fun _ => rfl, fun _ => rfl, fun _ => ⟨rfl, rfl, rfl, rfl⟩⟩

theorem overlooks_connectTcp : Overlooks connectTcp := by
  apply Overlooks.of_parts
  intro world
  unfold connectTcp World.session
  dsimp only
  rcases world.network.connections with _ | ⟨message | socketFd, connections⟩
  · exact ⟨rfl, rfl, rfl, rfl, rfl, rfl⟩
  · exact ⟨rfl, rfl, rfl, rfl, rfl, rfl⟩
  · exact ⟨rfl, rfl, rfl, rfl, rfl, rfl⟩

theorem overlooks_backendInit : Overlooks backendInit := by
  apply Overlooks.of_parts
  intro world
  unfold backendInit World.session
  dsimp only
  rcases world.network.backends with _ | ⟨message | ⟨⟩, backends⟩
  · exact ⟨rfl, rfl, rfl, rfl, rfl, rfl⟩
  · exact ⟨rfl, rfl, rfl, rfl, rfl, rfl⟩
  · exact ⟨rfl, rfl, rfl, rfl, rfl, rfl⟩

theorem overlooks_setCompression (threshold : Int) :
    Overlooks (mcClientSetCompression threshold) := by
  apply Overlooks.of_parts
  intro world
  have config := (world.client.streamDecoder.sameMake_setCompression threshold).config
  have same := setCompression_session world.client.streamDecoder threshold
  unfold mcClientSetCompression World.session McClient.session
  dsimp only
  rw [same]
  rcases set : mcStreamDecoderSetCompression world.client.streamDecoder threshold with
    ⟨_ | error, decoder⟩
  · rw [set] at config
    dsimp only
    split_ifs
    · exact ⟨rfl, rfl, rfl, rfl, rfl, rfl⟩
    · exact ⟨rfl, rfl, rfl, rfl, rfl, rfl⟩
    · exact ⟨rfl, rfl, rfl, rfl, rfl, config⟩
  · rw [set] at config
    dsimp only
    split_ifs
    · exact ⟨rfl, rfl, rfl, rfl, rfl, rfl⟩
    · exact ⟨rfl, rfl, rfl, rfl, rfl, rfl⟩
    · exact ⟨rfl, rfl, rfl, rfl, rfl, config⟩

end primitives

/-- Two runs of the program, on twins. -/
abbrev Twinned (leftover : Option McPlayerPosition) {α : Type} (program : ClientM α) : Prop :=
  Agrees (Twin leftover) program

section calls

variable {host : Host} {leftover : Option McPlayerPosition}

/-- A program that looks at the client, but not at what a session leaves behind. -/
theorem twinned_look {α : Type} {rest : McClient → ClientM α}
    (same : ∀ client, rest client = rest client.session)
    (behind : ∀ client, Twinned leftover (rest client)) :
    Twinned leftover (Prog.observe World.client >>= rest) := by
  refine .look (fun left right twin => ?_) behind
  have clients : left.client.session = right.client.session := congrArg World.client twin.session
  rw [same left.client, same right.client, clients]

/-- What is written down of both of them. -/
theorem Twin.logged {left right : World} (twin : Twin leftover left right)
    (frames : List SentFrame) :
    Twin leftover { left with frames := left.frames ++ frames }
      { right with frames := right.frames ++ frames } where
  session := (congrArg (fun world : World => { world with frames := world.frames ++ frames })
    twin.session :)
  config := twin.config
  position := twin.position

theorem twinned_setError {α : Type} (message : String) :
    Twinned leftover (setError message : ClientM α) :=
  (overlooks_setError message).agrees leftover

theorem twinned_refuseIf (condition : Prop) [Decidable condition] (message : String) :
    Twinned leftover (refuseIf condition message) :=
  .ite (twinned_setError message) (.pure ())

theorem twinned_allocate (size : Nat) (message : String) :
    Twinned leftover (allocate host size message) :=
  (overlooks_allocate size message).agrees leftover

theorem twinned_frameContent (plain : List UInt8) :
    Twinned leftover (frameContent host plain) := by
  refine .look (fun left right twin => ?_) fun threshold => ?_
  · have same : left.session.client.compressionThreshold =
        right.session.client.compressionThreshold := by rw [twin.session]
    change left.client.compressionThreshold = right.client.compressionThreshold at same
    dsimp only
    rw [same]
  · refine .ite (.pure _) (.ite (.pure _) (.bind (twinned_allocate _ _) fun _ => ?_))
    cases host.zlib.compress2 plain (host.zlib.compressBound plain.length) with
    | none => exact twinned_setError _
    | some compressed => exact .pure _

theorem twinned_encodeFrame (packetId : Int) (payload : Buffer) :
    Twinned leftover (encodeFrame host packetId payload) :=
  .bind (twinned_refuseIf _ _) fun _ => .bind (twinned_allocate _ _) fun _ =>
    .bind (twinned_frameContent _) fun _ => .bind (twinned_refuseIf _ _) fun _ =>
      .bind (twinned_allocate _ _) fun _ => .pure _

theorem twinned_sendAll (data : List UInt8) : Twinned leftover (sendAll host data) :=
  .bind ((overlooks_encryptStream data).agrees leftover) fun wire =>
    (overlooks_writeSocket wire).agrees leftover

theorem twinned_sendFrame (packetId : Int) (payload : Buffer) :
    Twinned leftover (sendFrame host packetId payload) := by
  intro left right twin
  have transmits : Twinned leftover (transmit host packetId payload) :=
    .bind (twinned_encodeFrame packetId payload) fun wire => twinned_sendAll wire
  obtain ⟨value, after⟩ := transmits left right twin
  unfold sendFrame
  dsimp only
  rw [value]
  exact ⟨rfl, after.logged _⟩

theorem twinned_sendBuilder (packetId : Int) (packet : McPacket) :
    Twinned leftover (sendBuilder host packetId packet) :=
  .bind (twinned_refuseIf _ _) fun _ => twinned_sendFrame packetId packet.body

theorem twinned_refuseUnconnected : Twinned leftover refuseUnconnected :=
  twinned_look (fun _ => rfl) fun _ => twinned_refuseIf _ _

theorem twinned_send (packetId : Int) (payload : Buffer) :
    Twinned leftover (mcClientSend host packetId payload) :=
  .bind twinned_refuseUnconnected fun _ => twinned_sendFrame packetId payload

theorem twinned_batchLoop (packets : List McOutboundPacket) (capacity : Nat)
    (batch : List UInt8) : Twinned leftover (batchLoop host packets capacity batch) := by
  induction packets generalizing capacity batch with
  | nil => exact .pure _
  | cons packet packets ih =>
      refine .bind (twinned_encodeFrame _ _) fun frame => .bind (twinned_refuseIf _ _) fun _ => ?_
      exact .ite (.bind (twinned_allocate _ _) fun _ => ih _ _) (ih _ _)

theorem twinned_sendBatch (batch : Batch) : Twinned leftover (mcClientSendBatch host batch) := by
  refine .bind twinned_refuseUnconnected fun _ => ?_
  cases batch with
  | null count => exact twinned_refuseIf _ _
  | packets packets =>
      exact .bind (twinned_batchLoop packets 0 []) fun batch => .ite (.pure ()) (twinned_sendAll _)

theorem twinned_sendNamed (packetName : String) (payload : Buffer) :
    Twinned leftover (mcClientSendNamed host packetName payload) :=
  .bind twinned_refuseUnconnected fun _ => twinned_look (fun _ => rfl) fun _ =>
    .bind (twinned_refuseIf _ _) fun _ => twinned_send _ _

theorem twinned_trackPosition (position : McPlayerPosition) :
    Twinned leftover (trackPosition position) := by
  intro left right twin
  exact ⟨rfl, twin.session, twin.config, .inr (.inr rfl)⟩

theorem twinned_sendPlayerPosition (position : McPlayerPosition) :
    Twinned leftover (mcClientSendPlayerPosition host position) :=
  twinned_look (fun _ => rfl) fun _ => .bind (twinned_refuseIf _ _) fun _ =>
    .bind (twinned_refuseIf _ _) fun _ => .bind (twinned_sendNamed _ _) fun _ =>
      twinned_trackPosition position

/-- There is memory for what a client's decoder may buffer and put out. -/
def Host.Buffers (host : Host) : Prop :=
  ¬ host.streamHeap.Refuses mcStreamDecoderConfigInit.maxBufferedSize ∧
    ¬ host.streamHeap.Refuses mcStreamDecoderConfigInit.maxOutputSize

theorem Twin.decoders {left right : World} (twin : Twin leftover left right) :
    left.client.streamDecoder.session = right.client.streamDecoder.session :=
  (congrArg (fun world : World => world.client.streamDecoder) twin.session :)

/-- The same done to both decoders. -/
theorem Twin.decoded {left right : World} (twin : Twin leftover left right)
    {decoder other : McStreamDecoder} (same : decoder.session = other.session)
    (config : decoder.config = left.client.streamDecoder.config) :
    Twin leftover { left with client := { left.client with streamDecoder := decoder } }
      { right with client := { right.client with streamDecoder := other } } where
  session := by
    have sessions := twin.session
    unfold World.session McClient.session at *
    dsimp only at *
    simp only [World.mk.injEq, McClient.mk.injEq] at *
    simp only [same, sessions, and_self]
  config := config.trans twin.config
  position := twin.position

theorem twinned_feedOne (buffers : host.Buffers) (data : Buffer) :
    Twinned leftover (feedOne host data) := by
  intro left right twin
  have made := (mcStreamDecoderFeed_make host.zlib host.streamHeap left.client.streamDecoder
    { data := data, frameCapacity := 1, framesNull := false, frameCountNull := false }).config
  obtain ⟨buffering, output⟩ := buffers
  rw [← twin.config] at buffering output
  have fed : SameFeed (mcStreamDecoderFeed host.zlib host.streamHeap _ _)
      (mcStreamDecoderFeed host.zlib host.streamHeap _ _) :=
    feed_session twin.decoders buffering output
      { data := data, frameCapacity := 1, framesNull := false, frameCountNull := false }
  unfold feedOne
  dsimp only
  rw [← fed.ok, ← fed.error]
  have behind := twin.decoded fed.session made
  split_ifs with accepted
  · have packets := congrArg List.head? (fed.packets accepted)
    simp only [Feeding.packets, FeedResult.views, List.head?_map] at packets
    exact ⟨congrArg some packets, behind⟩
  · exact twinned_setError _ _ _ behind

theorem twinned_copyDecodedFrame (decoded : StreamPacket) :
    Twinned leftover (copyDecodedFrame host decoded) :=
  .bind (twinned_refuseIf _ _) fun _ => .bind (twinned_allocate _ _) fun _ => .pure _

theorem twinned_readFrameTurn (buffers : host.Buffers) :
    Twinned leftover (readFrameTurn host) := by
  refine .bind (twinned_feedOne buffers _) fun found => ?_
  cases found with
  | some decoded => exact .bind (twinned_copyDecodedFrame decoded) fun _ => .pure _
  | none =>
      refine .bind ((overlooks_receiveSome _).agrees leftover) fun received => ?_
      refine .bind (twinned_feedOne buffers _) fun found => ?_
      cases found with
      | some decoded => exact .bind (twinned_copyDecodedFrame decoded) fun _ => .pure _
      | none => exact .pure _

theorem twinned_readFrameLoop (buffers : host.Buffers) (fuel : Nat) :
    Twinned leftover (readFrameLoop host fuel) := by
  induction fuel with
  | zero => exact .refuse
  | succ fuel ih =>
      refine .bind (twinned_readFrameTurn buffers) fun frame => ?_
      cases frame with
      | some frame => exact .pure _
      | none => exact ih

theorem twinned_readFrame (buffers : host.Buffers) : Twinned leftover (readFrame host) := by
  intro left right twin
  have network : left.network = right.network := (congrArg World.network twin.session :)
  unfold readFrame
  rw [network]
  exact twinned_readFrameLoop buffers _ left right twin

theorem twinned_modify {change : McClient → McClient}
    (session : ∀ client, (change client).session = (change client.session).session)
    (unmoved : ∀ client, (change client).profile = client.profile ∧
      (change client).automaticReplies = client.automaticReplies ∧
      (change client).known = client.known ∧
      (change client).streamDecoder.config = client.streamDecoder.config) :
    Twinned leftover (modifyClient change) :=
  (overlooks_modify session unmoved).agrees leftover

theorem twinned_tell (event : McEvent) : Twinned leftover (tell event) :=
  (overlooks_tell event).agrees leftover

theorem twinned_answered {call : ClientM Unit} (twinned : Twinned leftover call) :
    Twinned leftover (answered call) := by
  intro left right twin
  obtain ⟨value, after⟩ := twinned left right twin
  exact ⟨congrArg (fun result : Option Unit => some result.isSome) value, after⟩

theorem twinned_enter (state : McState) :
    Twinned leftover (modifyClient fun client => { client with state := state }) :=
  twinned_modify (fun _ => rfl) fun _ => ⟨rfl, rfl, rfl, rfl⟩

theorem twinned_disconnectWith {change : McState → ClientM Unit}
    (changes : ∀ state, Twinned leftover (change state)) :
    Twinned leftover (disconnectWith change) :=
  .bind (twinned_modify (fun _ => rfl) fun _ => ⟨rfl, rfl, rfl, rfl⟩) fun _ =>
    changes .disconnected

theorem twinned_setReadTimeout (timeoutMs : Nat) :
    Twinned leftover (mcClientSetReadTimeout timeoutMs) :=
  .bind (twinned_refuseIf _ _) fun _ =>
    twinned_modify (fun _ => rfl) fun _ => ⟨rfl, rfl, rfl, rfl⟩

theorem twinned_setStreamTransforms (transforms : TransformsArgument) :
    Twinned leftover (mcClientSetStreamTransforms transforms) := by
  refine twinned_look (fun _ => rfl) fun _ => .bind (twinned_refuseIf _ _) fun _ => ?_
  cases transforms with
  | null => exact (overlooks_installTransforms none).agrees leftover
  | incomplete => exact twinned_setError _
  | given transforms => exact (overlooks_installTransforms (some transforms)).agrees leftover

theorem twinned_performAppCall {change : McState → ClientM Unit}
    (changes : ∀ state, Twinned leftover (change state)) (request : AppCall) :
    Twinned leftover (performAppCall host change request) := by
  cases request with
  | disconnect => exact twinned_disconnectWith changes
  | setState state =>
      exact twinned_look (fun _ => rfl) fun _ => .bind (twinned_refuseIf _ _) fun _ =>
        .bind (twinned_refuseIf _ _) fun _ => changes state
  | setCompression threshold => exact (overlooks_setCompression threshold).agrees leftover
  | setReadTimeout timeoutMs => exact twinned_setReadTimeout timeoutMs
  | setStreamTransforms transforms => exact twinned_setStreamTransforms transforms
  | send packetId payload => exact twinned_send packetId payload
  | sendNamed packetName payload => exact twinned_sendNamed packetName payload
  | sendBatch batch => exact twinned_sendBatch batch
  | sendPlayerPosition position => exact twinned_sendPlayerPosition position

theorem twinned_runProgram {change : McState → ClientM Unit}
    (changes : ∀ state, Twinned leftover (change state)) (program : AppProgram) :
    Twinned leftover (runProgram host change program) := by
  induction program with
  | done => exact .pure ()
  | call request next ih =>
      exact .bind (twinned_answered (twinned_performAppCall changes request)) fun succeeded =>
        .bind (twinned_tell _) fun _ => ih succeeded

theorem twinned_runCallback {change : McState → ClientM Unit}
    (changes : ∀ state, Twinned leftover (change state)) (callback : List McEvent → AppProgram) :
    Twinned leftover (runCallback host change callback) := by
  refine .look (fun left right twin => ?_) fun events => twinned_runProgram changes _
  have events : left.events = right.events := (congrArg World.events twin.session :)
  rw [events]

theorem twinned_changeStateAt (app : App) (depth : Nat) (state : McState) :
    Twinned leftover (changeStateAt host app depth state) := by
  have previous (rest : McState → ClientM Unit) (behind : ∀ state, Twinned leftover (rest state)) :
      Twinned leftover (Prog.observe (fun world : World => world.client.state) >>= rest) := by
    refine .look (fun left right twin => ?_) behind
    have states : left.client.state = right.client.state :=
      (congrArg (fun world : World => world.client.state) twin.session :)
    rw [states]
  induction depth generalizing state with
  | zero =>
      unfold changeStateAt
      refine previous _ fun current => .ite (.pure ()) (.bind (twinned_enter state) fun _ => ?_)
      cases app.onState with
      | none => exact .pure ()
      | some callback => exact .bind (twinned_tell _) fun _ => .pure ()
  | succ depth ih =>
      unfold changeStateAt
      refine previous _ fun current => .ite (.pure ()) (.bind (twinned_enter state) fun _ => ?_)
      cases app.onState with
      | none => exact .pure ()
      | some callback => exact .bind (twinned_tell _) fun _ => twinned_runCallback ih callback

theorem twinned_changeState (app : App) (state : McState) :
    Twinned leftover (changeState host app state) :=
  twinned_changeStateAt app app.nesting state

theorem twinned_emitPacket (app : App) (state : McState) (packetId : Int)
    (payload : List UInt8) : Twinned leftover (emitPacket host app state packetId payload) := by
  unfold emitPacket
  cases app.onPacket with
  | none => exact .pure ()
  | some callback =>
      exact .bind (twinned_tell _) fun _ => twinned_runCallback (twinned_changeState app) callback

theorem twinned_disconnect (app : App) : Twinned leftover (mcClientDisconnect host app) :=
  twinned_disconnectWith (twinned_changeState app)

/-- Two calls that came to the same, and the disconnect behind them. -/
theorem Twin.orDisconnect {α : Type} {app : App} {call : ClientM α} {left right : World}
    (called : Concur (Twin leftover) (call left) (call right)) :
    Concur (Twin leftover) (orDisconnect host app call left) (orDisconnect host app call right) := by
  obtain ⟨value, after⟩ := called
  unfold McProtocol.orDisconnect
  rcases first : call left with ⟨_ | result, left'⟩
  · rcases second : call right with ⟨_ | other, right'⟩
    · rw [first, second] at after
      exact ⟨rfl, (twinned_disconnect app left' right' after).2⟩
    · rw [first, second] at value
      cases value
  · rcases second : call right with ⟨_ | other, right'⟩
    · rw [first, second] at value
      cases value
    · rw [first, second] at value after
      exact ⟨value, after⟩

theorem twinned_orDisconnect {α : Type} {app : App} {call : ClientM α}
    (twinned : Twinned leftover call) : Twinned leftover (orDisconnect host app call) := by
  intro left right twin
  have called : Concur (Twin leftover) (call left) (call right) := twinned.concur twin
  have both := @Twin.orDisconnect host leftover α app call left right called
  exact ⟨both.value, both.after⟩

theorem twinned_readProtocolPacket (buffers : host.Buffers) (app : App) (state : McState) :
    Twinned leftover (readProtocolPacket host app state) := by
  refine .bind (twinned_readFrame buffers) fun frame => ?_
  rcases mcReaderVarint.run (mcReaderInit frame) with ⟨_ | packetId, body⟩
  · exact twinned_setError _
  · exact .bind (twinned_emitPacket app _ _ _) fun _ => .pure _

theorem twinned_pollReady : Twinned leftover pollReady := by
  refine twinned_look (fun client => ?_) fun client => .ite (.pure true) ?_
  · rfl
  · refine .bind (overlooks_backendWait.agrees leftover) fun wait => ?_
    cases wait with
    | ready => exact .pure true
    | timeout => exact .pure false
    | failed reason => exact twinned_setError _

theorem twinned_reopened : Twinned leftover (modifyClient McClient.reopened) :=
  twinned_modify (fun _ => rfl) fun _ => ⟨rfl, rfl, rfl, rfl⟩

/-- What an open does behind the reset. -/
def openReset (host : Host) (app : App) (protocol : Int) (address : List UInt8) (port : UInt16)
    (next : McState) : ClientM Unit := do
  let socketFd ← connectTcp
  modifyClient fun client => { client with socketFd := socketFd }
  orDisconnect host app do
    backendInit
    sendBuilder host 0x00 (buildPacket 512 (handshakePacket protocol address port next)).2
  changeState host app next

theorem twinned_openReset (app : App) (protocol : Int) (address : List UInt8) (port : UInt16)
    (next : McState) : Twinned leftover (openReset host app protocol address port next) := by
  refine .bind (overlooks_connectTcp.agrees leftover) fun socketFd => ?_
  refine .bind (twinned_modify (fun _ => rfl) fun _ => ⟨rfl, rfl, rfl, rfl⟩) fun _ => ?_
  refine .bind (twinned_orDisconnect ?_) fun _ => twinned_changeState app next
  exact .bind (overlooks_backendInit.agrees leftover) fun _ => twinned_sendBuilder _ _

theorem twinned_open (app : App) (address : List UInt8) (port : UInt16) (next : McState) :
    Twinned leftover (mcClientOpen host app address port next) :=
  .bind (twinned_refuseIf _ _) fun _ => twinned_look (fun _ => rfl) fun client =>
    .bind (twinned_refuseIf _ _) fun _ => .bind twinned_reopened fun _ =>
      twinned_openReset app client.profile.protocol address port next

theorem twinned_sendInformation (information : McClientInformation) :
    Twinned leftover (sendInformation host information) :=
  twinned_look (fun _ => rfl) fun _ => twinned_sendBuilder _ _

theorem twinned_configurationLoop (buffers : host.Buffers) (app : App) (protocol : Int)
    (requested : Option McClientInformation) (left : Nat) (informationSent : Bool) :
    Twinned leftover (configurationLoop host app protocol requested left informationSent) := by
  induction left generalizing informationSent with
  | zero => exact twinned_setError _
  | succ left ih =>
      refine .bind (twinned_readProtocolPacket buffers app _) fun received => ?_
      refine .bind (.when (twinned_sendInformation _)) fun _ => ?_
      refine .bind (.when (twinned_sendBuilder _ _)) fun _ => .ite ?_ (ih _)
      refine .bind (.when (twinned_sendInformation _)) fun _ => ?_
      exact .bind (.when (twinned_sendBuilder _ _)) fun _ => twinned_sendFrame _ _

theorem twinned_configurationExchange (buffers : host.Buffers) (app : App)
    (requested : Option McClientInformation) :
    Twinned leftover (configurationExchange host app requested) :=
  .bind (twinned_changeState app _) fun _ => .bind (twinned_sendFrame _ _) fun _ =>
    twinned_look (fun _ => rfl) fun _ => twinned_configurationLoop buffers app _ _ _ _

theorem twinned_loginLoop (buffers : host.Buffers) (app : App) (left : Nat) :
    Twinned leftover (loginLoop host app left) := by
  induction left with
  | zero => exact twinned_setError _
  | succ left ih =>
      refine .bind (twinned_readProtocolPacket buffers app _) fun received => ?_
      refine .ite (twinned_setError _) (.ite (twinned_setError _) (.ite ?_ (.ite (.pure ()) ih)))
      cases (mcReaderVarint.run received.2).1 with
      | none => exact twinned_setError _
      | some threshold =>
          exact .bind (twinned_refuseIf _ _) fun _ =>
            .bind ((overlooks_setCompression threshold).agrees leftover) fun _ => ih

theorem twinned_logIn (buffers : host.Buffers) (app : App) (username : List UInt8)
    (profileId : McUuid) (requested : Option McClientInformation) :
    Twinned leftover (logIn host app username profileId requested) :=
  twinned_look (fun _ => rfl) fun _ => .bind (twinned_sendBuilder _ _) fun _ =>
    .bind (twinned_loginLoop buffers app _) fun _ =>
      .when (twinned_configurationExchange buffers app requested)

end calls

end McProtocol
