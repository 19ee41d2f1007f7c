import McProtocol.Client.Play
import McProtocol.Server.Handshake
import McProtocol.StreamRuns

/-! # Runs of a client

The states that calls lead a client to, whether it was created or accepted, whatever the
network does and whatever the application does when it is called back. A client has two
copies of the compression threshold, one for each direction, and one decoder; both are
written by few of these calls, and the invariants below come from that.
-/

namespace McProtocol

/-- A call of the application on its client. -/
inductive ClientCall where
  | opens (address : List UInt8) (port : UInt16) (next : McState)
  | connects (call : ConnectCall)
  | request (call : AppCall)
  | poll (timeoutMs : Nat)

section Reachable

variable (host : Host) (app : App)

def ClientCall.perform : ClientCall → ClientM Unit
  | .opens address port next => mcClientOpen host app address port next
  | .connects call => call.perform host app
  | .request call => performAppCall host (changeState host app) call
  | .poll timeoutMs => do
      let _ ← mcClientPoll host app timeoutMs
      pure ()

/-- The worlds that calls lead to. The network may do anything at any time, but what was
written stays written. -/
inductive World.Reachable : World → Prop where
  | created {protocol : Int} {granted decoderGranted : Bool} {world : World} :
      mcClientCreate protocol granted decoderGranted = .ok world.client → Reachable world
  | accepted {accepting : Accepting} {handshake : McHandshake} {world : World} :
      mcServerAccept host app accepting = .accepted handshake world → Reachable world
  | network {world : World} {network : Network} :
      Reachable world → network.wire = world.network.wire →
        Reachable { world with network := network }
  | call {world : World} (call : ClientCall) :
      Reachable world → Reachable (call.perform host app world).2

end Reachable

/-- The moves the client's own answers are made of. -/
structure CoversAnswers (host : Host) (D : Discipline World) : Prop extends CoversMemory D where
  sendsFrame : ∀ packetId payload, D.Lawful (sendFrame host packetId payload)
  tracks : ∀ position, D.Lawful (trackPosition position)
  loads : D.Lawful (modifyClient fun client => { client with playerLoadedSent := true })

namespace CoversAnswers

variable {D : Discipline World} {host : Host} (covers : CoversAnswers host D)
include covers

theorem sendBuilder_lawful (packetId : Int) (packet : McPacket) :
    D.Lawful (sendBuilder host packetId packet) :=
  .bind (covers.refuseIf_lawful _ _) fun _ => covers.sendsFrame _ _

theorem answerPosition_lawful (body : McReader) : D.Lawful (answerPosition host body) := by
  refine .bind (covers.observe_lawful _) fun client => ?_
  rcases (mcReaderClientboundPlayerPosition client.profile.protocol).run body with
    ⟨_ | decoded, rest⟩
  · exact covers.setError_lawful _
  · refine .bind (covers.refuseIf_lawful _ _) fun _ => .bind (covers.tracks _) fun _ => ?_
    refine .bind ?_ fun _ => .bind ?_ fun _ => ?_
    · exact .bind (covers.observe_lawful _) fun _ => .when (covers.sendBuilder_lawful _ _)
    · exact .bind (covers.observe_lawful _) fun _ => .when (covers.sendBuilder_lawful _ _)
    · exact .bind (covers.observe_lawful _) fun _ =>
        .when (.bind (covers.sendsFrame _ _) fun _ => covers.loads)

theorem handlePlay_lawful (packetId : Int) (body : McReader) :
    D.Lawful (handlePlay host packetId body) := by
  refine .bind (covers.observe_lawful _) fun client => ?_
  split_ifs
  · exact covers.sendsFrame _ _
  · refine .bind (.when (covers.answerPosition_lawful body)) fun _ => .when ?_
    exact .bind (covers.observe_lawful _) fun _ => covers.sendBuilder_lawful _ _

end CoversAnswers

/-- The moves connecting and polling are made of, besides those of callbacks, reads and
answers: a discipline that covers them too covers every call. -/
structure CoversRuns (host : Host) (D : Discipline World) : Prop
    extends CoversReads host D, CoversAnswers host D where
  dials : D.Lawful connectTcp
  starts : D.Lawful backendInit
  attaches : ∀ socketFd : Nat,
    D.Lawful (modifyClient fun client => { client with socketFd := socketFd })
  reopens : D.Lawful (modifyClient McClient.reopened)
  reads : (∀ fuel, D.Lawful (readFrameLoop host fuel)) → D.Lawful (readFrame host)
  restores : ∀ app timeoutMs, (∀ state, D.Lawful (readProtocolPacket host app state)) →
    D.Lawful (pollRead host app timeoutMs)

namespace CoversRuns

variable {D : Discipline World} {host : Host} (covers : CoversRuns host D) (app : App)
include covers

theorem changeState_lawful (state : McState) : D.Lawful (changeState host app state) :=
  covers.changeStateAt_lawful app _ state

theorem orDisconnect_lawful {α : Type} {call : ClientM α} (lawful : D.Lawful call) :
    D.Lawful (orDisconnect host app call) := by
  have closes := covers.mcClientDisconnect_lawful app
  have rescued : orDisconnect host app call =
      call.rescue fun world => (mcClientDisconnect host app world).2 := by
    funext world
    rw [orDisconnect, Prog.rescue]
    rcases call world with ⟨_ | value, after⟩ <;> rfl
  rw [rescued]
  exact lawful.rescue (fun world => closes.keeps world) fun world => closes.steps world

theorem refuseUnconnected_lawful : D.Lawful refuseUnconnected :=
  .bind (covers.observe_lawful _) fun _ => covers.refuseIf_lawful _ _

theorem readProtocolPacket_lawful (state : McState) :
    D.Lawful (readProtocolPacket host app state) := by
  refine .bind (covers.reads covers.readFrameLoop_lawful) fun frame => ?_
  rcases mcReaderVarint.run (mcReaderInit frame) with ⟨_ | packetId, body⟩
  · exact covers.setError_lawful _
  · exact .bind (covers.emitPacket_lawful app _ _ _) fun _ => .pure _

theorem pollPacket_lawful (timeoutMs : Nat) : D.Lawful (pollPacket host app timeoutMs) := by
  have ready : D.Lawful pollReady := by
    refine .bind (covers.observe_lawful _) fun client => ?_
    split_ifs
    · exact .pure _
    · refine .bind covers.polls fun wait => ?_
      cases wait with
      | ready => exact .pure _
      | timeout => exact .pure _
      | failed reason => exact covers.setError_lawful _
  refine .bind ready fun found => ?_
  cases found with
  | false => exact .pure _
  | true =>
      exact .bind (covers.restores app timeoutMs (covers.readProtocolPacket_lawful app)) fun _ =>
        .pure _

theorem pollConnected_lawful (timeoutMs : Nat) : D.Lawful (pollConnected host app timeoutMs) := by
  refine .bind (covers.pollPacket_lawful app timeoutMs) fun received => ?_
  cases received with
  | none => exact .pure _
  | some received =>
      refine .bind ?_ fun _ => .pure _
      exact .bind (covers.observe_lawful _) fun _ => .when (covers.handlePlay_lawful _ _)

theorem mcClientPoll_lawful (timeoutMs : Nat) : D.Lawful (mcClientPoll host app timeoutMs) := by
  refine .bind covers.refuseUnconnected_lawful fun _ => ?_
  refine .bind (covers.observe_lawful _) fun client => ?_
  split_ifs
  · exact .pure _
  · exact covers.orDisconnect_lawful app (covers.pollConnected_lawful app timeoutMs)

theorem mcClientOpen_lawful (address : List UInt8) (port : UInt16) (next : McState) :
    D.Lawful (mcClientOpen host app address port next) := by
  refine .bind (covers.refuseIf_lawful _ _) fun _ => .bind (covers.observe_lawful _) fun _ => ?_
  refine .bind (covers.refuseIf_lawful _ _) fun _ => .bind covers.reopens fun _ => ?_
  refine .bind covers.dials fun socketFd => .bind (covers.attaches socketFd) fun _ => ?_
  refine .bind (covers.orDisconnect_lawful app ?_) fun _ => covers.changeState_lawful app next
  exact .bind covers.starts fun _ => covers.sendBuilder_lawful _ _

theorem sendInformation_lawful (information : McClientInformation) :
    D.Lawful (sendInformation host information) :=
  .bind (covers.observe_lawful _) fun _ => covers.sendBuilder_lawful _ _

theorem configurationLoop_lawful (protocol : Int) (requested : Option McClientInformation)
    (left : Nat) (informationSent : Bool) :
    D.Lawful (configurationLoop host app protocol requested left informationSent) := by
  induction left generalizing informationSent with
  | zero => exact covers.setError_lawful _
  | succ left ih =>
      refine .bind (covers.readProtocolPacket_lawful app _) fun received => ?_
      refine .bind (.when (covers.sendInformation_lawful _)) fun _ => ?_
      refine .bind (.when (covers.sendBuilder_lawful _ _)) fun _ => ?_
      split
      · refine .bind (.when (covers.sendInformation_lawful _)) fun _ => ?_
        exact .bind (.when (covers.sendBuilder_lawful _ _)) fun _ => covers.sendsFrame _ _
      · exact ih _

theorem configurationExchange_lawful (requested : Option McClientInformation) :
    D.Lawful (configurationExchange host app requested) :=
  .bind (covers.changeState_lawful app _) fun _ => .bind (covers.sendsFrame _ _) fun _ =>
    .bind (covers.observe_lawful _) fun _ => covers.configurationLoop_lawful app _ _ _ _

theorem loginLoop_lawful (left : Nat) : D.Lawful (loginLoop host app left) := by
  induction left with
  | zero => exact covers.setError_lawful _
  | succ left ih =>
      refine .bind (covers.readProtocolPacket_lawful app _) fun received => ?_
      split
      split_ifs
      · exact covers.setError_lawful _
      · exact covers.setError_lawful _
      · rename_i packetId body _ _ _
        cases (mcReaderVarint.run body).1 with
        | none => exact covers.setError_lawful _
        | some threshold =>
            exact .bind (covers.refuseIf_lawful _ _) fun _ =>
              .bind (covers.compresses threshold) fun _ => ih
      · exact .pure _
      · exact ih

theorem reachPlay_lawful (address : List UInt8) (port : UInt16) (username : List UInt8)
    (profileId : Option McUuid) (requested : Option McClientInformation) :
    D.Lawful (reachPlay host app address port username profileId requested) := by
  refine .bind (covers.refuseIf_lawful _ _) fun _ => ?_
  cases profileId with
  | none => exact covers.setError_lawful _
  | some profileId =>
      refine .bind (covers.mcClientOpen_lawful app address port _) fun _ => ?_
      refine covers.orDisconnect_lawful app (.bind (covers.observe_lawful _) fun _ => ?_)
      refine .bind (covers.sendBuilder_lawful _ _) fun _ => ?_
      refine .bind (covers.loginLoop_lawful app _) fun _ => ?_
      exact .when (covers.configurationExchange_lawful app requested)

theorem clientConnectProfile_lawful (address : List UInt8) (port : UInt16) (username : List UInt8)
    (profileId : Option McUuid) (requested : Option McClientInformation) :
    D.Lawful (clientConnectProfile host app address port username profileId requested) :=
  .bind (covers.reachPlay_lawful app address port username profileId requested) fun _ =>
    covers.changeState_lawful app _

theorem connect_lawful (call : ConnectCall) : D.Lawful (call.perform host app) := by
  cases call with
  | connectProfile address port username profileId requested =>
      exact covers.clientConnectProfile_lawful app address port username profileId requested
  | connect address port username =>
      exact .bind (covers.refuseIf_lawful _ _) fun _ =>
        covers.clientConnectProfile_lawful app address port username _ none

theorem perform_lawful (call : ClientCall) : D.Lawful (call.perform host app) := by
  cases call with
  | opens address port next => exact covers.mcClientOpen_lawful app address port next
  | connects call => exact covers.connect_lawful app call
  | request call => exact covers.performAppCall_lawful (covers.changeState_lawful app) call
  | poll timeoutMs => exact .bind (covers.mcClientPoll_lawful app timeoutMs) fun _ => .pure _

end CoversRuns

/-- What no call changes. -/
structure OfOneMake (before after : World) : Prop where
  profile : after.client.profile = before.client.profile
  mask : after.client.automaticReplies = before.client.automaticReplies
  config : after.client.streamDecoder.config = before.client.streamDecoder.config

def ofOneMake : Discipline World :=
  .moving OfOneMake (fun _ => ⟨rfl, rfl, rfl⟩) fun _ _ _ left right =>
    ⟨right.profile.trans left.profile, right.mask.trans left.mask,
      right.config.trans left.config⟩

theorem ofOneMake_of_undisturbed {α : Type} {program : ClientM α}
    (lawful : undisturbed.Lawful program) : ofOneMake.Lawful program :=
  .of_steps fun world => by
    have moved := lawful.moves world
    exact ⟨moved.profile, moved.automaticReplies, moved.decoder.config⟩

theorem ofOneMake_runs (host : Host) : CoversRuns host ofOneMake where
  remembers lawful := ofOneMake_of_undisturbed ((undisturbed_covers host).remembers lawful)
  answers lawful := .of_steps lawful.moves
  detaches := .of_steps fun _ => ⟨rfl, rfl, rfl⟩
  enters _ := .of_steps fun _ => ⟨rfl, rfl, rfl⟩
  waits _ := .of_steps fun _ => ⟨rfl, rfl, rfl⟩
  sends packetId payload := ofOneMake_of_undisturbed ((undisturbed_covers host).sends _ payload)
  sendsNamed packetName payload :=
    ofOneMake_of_undisturbed ((undisturbed_covers host).sendsNamed packetName payload)
  sendsBatch batch := ofOneMake_of_undisturbed ((undisturbed_covers host).sendsBatch batch)
  sendsPosition position :=
    ofOneMake_of_undisturbed ((undisturbed_covers host).sendsPosition position)
  installs _ := .of_steps fun _ => ⟨rfl, rfl, rfl⟩
  compresses threshold := ofOneMake_of_undisturbed ((undisturbed_covers host).compresses threshold)
  tells _ := .of_steps fun _ => ⟨rfl, rfl, rfl⟩
  feeds data := ofOneMake_of_undisturbed ((undisturbed_reads host).feeds data)
  receives capacity := ofOneMake_of_undisturbed ((undisturbed_reads host).receives capacity)
  polls := ofOneMake_of_undisturbed (undisturbed_reads host).polls
  sendsFrame packetId payload :=
    ofOneMake_of_undisturbed (undisturbed_of_sending (sendFrame_sending host packetId payload))
  tracks _ := .of_steps fun _ => ⟨rfl, rfl, rfl⟩
  loads := .of_steps fun _ => ⟨rfl, rfl, rfl⟩
  dials := .of_steps fun world => by
    unfold connectTcp
    split
    · exact ⟨rfl, rfl, rfl⟩
    · exact ⟨rfl, rfl, rfl⟩
    · exact ⟨rfl, rfl, rfl⟩
  starts := .of_steps fun world => by
    unfold backendInit
    split
    · exact ⟨rfl, rfl, rfl⟩
    · exact ⟨rfl, rfl, rfl⟩
    · exact ⟨rfl, rfl, rfl⟩
  attaches _ := .of_steps fun _ => ⟨rfl, rfl, rfl⟩
  reopens := .of_steps fun _ => ⟨rfl, rfl, rfl⟩
  reads lawful := .of_steps fun world => (lawful _).moves world
  restores app timeoutMs lawful := .of_steps fun world => by
    have moved := (lawful world.client.state).moves
      { world with client := { world.client with readTimeoutMs := timeoutMs } }
    exact ⟨moved.profile, moved.mask, moved.config⟩

/-- A relation between the client's threshold and its decoder that every operation on
either of them keeps. -/
structure CompressionInvariant (zlib : Zlib) where
  holds : Int → McStreamDecoder → Prop
  creates : ∀ {config : Option McStreamDecoderConfig} {granted : Bool} {decoder : McStreamDecoder},
    mcStreamDecoderCreate config granted = .ok decoder → holds (-1) decoder
  feeds : ∀ (heap : Heap) (call : FeedCall) {threshold : Int} {decoder : McStreamDecoder},
    holds threshold decoder → holds threshold (mcStreamDecoderFeed zlib heap decoder call).2
  sets : ∀ {threshold next : Int} {decoder after : McStreamDecoder},
    holds threshold decoder → mcStreamDecoderSetCompression decoder next = (none, after) →
      holds next after
  resets : ∀ {threshold : Int} {decoder : McStreamDecoder},
    holds threshold decoder → holds (-1) (mcStreamDecoderReset decoder)

/-- A refused change of the threshold leaves the decoder alone. -/
theorem mcStreamDecoderSetCompression_refused {decoder after : McStreamDecoder} {next : Int}
    {error : McError} (refused : mcStreamDecoderSetCompression decoder next = (some error, after)) :
    after = decoder := by
  unfold mcStreamDecoderSetCompression at refused
  split_ifs at refused
  · exact (Prod.mk.inj refused).2.symm
  · exact (Prod.mk.inj refused).2.symm
  · exact (Prod.mk.inj refused).2.symm
  · cases (Prod.mk.inj refused).1

namespace CompressionInvariant

variable {zlib : Zlib} (invariant : CompressionInvariant zlib)

/-- The relation between the fields of a client. -/
def Of (client : McClient) : Prop :=
  invariant.holds client.compressionThreshold client.streamDecoder

/-- Programs that keep the relation. -/
def kept : Discipline World :=
  .moving (fun before after => invariant.Of before.client → invariant.Of after.client)
    (fun _ => id) fun _ _ _ left right => right ∘ left

variable {invariant}

theorem kept_of_same {α : Type} {program : ClientM α}
    (threshold : ∀ world, (program world).2.client.compressionThreshold =
      world.client.compressionThreshold)
    (decoder : ∀ world, (program world).2.client.streamDecoder = world.client.streamDecoder) :
    invariant.kept.Lawful program := by
  apply Discipline.Lawful.of_steps
  intro world held
  unfold Of
  rw [threshold, decoder]
  exact held

theorem kept_of_sending {α : Type} {program : ClientM α} (lawful : sending.Lawful program) :
    invariant.kept.Lawful program := by
  apply kept_of_same
  · intro world
    rw [(lawful.moves world).client]
  · intro world
    rw [(lawful.moves world).client]

theorem kept_setCompression (next : Int) : invariant.kept.Lawful (mcClientSetCompression next) := by
  apply Discipline.Lawful.of_steps
  intro world held
  unfold mcClientSetCompression
  split_ifs with closed low
  · exact held
  · exact held
  · rcases set : mcStreamDecoderSetCompression world.client.streamDecoder next with
      ⟨_ | error, decoder⟩
    · exact invariant.sets held set
    · dsimp only
      rw [mcStreamDecoderSetCompression_refused set]
      exact held

theorem kept_covers (host : Host) : CoversCalls host invariant.kept where
  remembers lawful := kept_of_sending (sending_of_memoryOnly lawful)
  answers lawful := .of_steps lawful.moves
  detaches := kept_of_same (fun _ => rfl) fun _ => rfl
  enters _ := kept_of_same (fun _ => rfl) fun _ => rfl
  waits _ := kept_of_same (fun _ => rfl) fun _ => rfl
  sends packetId payload := kept_of_sending (mcClientSend_sending host packetId payload)
  sendsNamed packetName payload :=
    kept_of_sending (mcClientSendNamed_sending host packetName payload)
  sendsBatch batch := kept_of_sending (mcClientSendBatch_sending host batch)
  sendsPosition position := by
    refine .bind (kept_of_sending (observe_sending _)) fun _ => ?_
    refine .bind (kept_of_sending (refuseIf_sending _ _)) fun _ => ?_
    refine .bind (kept_of_sending (refuseIf_sending _ _)) fun _ => ?_
    refine .bind (kept_of_sending (mcClientSendNamed_sending host _ _)) fun _ => ?_
    exact kept_of_same (fun _ => rfl) fun _ => rfl
  installs _ := kept_of_same (fun _ => rfl) fun _ => rfl
  compresses := kept_setCompression
  tells _ := kept_of_same (fun _ => rfl) fun _ => rfl

theorem kept_runs {host : Host} {invariant : CompressionInvariant host.zlib} :
    CoversRuns host invariant.kept where
  toCoversCalls := kept_covers host
  feeds data := by
    apply Discipline.Lawful.of_steps
    intro world held
    obtain ⟨error, same⟩ := feedOne_after host data world
    rw [same]
    exact invariant.feeds host.streamHeap _ held
  receives capacity := by
    apply Discipline.Lawful.of_steps
    intro world held
    obtain ⟨arrivals, waits, received, error, decrypted, same, -⟩ := receiveSome_after capacity world
    rw [same]
    exact held
  polls := by
    have client (world : World) : (backendWait world).2.client = world.client := by
      unfold backendWait
      cases world.network.waits with
      | nil => rfl
      | cons wait waits => rfl
    exact kept_of_same (fun world => by rw [client]) fun world => by rw [client]
  sendsFrame packetId payload := kept_of_sending (sendFrame_sending host packetId payload)
  tracks _ := kept_of_same (fun _ => rfl) fun _ => rfl
  loads := kept_of_same (fun _ => rfl) fun _ => rfl
  dials := by
    have client (world : World) : (connectTcp world).2.client = world.client := by
      unfold connectTcp
      split <;> rfl
    exact kept_of_same (fun world => by rw [client]) fun world => by rw [client]
  starts := by
    have client (world : World) : (backendInit world).2.client = world.client := by
      unfold backendInit
      split <;> rfl
    exact kept_of_same (fun world => by rw [client]) fun world => by rw [client]
  attaches _ := kept_of_same (fun _ => rfl) fun _ => rfl
  reopens := .of_steps fun world held => invariant.resets held
  reads lawful := .of_steps fun world => (lawful _).moves world
  restores app timeoutMs lawful := by
    apply Discipline.Lawful.of_steps
    intro world
    exact (lawful world.client.state).moves
      { world with client := { world.client with readTimeoutMs := timeoutMs } }

theorem created {protocol : Int} {granted decoderGranted : Bool} {client : McClient}
    (created : mcClientCreate protocol granted decoderGranted = .ok client) :
    invariant.Of client := by
  unfold mcClientCreate at created
  cases found : findProfile protocol with
  | none =>
      rw [found] at created
      cases created
  | some profile =>
      rw [found] at created
      cases granted with
      | false => cases created
      | true =>
          cases made : mcStreamDecoderCreate none decoderGranted with
          | error error =>
              rw [made] at created
              cases created
          | ok decoder =>
              rw [made] at created
              cases created
              exact invariant.creates made

theorem accepted {host : Host} {app : App} {invariant : CompressionInvariant host.zlib}
    {accepting : Accepting} {handshake : McHandshake} {world : World}
    (accepted : mcServerAccept host app accepting = .accepted handshake world) :
    invariant.Of world.client := by
  obtain ⟨incoming, frame, rest, client, -, -, -, made, rfl⟩ := mcServerAccept_iff.mp accepted
  have fresh : invariant.Of client := CompressionInvariant.created made
  exact ((kept_covers host).changeStateAt_lawful app _ _).moves _ fresh

/-- The relation holds in every state a client gets to. -/
theorem reachable {host : Host} {app : App} (invariant : CompressionInvariant host.zlib)
    {world : World} (reachable : World.Reachable host app world) : invariant.Of world.client := by
  induction reachable with
  | created made => exact created made
  | accepted made => exact accepted made
  | network _ _ ih => exact ih
  | call call _ ih => exact (kept_runs.perform_lawful app call).moves _ ih

end CompressionInvariant

/-- The client's own copy is the decoder's. -/
def copiesAgree (zlib : Zlib) : CompressionInvariant zlib where
  holds threshold decoder := threshold = decoder.compressionThreshold
  creates made := by
    unfold mcStreamDecoderCreate at made
    dsimp only at made
    split_ifs at made with refused ungranted
    cases made
    rfl
  feeds heap call _ decoder same := same.trans (sameThreshold_moves.feed zlib heap decoder call).symm
  sets {_ next decoder after} _ set := by
    unfold mcStreamDecoderSetCompression at set
    split_ifs at set with low failed buffered
    · cases set
    · cases set
    · cases set
    · cases set
      rfl
  resets _ := rfl

theorem mcClientSetCompression_refused {threshold : Int} {world after : World}
    (refused : mcClientSetCompression threshold world = (none, after)) :
    after.client = world.client := by
  unfold mcClientSetCompression at refused
  split_ifs at refused with closed low
  · cases refused
    rfl
  · cases refused
    rfl
  · rcases set : mcStreamDecoderSetCompression world.client.streamDecoder threshold with
      ⟨_ | error, decoder⟩
    · rw [set] at refused
      cases refused
    · rw [set] at refused
      cases refused
      rw [mcStreamDecoderSetCompression_refused set]

/-- What a client writes and what it expects to read are framed with one threshold, in
every state its calls lead to; a threshold that is refused changes neither copy. -/
theorem compression_in_step (host : Host) (app : App) (world : World)
    (reachable : World.Reachable host app world) :
    world.client.compressionThreshold = world.client.streamDecoder.compressionThreshold ∧
      ∀ threshold after, mcClientSetCompression threshold world = (none, after) →
        after.client.compressionThreshold = world.client.compressionThreshold ∧
          after.client.streamDecoder.compressionThreshold =
            world.client.streamDecoder.compressionThreshold := by
  refine ⟨(copiesAgree host.zlib).reachable reachable, fun threshold after refused => ?_⟩
  rw [mcClientSetCompression_refused refused]
  exact ⟨rfl, rfl⟩

/-- Behind a login that switched compression on. -/
theorem compression_in_step_connected :
    let host := Host.ample (.knowing [] [])
    let app : App := ⟨none, none, 0⟩
    let client := (mcClientCreate 47 true true).toOption.get (by decide)
    let connected := ((ClientCall.connects (.connect [97] 0 [97])).perform host app
      (World.serving client [3, 3, 0x80, 0x02, 2, 0, 2])).2
    connected.client.compressionThreshold = 256 ∧
      connected.client.streamDecoder.compressionThreshold = 256 := by
  intro host app client connected
  have outgoing : connected.client.compressionThreshold = 256 := by decide +kernel
  have reachable : World.Reachable host app connected :=
    .call _ (.created (show mcClientCreate 47 true true = .ok client from rfl))
  have same := (compression_in_step host app connected reachable).1
  exact ⟨outgoing, same.symm.trans outgoing⟩

/-- The probe answers what a feed without input would do, and such a feed that finds
nothing changes nothing; so a poll waits for the socket only when no frame and no error
is buffered. -/
theorem frame_ready_exact (zlib : Zlib) (heap : Heap) (decoder : McStreamDecoder)
    (reachable : decoder.Reachable zlib) :
    (streamDecoderFrameReady decoder = true ↔
      (mcStreamDecoderFeed zlib heap decoder probeCall).1.Answers) ∧
    (streamDecoderFrameReady decoder = false →
      (mcStreamDecoderFeed zlib heap decoder probeCall).1.ok = true ∧
        (mcStreamDecoderFeed zlib heap decoder probeCall).1.frames = [] ∧
        (mcStreamDecoderFeed zlib heap decoder probeCall).2.buffer = decoder.buffer) ∧
    ∀ host app timeoutMs world, world.client.streamDecoder = decoder →
      (mcStreamDecoderFeed zlib heap decoder probeCall).1.Answers →
        pollPacket host app timeoutMs world =
          (some <$> pollRead host app timeoutMs : ClientM (Option Received)) world := by
  have bounded := reachable.bounded
  refine ⟨bounded.frameReady_iff zlib heap, fun unready => ?_, ?_⟩
  · obtain ⟨result, kept⟩ := bounded.feed_unready zlib heap unready
    rw [result]
    exact ⟨rfl, rfl, kept⟩
  · intro host app timeoutMs world same answers
    have ready : streamDecoderFrameReady world.client.streamDecoder = true := by
      rw [same]
      exact (bounded.frameReady_iff zlib heap).mpr answers
    have polled : pollReady world = (some true, world) :=
      (Prog.bind_some rfl).trans (by rw [if_pos ready]; rfl)
    exact Prog.bind_some polled

/-- A decoder with a whole frame that it was not asked for. -/
theorem frame_ready_exact_buffered :
    let zlib : Zlib := .knowing [] []
    let created := (mcStreamDecoderCreate none true).toOption.get (by decide)
    let decoder := (mcStreamDecoderFeed zlib .ample created (feedOf [1, 0] 0)).2
    streamDecoderFrameReady decoder = true ∧
      (mcStreamDecoderFeed zlib .ample decoder probeCall).1.Answers := by
  intro zlib created decoder
  have reachable : decoder.Reachable zlib :=
    .call (.feed .ample (feedOf [1, 0] 0))
      (.create (show mcStreamDecoderCreate none true = .ok created from rfl))
  have ready : streamDecoderFrameReady decoder = true := by decide +kernel
  exact ⟨ready, (frame_ready_exact zlib .ample decoder reachable).1.mp ready⟩

end McProtocol
