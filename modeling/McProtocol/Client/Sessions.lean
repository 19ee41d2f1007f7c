import McProtocol.Client.EchoedPosition
import McProtocol.Client.Twins

/-! # Sessions are independent

A client that is opened again does what a fresh one does, whatever happened before. One thing
shows through: the tracked position is not reset, and the first position of the new session is
resolved against it.
-/

namespace McProtocol

open Prog (Agrees Concur)

/-- What a turn needs for its answer not to show what was known before: a position resolved
against it is the position itself, as long as this session knows none. -/
def Turn.Anchored (leftover : Option McPlayerPosition) (turn : Turn) : Prop :=
  let client := turn.called.client
  turn.Playing → turn.received.packetId = client.profile.playerPosition → ¬ client.Blind →
    client.known = none → ∀ decoded ∈ decodePosition client.profile.protocol turn.received.body,
      PositionTurn.AlreadyResolved leftover decoded

section polls

variable {host : Host} {app : App} {leftover : Option McPlayerPosition} {left right : World}

theorem Twin.client (twin : Twin leftover left right) :
    left.client.session = right.client.session :=
  (congrArg World.client twin.session :)

theorem Twin.profile (twin : Twin leftover left right) :
    left.client.profile = right.client.profile :=
  (congrArg McClient.profile twin.client :)

theorem Twin.mask (twin : Twin leftover left right) :
    left.client.automaticReplies = right.client.automaticReplies :=
  (congrArg McClient.automaticReplies twin.client :)

/-- Both track a position, the same if it matters. -/
theorem Twin.tracked (twin : Twin leftover left right) {first second : McPlayerPosition}
    (same : left.client.Blind ∨ first = second) :
    Concur (Twin leftover) (trackPosition first left) (trackPosition second right) where
  value := rfl
  after := by
    refine ⟨twin.session, twin.config, ?_⟩
    obtain blind | rfl := same
    · exact .inl blind
    · exact .inr (.inr rfl)

/-- The confirmation of a blind client does not carry a position. -/
theorem Twin.teleported (twin : Twin leftover left right) (decoded : McClientboundPlayerPosition)
    {first second : McPlayerPosition} (same : left.client.Blind ∨ first = second) :
    Concur (Twin leftover) (answerTeleport host decoded first left)
      (answerTeleport host decoded second right) := by
  obtain blind | rfl := same
  · change Concur (Twin leftover)
      (Prog.when (decoded.hasTeleportId = true ∧ left.client.replies .teleport = true)
        (sendBuilder host left.client.profile.teleportConfirm (buildPacket 48 (confirmationPacket
          left.client.profile.protocol decoded.teleportId first)).2) left)
      (Prog.when (decoded.hasTeleportId = true ∧ right.client.replies .teleport = true)
        (sendBuilder host right.client.profile.teleportConfirm (buildPacket 48 (confirmationPacket
          right.client.profile.protocol decoded.teleportId second)).2) right)
    unfold McClient.Blind at blind
    unfold McClient.replies at *
    rw [← twin.profile, ← twin.mask]
    by_cases answers : decoded.hasTeleportId = true ∧
        left.client.automaticReplies.testBit AutomaticReply.teleport.bit = true
    · rw [Prog.when_pos answers, Prog.when_pos answers]
      have early : ¬ 777 ≤ left.client.profile.protocol := by
        rcases blind with early | silent
        · omega
        · rw [silent] at answers
          simp at answers
      have unplaced (position : McPlayerPosition) :
          confirmationPacket left.client.profile.protocol decoded.teleportId position =
            mcPacketVarint decoded.teleportId >>= fun _ => .when (777 ≤ left.client.profile.protocol)
              (pure ()) := by
        unfold confirmationPacket Program.when
        congr 1
        funext _
        simp only [Prog.when, if_neg early]
      rw [unplaced, unplaced]
      exact (twinned_sendBuilder _ _).concur twin
    · rw [Prog.when_neg answers, Prog.when_neg answers]
      exact ⟨rfl, twin⟩
  · refine Agrees.concur ?_ twin
    exact twinned_look (fun _ => rfl) fun _ => .when (twinned_sendBuilder _ _)

theorem twinned_answerMovement (decoded : McClientboundPlayerPosition) :
    Twinned leftover (answerMovement host decoded) :=
  twinned_look (fun _ => rfl) fun _ => .when (twinned_sendBuilder _ _)

theorem twinned_answerLoaded : Twinned leftover (answerLoaded host) :=
  twinned_look (fun _ => rfl) fun _ => .when (.bind (twinned_sendFrame _ _) fun _ =>
    twinned_modify (fun _ => rfl) fun _ => ⟨rfl, rfl, rfl, rfl⟩)

theorem twinned_answerBatch : Twinned leftover (answerBatch host) :=
  twinned_look (fun _ => rfl) fun _ => twinned_sendBuilder _ _

/-- Blind stays blind where only something is sent. -/
theorem McClient.Blind.sent {before after : World} (blind : before.client.Blind)
    (sent : SameButSending before after) : after.client.Blind := by
  unfold McClient.Blind McClient.replies at *
  rw [sent.client]
  exact blind

theorem answerMovement_sending (decoded : McClientboundPlayerPosition) :
    sending.Lawful (answerMovement host decoded) :=
  .bind (observe_sending _) fun _ => .when (sendBuilder_sending host _ _)

theorem answerPosition_accepted {body : McReader} {world : World}
    {decoded : McClientboundPlayerPosition}
    (accepted : decodePosition world.client.profile.protocol body = some decoded) :
    answerPosition host body world = (do
      trackPosition (resolvePosition world.client.known decoded)
      answerMovement host decoded
      answerTeleport host decoded (resolvePosition world.client.known decoded)
      answerLoaded host : ClientM Unit) world := by
  obtain ⟨rest, run, ends⟩ := decodePosition_eq_some accepted
  have looked : Prog.observe World.client world = (some world.client, world) := rfl
  refine (Prog.bind_some looked).trans ?_
  rw [run]
  exact Prog.bind_some (refuseIf_neg (not_not.mpr ends))

/-- A position that is answered the same. -/
theorem Twin.positioned (twin : Twin leftover left right) {body : McReader}
    (anchored : ¬ left.client.Blind → left.client.known = none →
      ∀ decoded ∈ decodePosition left.client.profile.protocol body,
        PositionTurn.AlreadyResolved leftover decoded) :
    Concur (Twin leftover) (answerPosition host body left) (answerPosition host body right) := by
  have profile := twin.profile
  cases decoding : decodePosition left.client.profile.protocol body with
  | none =>
      rw [answerPosition_refused decoding, answerPosition_refused (profile ▸ decoding)]
      exact (twinned_setError _).concur twin
  | some decoded =>
      rw [answerPosition_accepted decoding, answerPosition_accepted (profile ▸ decoding)]
      have same : left.client.Blind ∨
          resolvePosition left.client.known decoded = resolvePosition right.client.known decoded := by
        obtain blind | ⟨unknown, known⟩ | alike := twin.position
        · exact .inl blind
        · by_cases blind : left.client.Blind
          · exact .inl blind
          · have resolved := anchored blind unknown decoded decoding
            rw [unknown, known, (resolvePosition_eq_iff leftover decoded).mpr resolved]
            exact .inr rfl
        · rw [alike]
          exact .inr rfl
      refine (twin.tracked same).bindKnowing fun _ before behind tracks _ tracked => ?_
      refine ((twinned_answerMovement decoded).concur tracked).bindKnowing
        fun _ moved gone moves _ apart => ?_
      have blind (there : left.client.Blind) : moved.client.Blind := by
        have still : before.client.Blind := by
          cases tracks
          exact there
        have sent := (@answerMovement_sending host decoded).moves before
        rw [moves] at sent
        exact still.sent sent
      refine (apart.teleported decoded (same.imp_left blind)).bind fun _ _ _ answered => ?_
      exact twinned_answerLoaded.concur answered

/-- Both look at their client, but not at what a session leaves behind. -/
theorem Twin.look {α : Type} (twin : Twin leftover left right) {rest : McClient → ClientM α}
    (same : ∀ client, rest client = rest client.session)
    (behind : Concur (Twin leftover) (rest left.client left) (rest left.client right)) :
    Concur (Twin leftover) ((Prog.observe World.client >>= rest) left)
      ((Prog.observe World.client >>= rest) right) := by
  have clients : rest right.client = rest left.client := by
    rw [same right.client, same left.client, twin.client]
  have looked (world : World) :
      (Prog.observe World.client >>= rest) world = rest world.client world := Prog.bind_some rfl
  rw [looked left, looked right, clients]
  exact behind

/-- A packet that is answered the same. -/
theorem Twin.handled (twin : Twin leftover left right) {packetId : Int} {body : McReader}
    (anchored : packetId = left.client.profile.playerPosition → ¬ left.client.Blind →
      left.client.known = none → ∀ decoded ∈ decodePosition left.client.profile.protocol body,
        PositionTurn.AlreadyResolved leftover decoded) :
    Concur (Twin leftover) (handlePlay host packetId body left)
      (handlePlay host packetId body right) := by
  refine twin.look (fun _ => rfl) ?_
  split_ifs with alive
  · exact (twinned_sendFrame _ _).concur twin
  · refine Concur.bind ?_ fun _ _ _ answered =>
      (Agrees.when twinned_answerBatch).concur answered
    by_cases position : packetId = left.client.profile.playerPosition ∧
        (left.client.replies .teleport || left.client.replies .playerLoaded) = true
    · rw [Prog.when_pos position, Prog.when_pos position]
      exact twin.positioned (anchored position.1)
    · rw [Prog.when_neg position, Prog.when_neg position]
      exact ⟨rfl, twin⟩

theorem Twin.answers (twin : Twin leftover left right) {received : Received}
    (anchored : received.state = .play ∧ left.client.Playing →
      received.packetId = left.client.profile.playerPosition → ¬ left.client.Blind →
      left.client.known = none →
      ∀ decoded ∈ decodePosition left.client.profile.protocol received.body,
        PositionTurn.AlreadyResolved leftover decoded) :
    Concur (Twin leftover) (pollAnswer host received left) (pollAnswer host received right) := by
  refine twin.look (fun _ => rfl) ?_
  by_cases holds : received.state = .play ∧ left.client.Playing
  · rw [Prog.when_pos holds, Prog.when_pos holds]
    exact twin.handled (anchored holds)
  · rw [Prog.when_neg holds, Prog.when_neg holds]
    exact ⟨rfl, twin⟩

/-- The client with another timeout. -/
def World.awaiting (world : World) (timeoutMs : Nat) : World :=
  { world with client := { world.client with readTimeoutMs := timeoutMs } }

theorem pollRead_eq (timeoutMs : Nat) (world : World) :
    pollRead host app timeoutMs world =
      ((readProtocolPacket host app world.client.state (world.awaiting timeoutMs)).1.map
          fun packet => ⟨world.client.state, packet.1, packet.2⟩,
        (readProtocolPacket host app world.client.state (world.awaiting timeoutMs)).2.awaiting
          world.client.readTimeoutMs) :=
  rfl

theorem Twin.awaiting (twin : Twin leftover left right) (timeoutMs other : Nat) :
    Twin leftover (left.awaiting timeoutMs) (right.awaiting other) :=
  ⟨twin.session, twin.config, twin.position⟩

theorem twinned_pollRead (buffers : host.Buffers) (timeoutMs : Nat) :
    Twinned leftover (pollRead host app timeoutMs) := by
  intro left right twin
  have states : right.client.state = left.client.state :=
    (congrArg McClient.state twin.client.symm :)
  have waiting := twin.awaiting timeoutMs timeoutMs
  obtain ⟨value, after⟩ := twinned_readProtocolPacket buffers app left.client.state _ _ waiting
  rw [pollRead_eq, pollRead_eq, states, value]
  exact ⟨rfl, after.awaiting _ _⟩

theorem twinned_pollPacket (buffers : host.Buffers) (timeoutMs : Nat) :
    Twinned leftover (pollPacket host app timeoutMs) := by
  refine .bind twinned_pollReady fun ready => ?_
  cases ready with
  | true => exact .bind (twinned_pollRead buffers timeoutMs) fun _ => .pure _
  | false => exact .pure none

theorem mcClientPoll_eq (timeoutMs : Nat) (world : World) :
    mcClientPoll host app timeoutMs world =
      if world.client.socketFd < 0 ∨ world.client.state = .disconnected then
        setError "Client non connesso" world
      else if world.client.stop = true then (some false, world)
      else orDisconnect host app (pollConnected host app timeoutMs) world := by
  have looked : Prog.observe World.client world = (some world.client, world) := rfl
  split_ifs with unconnected stopped
  · exact Prog.bind_none ((Prog.bind_some looked).trans (refuseIf_pos unconnected))
  · refine (Prog.bind_some ((Prog.bind_some looked).trans (refuseIf_neg unconnected))).trans ?_
    refine (Prog.bind_some looked).trans ?_
    rw [if_pos stopped]
    rfl
  · refine (Prog.bind_some ((Prog.bind_some looked).trans (refuseIf_neg unconnected))).trans ?_
    refine (Prog.bind_some looked).trans ?_
    rw [if_neg stopped]

/-- A poll of twins, told that the packet it handles is answered the same. -/
theorem Twin.polls (twin : Twin leftover left right) (buffers : host.Buffers) {timeoutMs : Nat}
    (anchored : ∀ turn ∈ pollTurn host app timeoutMs left, turn.Anchored leftover) :
    Concur (Twin leftover) (mcClientPoll host app timeoutMs left)
      (mcClientPoll host app timeoutMs right) := by
  have states : right.client.state = left.client.state :=
    (congrArg McClient.state twin.client.symm :)
  have sockets : right.client.socketFd = left.client.socketFd :=
    (congrArg McClient.socketFd twin.client.symm :)
  have stops : right.client.stop = left.client.stop :=
    (congrArg McClient.stop twin.client.symm :)
  rw [mcClientPoll_eq, mcClientPoll_eq, states, sockets, stops]
  split_ifs with unconnected stopped
  · exact (twinned_setError _).concur twin
  · exact ⟨rfl, twin⟩
  · refine Twin.orDisconnect ?_
    have connected : ¬ (left.client.socketFd < 0 ∨ left.client.state = .disconnected ∨
        left.client.stop = true) := by
      rintro (socket | state | stop)
      · exact unconnected (.inl socket)
      · exact unconnected (.inr state)
      · exact stopped stop
    refine ((twinned_pollPacket buffers timeoutMs).concur twin).bindKnowing
      fun found called _ polled _ apart => ?_
    cases found with
    | none => exact ⟨rfl, apart⟩
    | some received =>
        unfold pollTurn at anchored
        rw [if_neg connected, polled] at anchored
        have turned := anchored _ rfl
        refine (apart.answers fun playing => ?_).bind fun _ _ _ answered => ⟨rfl, answered⟩
        exact turned playing

end polls

section sessions

variable (host : Host) (app : App)

/-- A call and whether it handled a packet; nothing where it returned `-1`. -/
def ClientCall.report : ClientCall → ClientM Bool
  | .poll timeoutMs => mcClientPoll host app timeoutMs
  | call => do
      call.perform host app
      pure false

/-- The packet the call handles, if any. -/
def ClientCall.turn : ClientCall → World → Option Turn
  | .poll timeoutMs, world => pollTurn host app timeoutMs world
  | _, _ => none

/-- What the calls of a session return, one after the other, and the world they leave. -/
def runSession : List ClientCall → World → List (Option Bool) × World
  | [], world => ([], world)
  | call :: calls, world =>
      let (result, world) := call.report host app world
      let (results, world) := runSession calls world
      (result :: results, world)

/-- The packets that the calls of a session handle. -/
def sessionTurns : List ClientCall → World → List Turn
  | [], _ => []
  | call :: calls, world =>
      (call.turn host app world).toList ++ sessionTurns calls (call.report host app world).2

/-- The calls a session begins with. -/
def ClientCall.Opens : ClientCall → Prop
  | .opens _ _ _ => True
  | .connects _ => True
  | _ => False

end sessions

/-- The worlds a client has seen: its calls lead from one to the next, with any host and any
application, and between two calls everything around the client may change. -/
inductive World.Lived (fresh : McClient) : World → Prop where
  | fresh {world : World} : world.client = fresh → Lived fresh world
  | elsewhere {world other : World} :
      Lived fresh world → other.client = world.client → Lived fresh other
  | call {world : World} (host : Host) (app : App) (call : ClientCall) :
      Lived fresh world → Lived fresh (call.perform host app world).2

/-- A closed client that is fresh, and one with a past. -/
structure Parted (leftover : Option McPlayerPosition) (left right : World) : Prop where
  around : right = { left with client := right.client }
  profile : right.client.profile = left.client.profile
  mask : right.client.automaticReplies = left.client.automaticReplies
  fresh : left.client.Closed ∧ left.client.known = none ∧
    left.client.streamDecoder.config = mcStreamDecoderConfigInit
  used : right.client.Closed ∧ right.client.known = leftover ∧
    right.client.streamDecoder.config = mcStreamDecoderConfigInit

section opening

variable {host : Host} {app : App} {leftover : Option McPlayerPosition}

/-- What the open resets makes the two of them twins. -/
theorem Parted.reopened {left right : World} (parted : Parted leftover left right) :
    Twin leftover { left with client := left.client.reopened }
      { right with client := right.client.reopened } where
  session := by
    rw [parted.around]
    have client : left.client.reopened.session = right.client.reopened.session := by
      unfold McClient.reopened McClient.session mcStreamDecoderReset McStreamDecoder.session
        McStreamDecoder.stream
      simp only [parted.profile, parted.mask, parted.fresh.1.socket, parted.used.1.socket,
        parted.fresh.1.state, parted.used.1.state, parted.fresh.2.2, parted.used.2.2]
    unfold World.session
    dsimp only
    rw [client]
  config := parted.fresh.2.2
  position := .inr (.inl ⟨parted.fresh.2.1, parted.used.2.1⟩)

/-- Both calls do the same on worlds that were parted, or the first one refuses. -/
abbrev Meets (leftover : Option McPlayerPosition) {α : Type} (program : ClientM α) : Prop :=
  Prog.Follows (Parted leftover) program program fun a b left right =>
    a = b ∧ Twin leftover left right

theorem Meets.refuseIf {α : Type} {condition : Prop} [Decidable condition] {message : String}
    {rest : Unit → ClientM α} (meets : Meets leftover (rest ())) :
    Meets leftover (refuseIf condition message >>= rest) := by
  intro left right result after parted run
  by_cases holds : condition
  · rw [Prog.bind_none (refuseIf_pos holds)] at run
    cases run
  · rw [Prog.bind_some (refuseIf_neg holds)] at run ⊢
    exact meets left right result after parted run

theorem Meets.bind {α β : Type} {program : ClientM α} {rest : α → ClientM β}
    (first : Meets leftover program) (behind : ∀ a, Twinned leftover (rest a)) :
    Meets leftover (program >>= rest) := by
  refine Prog.Follows.bind first fun a b => ?_
  rintro left right result after ⟨rfl, twin⟩ run
  exact (behind a).follows left right result after twin run

theorem meets_open (address : List UInt8) (port : UInt16) (next : McState) :
    Meets leftover (mcClientOpen host app address port next) := by
  refine .refuseIf fun left right result after parted run => ?_
  have looked (world : World) :
      Prog.observe World.client world = (some world.client, world) := rfl
  have closed (world : World) (shut : world.client.Closed) : ¬ 0 ≤ world.client.socketFd := by
    rw [shut.socket]
    omega
  have reset (world : World) : modifyClient McClient.reopened world =
      (some (), { world with client := world.client.reopened }) := rfl
  rw [Prog.bind_some (looked _), Prog.bind_some (refuseIf_neg (closed _ parted.fresh.1)),
    Prog.bind_some (reset _)] at run
  rw [Prog.bind_some (looked _), Prog.bind_some (refuseIf_neg (closed _ parted.used.1)),
    Prog.bind_some (reset _), parted.profile]
  exact (twinned_openReset app left.client.profile.protocol address port next).follows _ _ _ _
    parted.reopened run

theorem meets_reachPlay (buffers : host.Buffers) (address : List UInt8) (port : UInt16)
    (username : List UInt8) (profileId : Option McUuid)
    (requested : Option McClientInformation) :
    Meets leftover (reachPlay host app address port username profileId requested) := by
  refine .refuseIf ?_
  cases profileId with
  | none => exact Prog.Follows.never fun _ _ _ run => by cases run
  | some profileId =>
      exact (meets_open address port .login).bind fun _ =>
        twinned_orDisconnect (twinned_logIn buffers app username profileId requested)

theorem ClientCall.Opens.meets {call : ClientCall} (opens : call.Opens) (buffers : host.Buffers) :
    Meets leftover (call.report host app) := by
  have connects (address : List UInt8) (port : UInt16) (username : List UInt8)
      (profileId : Option McUuid) (requested : Option McClientInformation) :
      Meets leftover (clientConnectProfile host app address port username profileId requested) :=
    (meets_reachPlay buffers address port username profileId requested).bind fun _ =>
      twinned_changeState app .play
  cases call with
  | opens address port next => exact (meets_open address port next).bind fun _ => .pure false
  | connects call =>
      refine Meets.bind ?_ fun _ => .pure false
      cases call with
      | connect address port username => exact .refuseIf (connects _ _ _ _ _)
      | connectProfile address port username profileId requested => exact connects _ _ _ _ _
  | request call => cases opens
  | poll timeoutMs => cases opens

theorem twinned_connect (buffers : host.Buffers) (call : ConnectCall) :
    Twinned leftover (call.perform host app) := by
  have connects (address : List UInt8) (port : UInt16) (username : List UInt8)
      (profileId : Option McUuid) (requested : Option McClientInformation) :
      Twinned leftover
        (clientConnectProfile host app address port username profileId requested) := by
    refine .bind (.bind (twinned_refuseIf _ _) fun _ => ?_) fun _ => twinned_changeState app .play
    cases profileId with
    | none => exact twinned_setError _
    | some profileId =>
        exact .bind (twinned_open app address port .login) fun _ =>
          twinned_orDisconnect (twinned_logIn buffers app username profileId requested)
  cases call with
  | connect address port username =>
      exact .bind (twinned_refuseIf _ _) fun _ => connects _ _ _ _ _
  | connectProfile address port username profileId requested => exact connects _ _ _ _ _

/-- A call on twins. -/
theorem Twin.reports {left right : World} (twin : Twin leftover left right)
    (buffers : host.Buffers) {call : ClientCall}
    (anchored : ∀ turn ∈ call.turn host app left, turn.Anchored leftover) :
    Concur (Twin leftover) (call.report host app left) (call.report host app right) := by
  cases call with
  | opens address port next =>
      exact (Agrees.bind (twinned_open app address port next) fun _ => .pure false).concur twin
  | connects call =>
      exact (Agrees.bind (twinned_connect buffers call) fun _ => .pure false).concur twin
  | request call =>
      exact (Agrees.bind (twinned_performAppCall (twinned_changeState app) call)
        fun _ => .pure false).concur twin
  | poll timeoutMs => exact twin.polls buffers anchored

/-- A session on twins. -/
theorem Twin.runs {left right : World} (twin : Twin leftover left right) (buffers : host.Buffers)
    {calls : List ClientCall}
    (anchored : ∀ turn ∈ sessionTurns host app calls left, turn.Anchored leftover) :
    (runSession host app calls left).1 = (runSession host app calls right).1 ∧
      Twin leftover (runSession host app calls left).2 (runSession host app calls right).2 := by
  induction calls generalizing left right with
  | nil => exact ⟨rfl, twin⟩
  | cons call calls ih =>
      obtain ⟨value, after⟩ := @Twin.reports host app leftover left right twin buffers call fun turn found =>
        anchored turn (List.mem_append_left _ (Option.mem_toList.mpr found))
      obtain ⟨results, apart⟩ := ih after fun turn found =>
        anchored turn (List.mem_append_right _ found)
      unfold runSession
      exact ⟨congrArg₂ List.cons value results, apart⟩

end opening

theorem World.Lived.ofOneMake {fresh : McClient} {world : World} (lived : World.Lived fresh world) :
    world.client.profile = fresh.profile ∧
      world.client.automaticReplies = fresh.automaticReplies ∧
      world.client.streamDecoder.config = fresh.streamDecoder.config := by
  induction lived with
  | fresh same => exact ⟨by rw [same], by rw [same], by rw [same]⟩
  | elsewhere _ same ih =>
      rw [same]
      exact ih
  | @call world host app call _ ih =>
      have moved := ((ofOneMake_runs host).perform_lawful app call).moves world
      exact ⟨moved.profile.trans ih.1, moved.mask.trans ih.2.1, moved.config.trans ih.2.2⟩

theorem mcClientCreate_fresh {protocol : Int} {granted decoderGranted : Bool} {client : McClient}
    (created : mcClientCreate protocol granted decoderGranted = .ok client) :
    client.Closed ∧ client.known = none ∧
      client.streamDecoder.config = mcStreamDecoderConfigInit := by
  unfold mcClientCreate at created
  cases found : findProfile protocol with
  | none =>
      rw [found] at created
      cases created
  | some profile =>
      rw [found] at created
      cases granted with
      | false => cases created
      | true =>
          cases decoderGranted with
          | false => cases created
          | true =>
              cases created
              exact ⟨⟨rfl, rfl⟩, rfl, rfl⟩

/-- A session of a client that has lived before is one of a fresh client: the same results, the
same bytes and callbacks, and the same client behind it but for what a session leaves. The
position that is left over must not show. -/
theorem sessions_independent (host : Host) (app : App) (buffers : host.Buffers)
    {protocol : Int} {granted decoderGranted : Bool} {client : McClient}
    (created : mcClientCreate protocol granted decoderGranted = .ok client) (mask : Nat)
    {past left : World} (lived : past.Lived { client with automaticReplies := mask })
    (closed : past.client.Closed) (fresh : left.client = { client with automaticReplies := mask })
    {opening : ClientCall} (opens : opening.Opens)
    (opened : ((opening.report host app left).1).isSome) (calls : List ClientCall)
    (anchored : ∀ turn ∈ sessionTurns host app calls (opening.report host app left).2,
      turn.Anchored past.client.known) :
    let right := { left with client := past.client }
    (runSession host app (opening :: calls) left).1 =
        (runSession host app (opening :: calls) right).1 ∧
      (runSession host app (opening :: calls) left).2.session =
        (runSession host app (opening :: calls) right).2.session := by
  intro right
  obtain ⟨closedFresh, unknown, config⟩ := mcClientCreate_fresh created
  obtain ⟨profile, replies, made⟩ := lived.ofOneMake
  have parted : Parted past.client.known left right := by
    refine ⟨rfl, ?_, ?_, ?_, closed, rfl, made.trans config⟩
    · rw [fresh]
      exact profile
    · rw [fresh]
      exact replies
    · rw [fresh]
      exact ⟨⟨closedFresh.socket, closedFresh.state⟩, unknown, config⟩
  rcases run : opening.report host app left with ⟨_ | found, before⟩
  · rw [run] at opened
    cases opened
  · rw [run] at anchored
    obtain ⟨_, behind, ran, rfl, twin⟩ :=
      opens.meets buffers left right found before parted run
    obtain ⟨results, apart⟩ := twin.runs buffers anchored
    unfold runSession
    rw [run, ran]
    exact ⟨congrArg (List.cons (some found)) results, apart.session⟩

instance : DecidablePred McClient.Blind := fun _ => inferInstanceAs (Decidable (_ ∨ _))

instance (leftover : Option McPlayerPosition) (turn : Turn) : Decidable (turn.Anchored leftover) :=
  inferInstanceAs (Decidable (turn.Playing → _ → _ → _ → ∀ decoded ∈ decodePosition _ _, _))

theorem eq_ok_of_toOption {ε α : Type} {result : Except ε α} (some : result.toOption.isSome = true) :
    result = .ok (result.toOption.get some) := by
  cases result with
  | error error => cases some
  | ok value => rfl

theorem buffers_ample (zlib : Zlib) : (Host.ample zlib).Buffers :=
  ⟨Heap.ample_grants (by decide), Heap.ample_grants (by decide)⟩

/-- A session is lived. -/
theorem World.Lived.runs {fresh : McClient} {world : World} (lived : World.Lived fresh world)
    (host : Host) (app : App) (calls : List ClientCall) :
    World.Lived fresh (runSession host app calls world).2 := by
  induction calls generalizing world with
  | nil => exact lived
  | cons call calls ih =>
      have reported : (call.report host app world).2 = (call.perform host app world).2 := by
        cases call with
        | poll timeoutMs =>
            simp only [ClientCall.report, ClientCall.perform, Prog.bind_run]
            rcases mcClientPoll host app timeoutMs world with ⟨_ | found, after⟩
            · rfl
            · rfl
        | opens address port next =>
            simp only [ClientCall.report, Prog.bind_run]
            rcases (ClientCall.opens address port next).perform host app world with ⟨_ | u, after⟩
            · rfl
            · rfl
        | connects call =>
            simp only [ClientCall.report, Prog.bind_run]
            rcases (ClientCall.connects call).perform host app world with ⟨_ | u, after⟩
            · rfl
            · rfl
        | request call =>
            simp only [ClientCall.report, Prog.bind_run]
            rcases (ClientCall.request call).perform host app world with ⟨_ | u, after⟩
            · rfl
            · rfl
      unfold runSession
      dsimp only
      rw [reported]
      exact ih (lived.call host app call)

/-- A server that takes the connection and puts the client at `x = 1`, as `flags` say. -/
def World.welcoming (client : McClient) (flags : UInt8) : World :=
  let served := World.serving client ([62, 73, 7, 0x3f, 0xf0] ++ List.replicate 57 0 ++ [flags])
  { served with network := { served.network with waits := [.ready] } }

/-- What an application without callbacks does with that server behind the opening. -/
def followingCalls : List ClientCall :=
  [.request (.setState .play), .poll 50, .request .disconnect]

/-- A session with that server. -/
def World.visited (world : World) : List (Option Bool) × World :=
  runSession (.ample (.knowing [] [])) ⟨none, none, 0⟩ (.opens [97] 0 .login :: followingCalls) world

/-- A client of protocol 777. -/
def newVisitor : McClient := (mcClientCreate 777 true true).toOption.get (by decide)

/-- The same client, after a session in which it was put at `x = 1`. -/
def oldVisitor : McClient := (World.welcoming newVisitor 0).visited.2.client

/-- Moved on by one, the old client confirms `x = 2` and the new one `x = 1`. -/
theorem sessions_independent_relative :
    oldVisitor.Closed ∧
      (World.welcoming newVisitor 1).visited.2.frames ≠
        (World.welcoming oldVisitor 1).visited.2.frames := by
  refine ⟨⟨?_, ?_⟩, ?_⟩
  · decide +kernel
  · decide +kernel
  · decide +kernel

/-- Where the session begins with an absolute position there is no difference. -/
theorem sessions_independent_absolute :
    (World.welcoming newVisitor 0).visited.2.session =
      (World.welcoming oldVisitor 0).visited.2.session := by
  have created : mcClientCreate 777 true true = .ok newVisitor := eq_ok_of_toOption _
  have began : (World.welcoming newVisitor 0).Lived newVisitor := .fresh rfl
  have lived : (World.welcoming newVisitor 0).visited.2.Lived
      { newVisitor with automaticReplies := newVisitor.automaticReplies } :=
    began.runs (.ample (.knowing [] [])) ⟨none, none, 0⟩ (.opens [97] 0 .login :: followingCalls)
  have closed : (World.welcoming newVisitor 0).visited.2.client.Closed :=
    ⟨by decide +kernel, by decide +kernel⟩
  have opens : (ClientCall.opens [97] 0 .login).Opens := trivial
  have independent := sessions_independent (.ample (.knowing [] [])) ⟨none, none, 0⟩
    (buffers_ample _) created newVisitor.automaticReplies lived closed
    (show (World.welcoming newVisitor 0).client = _ from rfl) opens (by decide +kernel)
    followingCalls (by decide +kernel)
  exact independent.2

end McProtocol
