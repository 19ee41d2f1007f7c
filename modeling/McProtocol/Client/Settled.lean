import McProtocol.Client.Runs

/-! # How a connect ends

A connect that succeeds leaves the client in PLAY with a socket as long as the application is
careful at two places: where it is told of PLAY, and, on releases without CONFIGURATION, where it is
told of the packets that the login passes over or ends with.
-/

namespace McProtocol

/-- What an application allows itself to call when its state callback is told of PLAY, and when its
packet callback is told of a packet of the login that neither refuses it nor sets the compression. -/
structure CallPolicy where
  inPlay : AppCall → Prop
  inLogin : AppCall → Prop

/-- All calls of the program are allowed, whatever they return. -/
def AppProgram.Within (allowed : AppCall → Prop) : AppProgram → Prop
  | .done => True
  | .call request next => allowed request ∧ ∀ succeeded, (next succeeded).Within allowed

structure App.KeepsTo (policy : CallPolicy) (app : App) : Prop where
  inPlay : ∀ callback ∈ app.onState, ∀ events previous,
    (callback (events ++ [.state previous .play])).Within policy.inPlay
  inLogin : ∀ callback ∈ app.onPacket, ∀ events packetId payload, packetId ∉ [0x00, 0x01, 0x03] →
    (callback (events ++ [.packet .login packetId payload])).Within policy.inLogin

/-- The calls that close a client, or that take it into a state other than PLAY. -/
def AppCall.Leaves : AppCall → Prop
  | .disconnect => True
  | .setState state => state ≠ .play ∧ state ≠ .disconnected
  | _ => False

/-- Programs that keep the socket and the state. -/
def standing : Discipline World :=
  .moving (fun before after => after.client.socketFd = before.client.socketFd ∧
      after.client.state = before.client.state)
    (fun _ => ⟨rfl, rfl⟩) fun _ _ _ left right =>
      ⟨right.1.trans left.1, right.2.trans left.2⟩

section Standing

variable {host : Host}

theorem standing_of_sending {α : Type} {program : ClientM α} (lawful : sending.Lawful program) :
    standing.Lawful program := by
  apply Discipline.Lawful.of_steps
  intro world
  have same := (lawful.moves world).client
  exact ⟨by rw [same], by rw [same]⟩

theorem standing_frames (host : Host) : CoversFrames host standing where
  remembers lawful := standing_of_sending (sending_of_memoryOnly lawful)
  feeds data := by
    apply Discipline.Lawful.of_steps
    intro world
    obtain ⟨error, same⟩ := feedOne_after host data world
    rw [same]
    exact ⟨rfl, rfl⟩
  receives capacity := by
    apply Discipline.Lawful.of_steps
    intro world
    obtain ⟨arrivals, waits, received, error, decrypted, same, -⟩ := receiveSome_after capacity world
    rw [same]
    exact ⟨rfl, rfl⟩

theorem standing_readFrame (host : Host) : standing.Lawful (readFrame host) :=
  .of_steps fun world => ((standing_frames host).readFrameLoop_lawful _).moves world

theorem standing_setCompression (threshold : Int) :
    standing.Lawful (mcClientSetCompression threshold) := by
  apply Discipline.Lawful.of_steps
  intro world
  unfold mcClientSetCompression
  split_ifs with closed low
  · exact ⟨rfl, rfl⟩
  · exact ⟨rfl, rfl⟩
  · rcases mcStreamDecoderSetCompression world.client.streamDecoder threshold with
      ⟨_ | error, decoder⟩
    · exact ⟨rfl, rfl⟩
    · exact ⟨rfl, rfl⟩

/-- What is not a change of state leaves the client where it is. -/
theorem performAppCall_standing {change : McState → ClientM Unit} {request : AppCall}
    (stays : request ≠ .disconnect) (keeps : ∀ state, request ≠ .setState state) :
    standing.Lawful (performAppCall host change request) := by
  cases request with
  | disconnect => exact absurd rfl stays
  | setState state => exact absurd rfl (keeps state)
  | setCompression threshold => exact standing_setCompression threshold
  | setReadTimeout timeoutMs =>
      exact .bind (standing_of_sending (refuseIf_sending _ _)) fun _ =>
        .of_steps fun _ => ⟨rfl, rfl⟩
  | setStreamTransforms transforms =>
      refine .bind (standing_of_sending (observe_sending _)) fun _ =>
        .bind (standing_of_sending (refuseIf_sending _ _)) fun _ => ?_
      cases transforms with
      | null => exact .of_steps fun _ => ⟨rfl, rfl⟩
      | incomplete => exact .of_steps fun _ => ⟨rfl, rfl⟩
      | given transforms => exact .of_steps fun _ => ⟨rfl, rfl⟩
  | send packetId payload => exact standing_of_sending (mcClientSend_sending host packetId payload)
  | sendNamed packetName payload =>
      exact standing_of_sending (mcClientSendNamed_sending host packetName payload)
  | sendBatch batch => exact standing_of_sending (mcClientSendBatch_sending host batch)
  | sendPlayerPosition position =>
      exact .bind (standing_of_sending (observe_sending _)) fun _ =>
        .bind (standing_of_sending (refuseIf_sending _ _)) fun _ =>
          .bind (standing_of_sending (refuseIf_sending _ _)) fun _ =>
            .bind (standing_of_sending (mcClientSendNamed_sending host _ _)) fun _ =>
              .of_steps fun _ => ⟨rfl, rfl⟩

end Standing

section Careful

variable {host : Host} {app : App} {policy : CallPolicy} {change : McState → ClientM Unit}

/-- A call that leaves neither the connection nor PLAY either keeps both, or asks for PLAY. -/
theorem performAppCall_stays {request : AppCall} (stays : ¬ request.Leaves) (world : World) :
    performAppCall host change request world = change .play world ∨
      (performAppCall host change request world).2.client.socketFd = world.client.socketFd ∧
        (performAppCall host change request world).2.client.state = world.client.state := by
  by_cases sets : ∃ state, request = .setState state
  · obtain ⟨state, rfl⟩ := sets
    obtain ⟨message, refused⟩ | ⟨connected, accepted⟩ := setStateWith_cases change state world
    · right
      change (setStateWith change state world).2.client.socketFd = _ ∧
        (setStateWith change state world).2.client.state = _
      rw [refused]
      exact ⟨rfl, rfl⟩
    · by_cases invalid : state = .disconnected
      · right
        subst invalid
        have refused : setStateWith change .disconnected world =
            setError "Stato protocollo non valido" world :=
          (Prog.bind_some rfl).trans ((Prog.bind_some (refuseIf_neg (not_lt.mpr connected))).trans
            (Prog.bind_none (refuseIf_pos rfl)))
        change (setStateWith change .disconnected world).2.client.socketFd = _ ∧
          (setStateWith change .disconnected world).2.client.state = _
        rw [refused]
        exact ⟨rfl, rfl⟩
      · left
        have play : state = .play := by
          by_contra other
          exact stays ⟨other, invalid⟩
        rw [← play]
        exact accepted
  · right
    refine (performAppCall_standing ?_ fun state same => sets ⟨state, same⟩).moves world
    rintro rfl
    exact stays trivial

/-- What every allowed call keeps, a program of such calls keeps. -/
theorem runProgram_keeps (kept : World → Prop) {allowed : AppCall → Prop}
    (told : ∀ world event, kept world → kept { world with events := world.events ++ [event] })
    (calls : ∀ request, allowed request → ∀ world, kept world →
      kept (performAppCall host change request world).2)
    {program : AppProgram} (within : program.Within allowed) {world : World} (start : kept world) :
    kept (runProgram host change program world).2 := by
  induction program generalizing world with
  | done => exact start
  | call request next ih =>
      obtain ⟨permitted, further⟩ := within
      exact ih _ (further _) (told _ _ (calls request permitted world start))

/-- In PLAY, with the same socket. -/
def World.PlaysOn (socketFd : Int) (world : World) : Prop :=
  world.client.socketFd = socketFd ∧ world.client.state = .play

/-- Entering PLAY, told to an application that does not leave it. -/
theorem changeStateAt_play (keeps : app.KeepsTo policy)
    (stays : ∀ request, policy.inPlay request → ¬ request.Leaves) (depth : Nat) (world : World) :
    (changeStateAt host app depth .play world).2.PlaysOn world.client.socketFd := by
  by_cases same : world.client.state = .play
  · rw [changeStateAt_same host app same]
    exact ⟨rfl, same⟩
  · rw [changeStateAt_other host app same, afterChange]
    cases called : app.onState with
    | none => exact ⟨rfl, rfl⟩
    | some callback =>
        cases depth with
        | zero => exact ⟨rfl, rfl⟩
        | succ depth =>
            refine runProgram_keeps (World.PlaysOn world.client.socketFd)
              (fun _ _ kept => kept) (fun request allowed world kept => ?_)
              (keeps.inPlay callback called world.events world.client.state) ⟨rfl, rfl⟩
            obtain entered | ⟨socket, state⟩ := performAppCall_stays (stays request allowed) world
            · rw [entered, changeStateAt_same host app kept.2]
              exact kept
            · exact ⟨socket.trans kept.1, state.trans kept.2⟩

/-- A packet of the login, told to an application that does not leave. -/
theorem emitPacket_connected (keeps : app.KeepsTo policy)
    (stays : ∀ request, policy.inPlay request → ¬ request.Leaves)
    (careful : ∀ request, policy.inLogin request → ¬ request.Leaves) {packetId : Int}
    (passed : packetId ∉ [0x00, 0x01, 0x03]) (payload : List UInt8) (world : World) :
    (emitPacket host app .login packetId payload world).2.client.socketFd =
      world.client.socketFd := by
  unfold emitPacket
  cases called : app.onPacket with
  | none => rfl
  | some callback =>
      refine runProgram_keeps (fun after => after.client.socketFd = world.client.socketFd)
        (fun _ _ kept => kept) (fun request allowed reached kept => ?_)
        (keeps.inLogin callback called world.events packetId payload passed) rfl
      obtain entered | ⟨socket, -⟩ := performAppCall_stays (careful request allowed) reached
      · rw [entered]
        exact (changeStateAt_play keeps stays app.nesting reached).1.trans kept
      · exact socket.trans kept

theorem mcClientSetCompression_connected {threshold : Int} {world after : World} {u : Unit}
    (run : mcClientSetCompression threshold world = (some u, after)) :
    0 ≤ after.client.socketFd := by
  have kept := ((standing_setCompression threshold).moves world).1
  rw [run] at kept
  by_cases closed : world.client.socketFd < 0
  · have refused : mcClientSetCompression threshold world = setError "Client non connesso" world :=
      if_pos closed
    rw [refused] at run
    cases run
  · rw [kept]
    exact not_lt.mp closed

/-- A login that succeeds ends with a socket if no packet was answered with a disconnect
unnoticed. The answer to a compression packet is noticed where the threshold is set. -/
theorem loginLoop_connected (keeps : app.KeepsTo policy)
    (stays : ∀ request, policy.inPlay request → ¬ request.Leaves)
    (careful : ∀ request, policy.inLogin request → ¬ request.Leaves) {left : Nat}
    {world after : World} {u : Unit} (connected : 0 ≤ world.client.socketFd)
    (run : loginLoop host app left world = (some u, after)) : 0 ≤ after.client.socketFd := by
  induction left generalizing world with
  | zero => cases run
  | succ left ih =>
      obtain ⟨⟨packetId, body⟩, told, read, rest⟩ := Prog.bind_eq_some run
      obtain ⟨frame, received, framed, parsed⟩ := Prog.bind_eq_some read
      have kept := ((standing_readFrame host).moves world).1
      rw [framed] at kept
      dsimp only at rest kept
      by_cases decisive : packetId = 0x00 ∨ packetId = 0x01
      · obtain rfl | rfl := decisive
        · cases rest
        · cases rest
      · obtain ⟨refused, encrypted⟩ := not_or.mp decisive
        rw [if_neg refused, if_neg encrypted] at rest
        by_cases compresses : packetId = 0x03
        · rw [if_pos compresses] at rest
          rcases announced : (mcReaderVarint.run body).1 with _ | threshold
          · rw [announced] at rest
            cases rest
          · rw [announced] at rest
            obtain ⟨_, _, _, switched⟩ := Prog.bind_eq_some rest
            obtain ⟨_, compressed, set, further⟩ := Prog.bind_eq_some switched
            exact ih (mcClientSetCompression_connected set) further
        · have passed : packetId ∉ [0x00, 0x01, 0x03] := by
            simp [refused, encrypted, compresses]
          have heard : 0 ≤ told.client.socketFd := by
            rcases parse : mcReaderVarint.run (mcReaderInit frame) with ⟨_ | id, content⟩
            · rw [parse] at parsed
              cases parsed
            · rw [parse] at parsed
              obtain ⟨_, _, emitted, returned⟩ := Prog.bind_eq_some parsed
              cases returned
              have socket := @emitPacket_connected host app policy keeps stays careful _ passed
                (body.data.drop body.offset) received
              rw [emitted, kept] at socket
              exact socket ▸ connected
          rw [if_neg compresses] at rest
          by_cases success : packetId = 0x02
          · rw [if_pos success] at rest
            cases rest
            exact heard
          · rw [if_neg success] at rest
            exact ih heard rest

theorem mcClientOpen_profile {address : List UInt8} {port : UInt16} {next : McState}
    {world after : World} {u : Unit}
    (run : mcClientOpen host app address port next world = (some u, after)) :
    after.client.profile = world.client.profile := by
  have kept := (((ofOneMake_runs host).mcClientOpen_lawful app address port next).moves world).profile
  rwa [run] at kept

/-- A connect that gets to its change of state to PLAY has a socket there. -/
theorem logIn_connected (keeps : app.KeepsTo policy)
    (stays : ∀ request, policy.inPlay request → ¬ request.Leaves) {world after : World}
    (careful : .configuration ∈ world.client.profile.flags ∨
      ∀ request, policy.inLogin request → ¬ request.Leaves)
    {username : List UInt8} {profileId : McUuid} {requested : Option McClientInformation} {u : Unit}
    (run : logIn host app username profileId requested world = (some u, after)) :
    0 ≤ after.client.socketFd := by
  obtain ⟨client, seen, observed, greeting⟩ := Prog.bind_eq_some run
  cases observed
  obtain ⟨_, greeted, sent, login⟩ := Prog.bind_eq_some greeting
  obtain ⟨_, loggedIn, looped, configures⟩ := Prog.bind_eq_some login
  by_cases configuration : .configuration ∈ world.client.profile.flags
  · rw [Prog.when_pos configuration] at configures
    exact configurationExchange_connected configures
  · rw [Prog.when_neg configuration] at configures
    cases configures
    obtain ⟨_, _, _, framed⟩ := Prog.bind_eq_some sent
    exact loginLoop_connected keeps stays (careful.resolve_left configuration)
      (sendFrame_connected framed) looped

theorem reachPlay_connected (keeps : app.KeepsTo policy)
    (stays : ∀ request, policy.inPlay request → ¬ request.Leaves) {world after : World}
    (careful : .configuration ∈ world.client.profile.flags ∨
      ∀ request, policy.inLogin request → ¬ request.Leaves)
    {address : List UInt8} {port : UInt16} {username : List UInt8} {profileId : Option McUuid}
    {requested : Option McClientInformation} {u : Unit}
    (run : reachPlay host app address port username profileId requested world = (some u, after)) :
    0 ≤ after.client.socketFd := by
  obtain ⟨_, start, checked, reached⟩ := Prog.bind_eq_some run
  obtain ⟨-, same⟩ := refuseIf_eq_some checked
  subst same
  cases profileId with
  | none => cases reached
  | some profileId =>
      obtain ⟨_, opened, opening, login⟩ := Prog.bind_eq_some reached
      rw [← mcClientOpen_profile opening] at careful
      exact logIn_connected keeps stays careful (orDisconnect_eq_some host app login)

theorem ConnectCall.reach_connected (keeps : app.KeepsTo policy)
    (stays : ∀ request, policy.inPlay request → ¬ request.Leaves) {world after : World}
    (careful : .configuration ∈ world.client.profile.flags ∨
      ∀ request, policy.inLogin request → ¬ request.Leaves) (call : ConnectCall) {u : Unit}
    (run : call.reach host app world = (some u, after)) : 0 ≤ after.client.socketFd := by
  cases call with
  | connectProfile address port username profileId requested =>
      exact reachPlay_connected keeps stays careful run
  | connect address port username =>
      obtain ⟨_, start, checked, reached⟩ := Prog.bind_eq_some run
      obtain ⟨-, same⟩ := refuseIf_eq_some checked
      subst same
      exact reachPlay_connected keeps stays careful reached

end Careful

/-- An application that makes this call when it is told of PLAY. -/
def leavingPlay (request : AppCall) : App where
  onState := some fun events => match events.getLast? with
    | some (.state _ .play) => .call request fun _ => .done
    | _ => .done
  onPacket := none
  nesting := 1

/-- An application that makes this call on every packet; where it is a change of state, to a state
that it takes care not to be in, and it disconnects when it is told of that state. -/
def leavingLogin (request : AppCall) : App where
  onState := some fun events => match request, events.getLast? with
    | .setState aim, some (.state previous next) =>
        if next = .play then .done
        else if previous = .disconnected then
          .call (.setState (if aim = .status then .configuration else .status)) fun _ => .done
        else if next = aim then .call .disconnect fun _ => .done
        else .done
    | _, _ => .done
  onPacket := some fun _ => .call request fun _ => .done
  nesting := 1

/-- The calls that leave. -/
def leavingCalls : List AppCall :=
  [.disconnect, .setState .login, .setState .configuration, .setState .status]

theorem AppCall.Leaves.mem {request : AppCall} (leaves : request.Leaves) :
    request ∈ leavingCalls := by
  cases request with
  | disconnect => simp [leavingCalls]
  | setState state =>
      cases state with
      | disconnected => exact absurd rfl leaves.2
      | login => simp [leavingCalls]
      | configuration => simp [leavingCalls]
      | play => exact absurd rfl leaves.1
      | status => simp [leavingCalls]
  | _ => cases leaves

/-- A new client of a release. -/
def McProfile.client (profile : McProfile) : McClient :=
  { (mcClientCreate 47 true true).toOption.get (by decide) with profile := profile }

/-- A server that accepts the login, and ends the configuration if there is one. -/
def McProfile.welcome (profile : McProfile) : World :=
  World.serving profile.client ([1, 2] ++
    if .configuration ∈ profile.flags then [1, (finishId profile.protocol).toNat.toUInt8] else [])

/-- A connect of a user `a` to a host `a`. -/
def plainConnect : ConnectCall :=
  .connectProfile [97] 0 [97] (some .zero) none

theorem leavingPlay_unsettled : ∀ profile ∈ profiles, ∀ request ∈ leavingCalls,
    ¬ Settled (plainConnect.perform (.ample (.knowing [] [])) (leavingPlay request)
      profile.welcome) := by
  decide +kernel

theorem leavingLogin_unsettled : ∀ profile ∈ profiles, .configuration ∉ profile.flags →
    ∀ request ∈ leavingCalls,
      ¬ Settled (plainConnect.perform (.ample (.knowing [] [])) (leavingLogin request)
        profile.welcome) := by
  decide +kernel

theorem leavingPlay_keepsTo {policy : CallPolicy} {request : AppCall}
    (allowed : policy.inPlay request) : (leavingPlay request).KeepsTo policy where
  inPlay := by
    rintro callback called events previous
    cases called
    simp only [List.getLast?_append, List.getLast?_singleton, Option.some_or]
    exact ⟨allowed, fun _ => trivial⟩
  inLogin := by
    rintro callback called
    cases called

theorem leavingLogin_keepsTo {policy : CallPolicy} {request : AppCall}
    (allowed : policy.inLogin request) : (leavingLogin request).KeepsTo policy where
  inPlay := by
    rintro callback called events previous
    cases called
    simp only [List.getLast?_append, List.getLast?_singleton, Option.some_or]
    cases request with
    | setState state =>
        simp only [if_true]
        trivial
    | _ => trivial
  inLogin := by
    rintro callback called events packetId payload -
    cases called
    exact ⟨allowed, fun _ => trivial⟩

/-- On a known release, every connect of every application that keeps to a policy settles exactly
where the policy has it make no call that leaves: not where it is told of PLAY, and, unless the
release has CONFIGURATION, not where it is told of a packet of the login. -/
theorem connect_settles_iff {profile : McProfile} (known : profile ∈ profiles)
    (policy : CallPolicy) :
    (∀ (host : Host) (app : App) (call : ConnectCall) (world : World), app.KeepsTo policy →
        world.client.Closed → world.client.profile = profile →
        Settled (call.perform host app world)) ↔
      (∀ request, policy.inPlay request → ¬ request.Leaves) ∧
        (.configuration ∈ profile.flags ∨ ∀ request, policy.inLogin request → ¬ request.Leaves) := by
  constructor
  · intro settles
    refine ⟨fun request allowed leaves => ?_, ?_⟩
    · exact leavingPlay_unsettled profile known request leaves.mem
        (settles _ _ _ _ (leavingPlay_keepsTo allowed) ⟨rfl, rfl⟩ rfl)
    · by_cases configuration : .configuration ∈ profile.flags
      · exact .inl configuration
      · right
        intro request allowed leaves
        exact leavingLogin_unsettled profile known configuration request leaves.mem
          (settles _ _ _ _ (leavingLogin_keepsTo allowed) ⟨rfl, rfl⟩ rfl)
  · rintro ⟨stays, careful⟩ host app call world keeps closed same
    rw [settled_iff_reach host app call world closed]
    intro before reached
    rw [← same] at careful
    have played := @changeStateAt_play host app policy keeps stays app.nesting before
    exact ⟨call.reach_connected keeps stays careful reached, played.2, played.1⟩

/-- An application that disconnects on the first packet it gets. -/
def hangingUp : App where
  onState := none
  onPacket := some fun _ => .call .disconnect fun _ => .done
  nesting := 0

/-- A login success on a release without CONFIGURATION, told to an application that
disconnects on it: `0` is returned, and the client is in PLAY without a socket. -/
theorem connect_settles_hangingUp :
    let client := (mcClientCreate 47 true true).toOption.get (by decide)
    client.Closed ∧ ¬ Settled (ConnectCall.perform (.ample (.knowing [] [])) hangingUp
      (.connect [97] 0 [97]) (World.serving client [1, 2])) := by
  refine ⟨⟨rfl, rfl⟩, ?_⟩
  decide +kernel

/-- The same server, and an application that is told of everything and sends something on each
packet. -/
theorem connect_settles_iff_talking :
    let app : App := ⟨some fun _ => .done, some fun _ => .call (.send 5 (.bytes [1])) fun _ => .done, 1⟩
    let client := (mcClientCreate 47 true true).toOption.get (by decide)
    Settled (ConnectCall.perform (.ample (.knowing [] [])) app (.connect [97] 0 [97])
      (World.serving client [1, 2])) := by
  intro app client
  have polite : (∀ request : AppCall, ¬ request.Leaves → ¬ request.Leaves) ∧
      (.configuration ∈ client.profile.flags ∨
        ∀ request : AppCall, ¬ request.Leaves → ¬ request.Leaves) :=
    ⟨fun _ stays => stays, .inr fun _ stays => stays⟩
  have known : client.profile ∈ profiles := by decide +kernel
  have keeps : app.KeepsTo ⟨fun request => ¬ request.Leaves, fun request => ¬ request.Leaves⟩ := by
    refine ⟨?_, ?_⟩
    · rintro callback called events previous
      cases called
      trivial
    · rintro callback called events packetId payload -
      cases called
      exact ⟨id, fun _ => trivial⟩
  exact (connect_settles_iff known _).mpr polite _ app _ _ keeps ⟨rfl, rfl⟩ rfl

end McProtocol
