import McProtocol.Client.EchoedPosition
import McProtocol.Typed.SentPackets

/-! # Teleport answers, decoded

A client confirms the teleports of a server with packets that it could decode itself: in releases
with teleport ids the confirmation is read back, except where the id is negative. Servers send
such ids, and the client echoes them.
-/

namespace McProtocol

/-- The position in a confirmation. -/
def McTeleportConfirmPacket.absolute (confirm : McTeleportConfirmPacket) : McPlayerPosition :=
  ⟨confirm.x, confirm.y, confirm.z, confirm.yaw, confirm.pitch, false⟩

/-- The position of a release: none before 777. -/
def McTeleportConfirmPacket.Positioned (confirm : McTeleportConfirmPacket) (protocol : Int)
    (bytes : List UInt8) : Prop :=
  if 777 ≤ protocol then
    confirm.hasPosition = true ∧ confirm.absolute.IsFinite ∧ bytes = absoluteBytes confirm.absolute
  else confirm = ⟨confirm.teleportId, 0, 0, 0, 0, 0, false⟩ ∧ bytes = []

theorem accepts_confirmedPosition (protocol teleportId : Int) :
    Accepts .strict
      (do
        let x ← mcReaderDouble
        let y ← mcReaderDouble
        let z ← mcReaderDouble
        let yaw ← mcReaderFloat
        let pitch ← mcReaderFloat
        typedRequire (x.isFinite = true ∧ y.isFinite = true ∧ z.isFinite = true
          ∧ yaw.isFinite = true ∧ pitch.isFinite = true)
        pure ⟨teleportId, x, y, z, yaw, pitch, true⟩ : DecodeM protocol McTeleportConfirmPacket).run
      fun confirm bytes => confirm.teleportId = teleportId ∧ confirm.hasPosition = true ∧
        confirm.absolute.IsFinite ∧ bytes = absoluteBytes confirm.absolute := by
  refine Accepts.congr (.bind accepts_double fun x => .bind accepts_double fun y =>
    .bind accepts_double fun z => .bind accepts_float fun yaw => .bind accepts_float fun pitch =>
      .guarded accepts_typedRequire (.pure _)) fun confirm bytes => ⟨?_, ?_⟩
  · rintro ⟨x, _, _, rfl, rfl, y, _, _, rfl, rfl, z, _, _, rfl, rfl, yaw, _, _, rfl, rfl, pitch,
      _, _, rfl, rfl, finite, rfl, rfl⟩
    exact ⟨rfl, rfl, finite, by simp [absoluteBytes, McTeleportConfirmPacket.absolute]⟩
  · rintro ⟨rfl, positioned, finite, rfl⟩
    refine ⟨confirm.x, _, _, rfl, rfl, confirm.y, _, _, rfl, rfl, confirm.z, _, _, rfl, rfl,
      confirm.yaw, _, _, rfl, rfl, confirm.pitch, _, [], (List.append_nil _).symm, rfl, finite, ?_,
      rfl⟩
    rw [← positioned]

theorem accepts_teleportConfirm (protocol : Int) :
    Accepts .strict (typedDecodeTeleportConfirm protocol).run fun confirm bytes =>
      0 ≤ confirm.teleportId ∧ ∃ code position, bytes = code ++ position ∧
        IsVarint .strict confirm.teleportId code ∧ confirm.Positioned protocol position := by
  have whole : Accepts .strict (typedDecodeTeleportConfirm protocol).run fun confirm bytes =>
      ∃ teleportId code position, bytes = code ++ position ∧ IsVarint .strict teleportId code ∧
        0 ≤ teleportId ∧ confirm.teleportId = teleportId ∧ confirm.Positioned protocol position := by
    refine .bind accepts_varint fun teleportId => .guarded accepts_typedRequire ?_
    dsimp only
    unfold McTeleportConfirmPacket.Positioned
    by_cases positioned : 777 ≤ protocol
    · simp only [if_pos positioned]
      exact accepts_confirmedPosition protocol teleportId
    · simp only [if_neg positioned]
      refine Accepts.congr (.pure _) fun confirm bytes => ⟨?_, ?_⟩
      · rintro ⟨rfl, rfl⟩
        exact ⟨rfl, rfl, rfl⟩
      · rintro ⟨rfl, same, rfl⟩
        exact ⟨same, rfl⟩
  refine whole.congr fun confirm bytes => ⟨?_, ?_⟩
  · rintro ⟨_, code, position, rfl, isVarint, natural, rfl, positioned⟩
    exact ⟨natural, code, position, rfl, isVarint, positioned⟩
  · rintro ⟨natural, code, position, rfl, isVarint, positioned⟩
    exact ⟨_, code, position, rfl, isVarint, natural, rfl, positioned⟩

/-- What is confirmed decodes to the same id and position exactly when the id is natural and all
of the position is finite. -/
theorem confirmation_reads_back {library : PacketLibrary} {arguments : McDecodeArguments}
    {error : Option McError} {teleportId : Int} {absolute : McPlayerPosition}
    (typed : Typed library arguments.protocol "teleport_confirm") (int : IsInt32 teleportId)
    (receives : arguments.Receives library "teleport_confirm"
      (encodeVarint teleportId ++ if 777 ≤ arguments.protocol then absoluteBytes absolute else [])) :
    (∃ confirm, (mcDecodePacket library arguments error).packet = some (.teleportConfirm confirm) ∧
      confirm.teleportId = teleportId ∧
      (777 ≤ arguments.protocol → confirm.absolute = { absolute with onGround := false })) ↔
    0 ≤ teleportId ∧ (777 ≤ arguments.protocol → absolute.IsFinite) := by
  have grammar := (accepts_teleportConfirm arguments.protocol).map McTypedPacket.teleportConfirm
  constructor
  · rintro ⟨confirm, returned, rfl, same⟩
    obtain ⟨_, packet, natural, code, position, -, -, positioned⟩ :=
      (receives.packet_iff typed grammar).mp returned
    cases packet
    refine ⟨natural, fun newest => ?_⟩
    rw [McTeleportConfirmPacket.Positioned, if_pos newest, same newest] at positioned
    exact positioned.2.1
  · rintro ⟨natural, finite⟩
    by_cases newest : 777 ≤ arguments.protocol
    · refine ⟨⟨teleportId, absolute.x, absolute.y, absolute.z, absolute.yaw, absolute.pitch, true⟩,
        (receives.packet_iff typed grammar).mpr ⟨_, rfl, natural, _, _, rfl, isVarint_encode int, ?_⟩,
        rfl, fun _ => rfl⟩
      rw [McTeleportConfirmPacket.Positioned, if_pos newest, if_pos newest]
      exact ⟨rfl, finite newest, rfl⟩
    · refine ⟨⟨teleportId, 0, 0, 0, 0, 0, false⟩,
        (receives.packet_iff typed grammar).mpr ⟨_, rfl, natural, _, _, rfl, isVarint_encode int, ?_⟩,
        rfl, fun now => absurd now newest⟩
      rw [McTeleportConfirmPacket.Positioned, if_neg newest, if_neg newest]
      exact ⟨rfl, rfl⟩

section Position

variable {protocol : Int} {body rest : McReader} {decoded : McClientboundPlayerPosition}

theorem readDeltaPosition_id (run : (readDeltaPosition protocol).run body = (some decoded, rest)) :
    IsInt32 decoded.teleportId := by
  obtain ⟨teleportId, _, read, afterId⟩ := Prog.bind_eq_some (Prog.rescue_eq_some run)
  obtain ⟨_, _, _, afterX⟩ := Prog.bind_eq_some afterId
  obtain ⟨_, _, _, afterY⟩ := Prog.bind_eq_some afterX
  obtain ⟨_, _, _, afterZ⟩ := Prog.bind_eq_some afterY
  obtain ⟨_, _, _, afterDeltaX⟩ := Prog.bind_eq_some afterZ
  obtain ⟨_, _, _, afterDeltaY⟩ := Prog.bind_eq_some afterDeltaX
  obtain ⟨_, _, _, afterDeltaZ⟩ := Prog.bind_eq_some afterDeltaY
  obtain ⟨_, _, _, afterYaw⟩ := Prog.bind_eq_some afterDeltaZ
  obtain ⟨_, _, _, afterPitch⟩ := Prog.bind_eq_some afterYaw
  obtain ⟨_, _, _, afterFlags⟩ := Prog.bind_eq_some afterPitch
  obtain ⟨_, _, _, returned⟩ := Prog.bind_eq_some afterFlags
  cases returned
  exact mcReaderVarint_int32 read

theorem readLegacyPosition_id (teleports : 107 ≤ protocol)
    (run : (readLegacyPosition protocol).run body = (some decoded, rest)) :
    IsInt32 decoded.teleportId := by
  obtain ⟨_, _, _, afterPosition⟩ := Prog.bind_eq_some run
  obtain ⟨teleportId, _, read, afterTeleport⟩ := Prog.bind_eq_some afterPosition
  obtain ⟨_, _, _, returned⟩ := Prog.bind_eq_some afterTeleport
  cases returned
  rw [if_pos teleports] at read
  exact mcReaderVarint_int32 (Prog.rescue_eq_some read)

theorem decodePosition_id (supported : mcProtocolSupported protocol = true)
    (teleports : 107 ≤ protocol) (accepted : decodePosition protocol body = some decoded) :
    IsInt32 decoded.teleportId := by
  obtain ⟨rest, run, -⟩ := decodePosition_eq_some accepted
  unfold mcReaderClientboundPlayerPosition at run
  obtain ⟨_, _, _, afterSticky⟩ := Prog.bind_eq_some run
  rw [if_neg (by simp [supported])] at afterSticky
  obtain ⟨found, _, read, checked⟩ := Prog.bind_eq_some afterSticky
  beta_reduce at checked
  split_ifs at checked with finite
  · cases checked
    split_ifs at read with delta
    · exact readDeltaPosition_id read
    · exact readLegacyPosition_id teleports read
  · cases checked

end Position

/-- The id of the confirmation is the one that the catalog gives the packet. -/
theorem McProfile.Genuine.teleportConfirm {profile : McProfile} (genuine : profile.Genuine)
    (teleports : 107 ≤ profile.protocol) (others : McPacketCatalog) :
    profile.teleportConfirm =
      (packetCatalog others).mcPacketId profile.protocol .play .serverbound "teleport_confirm" := by
  have every : ∀ profile ∈ profiles, 107 ≤ profile.protocol →
      (((playServerboundCatalogs.lookup profile.protocol).getD []).findIdx?
        (· = "teleport_confirm")).map Int.ofNat = some profile.teleportConfirm := by decide +kernel
  have found := every profile genuine.mem teleports
  have map : (packetCatalog others).packetMap profile.protocol .play .serverbound =
      some ((playServerboundCatalogs.lookup profile.protocol).getD []) :=
    if_pos ⟨genuine.supported, nofun⟩
  obtain ⟨index, there, same⟩ := Option.map_eq_some_iff.mp found
  rw [McPacketCatalog.mcPacketId, map]
  simp only [there]
  exact same.symm

section Turn

variable {host : Host} {app : App} {timeoutMs : Nat} {world : World} {turn : Turn}

/-- A position that a poll accepted was decoded, and the client confirmed it first of all. -/
theorem Turned.confirms (turned : Turned host app timeoutMs world turn)
    (genuine : turn.called.client.profile.Genuine)
    (teleports : 107 ≤ turn.called.client.profile.protocol)
    (accepted : (mcClientPoll host app timeoutMs world).1 = some true) (playing : turn.Playing)
    (position : turn.received.packetId = turn.called.client.profile.playerPosition)
    (answering : turn.called.client.replies .teleport = true) :
    ∃ decoded, decodePosition turn.called.client.profile.protocol turn.received.body =
        some decoded ∧
      turn.replies.head? = some (Answer.frame turn.called.client.profile
        (.teleport decoded.teleportId (resolvePosition turn.called.client.known decoded))) := by
  have positions : turn.called.client.situation.positions = true := by
    change (turn.called.client.replies .teleport || turn.called.client.replies .playerLoaded) = true
    rw [answering, Bool.true_or]
  rcases outcome : turn.outcome with ⟨_ | _, after⟩
  · rw [turned.refused after outcome] at accepted
    cases accepted
  · have handled : turn.outcome =
        handlePlay host turn.received.packetId turn.received.body turn.called := by
      rw [turned.outcome]
      exact (Prog.bind_some rfl).trans (Prog.when_pos playing)
    have formed : ¬ turn.called.client.situation.Malformed turn.received.packetId
        turn.received.body := by
      intro malformed
      have refused := (turned.refused_of_malformed genuine ⟨playing, malformed⟩).1.fails
      rw [outcome] at refused
      cases refused
    cases decodes : decodePosition turn.called.client.profile.protocol turn.received.body with
    | none => exact absurd ⟨position, positions, decodes⟩ formed
    | some decoded =>
        refine ⟨decoded, rfl, ?_⟩
        have responded := @handlePlay_responds host turn.called.client.situation genuine
          turn.received.packetId turn.received.body formed turn.called rfl
        obtain ⟨answers, -⟩ := @answers_position decoded turn.called.client.situation
          turn.received.body genuine positions decodes
        rw [← handled, outcome, position] at responded
        change Responded turn.called (turn.called.client.situation.frames
          (turn.called.client.situation.answers turn.called.client.situation.profile.playerPosition
            turn.received.body)) _ _ at responded
        rw [answers] at responded
        cases responded with
        | sent after logged there =>
            rw [Turn.replies, outcome]
            dsimp only
            rw [logged, List.drop_left, Situation.positionAnswers_eq,
              if_neg fun old => absurd old.1 (not_lt.mpr teleports),
              if_pos ⟨not_lt.mpr teleports, answering⟩]
            rfl

end Turn

/-- A position that a poll accepts in a release with teleport ids is confirmed first of all, by a
packet that decodes to the id and the position, unless the id is negative. Of a position with
finite coordinates the angles may still have become infinite. -/
theorem teleport_answers_decodable_iff (others : McPacketCatalog) (validators : Validators)
    (layout : PacketLayout) (host : Host) (app : App) (timeoutMs : Nat) (world : World)
    (turn : Turn) (genuine : world.client.profile.Genuine)
    (teleports : 107 ≤ world.client.profile.protocol)
    (found : pollTurn host app timeoutMs world = some turn)
    (accepted : (mcClientPoll host app timeoutMs world).1 = some true) (playing : turn.Playing)
    (position : turn.received.packetId = world.client.profile.playerPosition)
    (answering : turn.called.client.replies .teleport = true) :
    let library := generatedLibrary others validators layout
    let protocol := world.client.profile.protocol
    ∃ decoded reply, decodePosition protocol turn.received.body = some decoded ∧
      turn.replies.head? = some reply ∧
      reply.packetId = library.catalog.mcPacketId protocol .play .serverbound "teleport_confirm" ∧
      ∀ (arguments : McDecodeArguments) (error : Option McError), arguments.protocol = protocol →
        arguments.Receives library "teleport_confirm" reply.payload →
        let absolute := resolvePosition turn.called.client.known decoded
        absolute.x.isFinite = true → absolute.y.isFinite = true → absolute.z.isFinite = true →
        ((∃ confirm,
            (mcDecodePacket library arguments error).packet = some (.teleportConfirm confirm) ∧
            confirm.teleportId = decoded.teleportId ∧
            (777 ≤ protocol → confirm.absolute = { absolute with onGround := false })) ↔
          0 ≤ decoded.teleportId ∧
            (777 ≤ protocol → absolute.yaw.isFinite = true ∧ absolute.pitch.isFinite = true)) := by
  intro library protocol
  have turned := pollTurn_turned found
  have kept := (pollPacket_undisturbed host app timeoutMs).moves world
  rw [turned.called] at kept
  have profile : turn.called.client.profile = world.client.profile := kept.profile
  obtain ⟨decoded, decodes, first⟩ := turned.confirms (profile ▸ genuine) (profile ▸ teleports)
    accepted playing (profile ▸ position) answering
  rw [profile] at decodes first
  refine ⟨decoded, _, decodes, first, genuine.teleportConfirm teleports others, ?_⟩
  rintro arguments error same receives absolute finiteX finiteY finiteZ
  have typed : Typed library arguments.protocol "teleport_confirm" := by
    rw [same]
    exact ⟨genuine.supported, packetCatalog_teleportConfirm genuine.supported teleports, by decide⟩
  have int := decodePosition_id genuine.supported teleports decodes
  have reads := @confirmation_reads_back library arguments error decoded.teleportId absolute typed
    int (by rw [same]; exact receives)
  rw [same] at reads
  rw [reads]
  refine and_congr_right fun _ => forall_congr' fun _ => ⟨fun finite => finite.2.2.2, ?_⟩
  exact fun finite => ⟨finiteX, finiteY, finiteZ, finite⟩

/-- A client of protocol 770 whose server teleports it, under the id in `code`, to the origin. -/
def World.teleporting (code : List UInt8) : World :=
  World.playing ((mcClientCreate 770 true true).toOption.get (by decide))
    ([UInt8.ofNat (61 + code.length), 65] ++ code ++ List.replicate 60 0)

/-- What that client makes of the packet. -/
def World.teleported (world : World) : Option Turn :=
  pollTurn (.ample (.knowing [] [])) ⟨none, none, 0⟩ 50 world

/-- The library that the answers are decoded with. -/
def answerLibrary : PacketLibrary :=
  generatedLibrary ⟨fun _ _ _ => []⟩ (plainLibrary [] 64 (by decide)).validators
    (plainLibrary [] 64 (by decide)).layout

/-- What an answer on protocol 770 decodes to. -/
def SentFrame.decodesTo (reply : SentFrame) : Option McTypedPacket :=
  (mcDecodePacket answerLibrary (playArguments 770 0 reply.packetId 1 reply.payload 64) none).packet

/-- The id -1 is accepted and echoed, and the echo is not decoded. -/
theorem teleport_answers_decodable_negative :
    let world := World.teleporting [255, 255, 255, 255, 15]
    (mcClientPoll (.ample (.knowing [] [])) ⟨none, none, 0⟩ 50 world).1 = some true ∧
      (world.teleported.map fun turn => turn.replies.map fun reply =>
        (reply.packetId, reply.payload, reply.decodesTo)) =
        some [(0, [255, 255, 255, 255, 15], none), (42, [], none)] := by
  decide +kernel

/-- The id 7 is read back. -/
theorem teleport_answers_decodable_seven :
    ∃ turn reply confirm, (World.teleporting [7]).teleported = some turn ∧
      turn.replies.head? = some reply ∧ reply.decodesTo = some (.teleportConfirm confirm) ∧
      confirm.teleportId = 7 := by
  obtain ⟨turn, found⟩ := Option.isSome_iff_exists.mp
    (show (World.teleporting [7]).teleported.isSome = true by decide +kernel)
  have facts : ∀ turn ∈ (World.teleporting [7]).teleported, turn.Playing ∧
      turn.received.packetId = (World.teleporting [7]).client.profile.playerPosition ∧
      turn.called.client.replies .teleport = true ∧
      (∀ decoded ∈ decodePosition 770 turn.received.body, decoded.teleportId = 7 ∧
        (resolvePosition turn.called.client.known decoded).IsFinite) := by decide +kernel
  obtain ⟨playing, position, answering, decodes⟩ := facts turn found
  obtain ⟨decoded, reply, accepted, first, id, answers⟩ :=
    teleport_answers_decodable_iff ⟨fun _ _ _ => []⟩ (plainLibrary [] 64 (by decide)).validators
      (plainLibrary [] 64 (by decide)).layout (.ample (.knowing [] [])) ⟨none, none, 0⟩ 50
      (World.teleporting [7]) turn rfl (by decide) found (by decide +kernel) playing position
      answering
  obtain ⟨seven, finite⟩ := decodes decoded accepted
  have back := answers (playArguments 770 0 reply.packetId 1 reply.payload 64) none rfl
    (id ▸ playArguments_receives _ 770 "teleport_confirm" reply.payload (Nat.le_refl 64))
    finite.1 finite.2.1 finite.2.2.1
  obtain ⟨confirm, read, same, -⟩ := back.mpr ⟨by rw [seven]; decide, fun _ => finite.2.2.2⟩
  exact ⟨turn, reply, confirm, found, first, read, same.trans seven⟩

end McProtocol
