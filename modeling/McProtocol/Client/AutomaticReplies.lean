import McProtocol.Client.Play

/-! # Automatic replies

What the answers of a client depend on is its situation; a packet is answered with the
frames the situation says, and moves it. A run of a connection answers packet by packet.
-/

namespace McProtocol

/-- What the answers of a client depend on. -/
structure Situation where
  profile : McProfile
  automaticReplies : Nat
  loaded : Bool
  known : Option McPlayerPosition
  deriving DecidableEq

def McClient.situation (client : McClient) : Situation :=
  ⟨client.profile, client.automaticReplies, client.playerLoadedSent, client.known⟩

inductive Answer where
  | keepAlive (payload : List UInt8)
  | movement (position : McPlayerPosition)
  | teleport (teleportId : Int) (absolute : McPlayerPosition)
  | playerLoaded
  | chunkBatch
  deriving Repr, DecidableEq

/-- The position in a teleport confirmation. -/
def absoluteBytes (absolute : McPlayerPosition) : List UInt8 :=
  BigEndian.bytes 8 absolute.x.bits.toNat ++ (BigEndian.bytes 8 absolute.y.bits.toNat ++
    (BigEndian.bytes 8 absolute.z.bits.toNat ++ (BigEndian.bytes 4 absolute.yaw.bits.toNat ++
      BigEndian.bytes 4 absolute.pitch.bits.toNat)))

/-- An answer as it is sent in a release. -/
def Answer.frame (profile : McProfile) : Answer → SentFrame
  | .keepAlive payload => ⟨profile.keepAliveResponse, payload, true⟩
  | .movement position =>
      ⟨movementPacket profile.protocol,
        positionBytes profile.protocol { position with onGround := true }, true⟩
  | .teleport teleportId absolute =>
      ⟨profile.teleportConfirm,
        encodeVarint teleportId ++ if 777 ≤ profile.protocol then absoluteBytes absolute else [],
        true⟩
  | .playerLoaded => ⟨playerLoadedPacket profile.protocol, [], true⟩
  | .chunkBatch =>
      ⟨batchResponsePacket profile.protocol, BigEndian.bytes 4 chunksPerTick.bits.toNat, true⟩

/-- A Player Position body with nothing behind it. -/
def decodePosition (protocol : Int) (body : McReader) : Option McClientboundPlayerPosition :=
  match (mcReaderClientboundPlayerPosition protocol).run body with
  | (some decoded, rest) => if mcReaderRemaining rest = 0 then some decoded else none
  | (none, _) => none

namespace Situation

def replies (situation : Situation) (reply : AutomaticReply) : Bool :=
  situation.automaticReplies.testBit reply.bit

/-- Positions are decoded for the sake of two answers. -/
def positions (situation : Situation) : Bool :=
  situation.replies .teleport || situation.replies .playerLoaded

/-- The answer that the player is there is still to be given. -/
def announces (situation : Situation) : Prop :=
  situation.replies .playerLoaded = true ∧ 0 ≤ playerLoadedPacket situation.profile.protocol ∧
    situation.loaded = false

instance (situation : Situation) : Decidable situation.announces :=
  inferInstanceAs (Decidable (_ ∧ _))

/-- The answers to an accepted position: it is confirmed, and once the player is there. -/
def positionAnswers (situation : Situation) (decoded : McClientboundPlayerPosition) :
    List Answer :=
  (if situation.replies .teleport then
    if situation.profile.protocol < 107 then [.movement decoded.position]
    else [.teleport decoded.teleportId (resolvePosition situation.known decoded)]
  else []) ++
  if situation.announces then [.playerLoaded] else []

/-- The answers to a packet. -/
def answers (situation : Situation) (packetId : Int) (body : McReader) : List Answer :=
  if packetId = situation.profile.keepAlive then
    if situation.replies .keepAlive then [.keepAlive (body.data.drop body.offset)] else []
  else if packetId = situation.profile.playerPosition then
    if situation.positions then
      ((decodePosition situation.profile.protocol body).map situation.positionAnswers).getD []
    else []
  else if packetId = batchFinishedPacket situation.profile.protocol then
    if situation.replies .chunkBatch then [.chunkBatch] else []
  else []

/-- A position that is to be decoded and cannot be. -/
def Malformed (situation : Situation) (packetId : Int) (body : McReader) : Prop :=
  packetId = situation.profile.playerPosition ∧ situation.positions = true ∧
    decodePosition situation.profile.protocol body = none

/-- The situation behind a packet. -/
def next (situation : Situation) (packetId : Int) (body : McReader) : Situation :=
  if packetId = situation.profile.playerPosition ∧ situation.positions = true then
    match decodePosition situation.profile.protocol body with
    | none => situation
    | some decoded =>
        { situation with
          known := some (resolvePosition situation.known decoded)
          loaded := situation.loaded || decide situation.announces }
  else situation

/-- The packets a release answers are different packets. -/
structure Distinct (profile : McProfile) : Prop where
  keepAlive_position : profile.keepAlive ≠ profile.playerPosition
  keepAlive_batch : profile.keepAlive ≠ batchFinishedPacket profile.protocol
  position_batch : profile.playerPosition ≠ batchFinishedPacket profile.protocol

end Situation

/-- A profile of the table, as every client has. -/
def McProfile.Genuine (profile : McProfile) : Prop := findProfile profile.protocol = some profile

theorem McProfile.Genuine.mem {profile : McProfile} (genuine : profile.Genuine) :
    profile ∈ profiles := List.mem_of_find?_eq_some genuine

theorem McProfile.Genuine.supported {profile : McProfile} (genuine : profile.Genuine) :
    mcProtocolSupported profile.protocol = true := by
  rw [mcProtocolSupported, genuine]
  rfl

theorem McProfile.Genuine.features {profile : McProfile} (genuine : profile.Genuine) :
    mcProtocolFeatures profile.protocol = profile.flags := by
  rw [mcProtocolFeatures, genuine]

theorem McProfile.Genuine.distinct {profile : McProfile} (genuine : profile.Genuine) :
    Situation.Distinct profile := by
  have distinct : ∀ profile ∈ profiles, profile.keepAlive ≠ profile.playerPosition ∧
      profile.keepAlive ≠ batchFinishedPacket profile.protocol ∧
      profile.playerPosition ≠ batchFinishedPacket profile.protocol := by decide
  obtain ⟨first, second, third⟩ := distinct profile genuine.mem
  exact ⟨first, second, third⟩

/-- Positions have a velocity delta only in releases with teleport ids. -/
theorem McProfile.Genuine.delta {profile : McProfile} (genuine : profile.Genuine)
    (delta : .positionDelta ∈ profile.flags) : 107 ≤ profile.protocol := by
  have modern : ∀ profile ∈ profiles, .positionDelta ∈ profile.flags → 107 ≤ profile.protocol := by
    decide
  exact modern profile genuine.mem delta

/-- How an answer ends: every frame was sent, or the call failed with a send. -/
inductive Responded (before : World) (frames : List SentFrame) (next : Situation) :
    Option Unit × World → Prop where
  | sent (after : World) (logged : after.frames = before.frames ++ frames)
      (there : after.client.situation = next) : Responded before frames next (some (), after)
  | failed (after : World) (log : List SentFrame) (logged : after.frames = before.frames ++ log)
      (frame : SentFrame) (mem : frame ∈ log) (refused : frame.succeeded = false) :
      Responded before frames next (none, after)

/-- In the situation the program sends the frames and moves on to the next one. -/
def Responds (program : ClientM Unit) (situation : Situation) (frames : List SentFrame)
    (next : Situation) : Prop :=
  ∀ world : World, world.client.situation = situation →
    Responded world frames next (program world)

namespace Responds

variable {host : Host} {program : ClientM Unit} {situation middle next : Situation}
  {frames more : List SentFrame}

theorem nothing : Responds (pure ()) situation [] situation :=
  fun world same => .sent world (List.append_nil _).symm same

theorem bind {rest : Unit → ClientM Unit} (first : Responds program situation frames middle)
    (second : Responds (rest ()) middle more next) :
    Responds (program >>= rest) situation (frames ++ more) next := by
  intro world same
  have answered := first world same
  rcases run : program world with ⟨result, reached⟩
  rw [run] at answered
  cases answered with
  | failed after log logged frame mem refused =>
      rw [Prog.bind_none run]
      exact .failed _ log logged frame mem refused
  | sent after logged there =>
      rw [Prog.bind_some run]
      have answered := second reached there
      rcases run' : rest () reached with ⟨result, last⟩
      rw [run'] at answered
      cases answered with
      | sent after logged' there' =>
          exact .sent _ (by rw [logged', logged, List.append_assoc]) there'
      | failed after log logged' frame mem refused =>
          exact .failed _ (frames ++ log) (by rw [logged', logged, List.append_assoc]) frame
            (List.mem_append_right _ mem) refused

/-- What a program does with the client depends on the situation only. -/
theorem look {rest : McClient → ClientM Unit}
    (responds : ∀ client, client.situation = situation →
      Responds (rest client) situation frames next) :
    Responds (Prog.observe World.client >>= rest) situation frames next :=
  fun world same => responds world.client same world same

theorem when_pos {condition : Prop} [Decidable condition] (holds : condition)
    (responds : Responds program situation frames next) :
    Responds (.when condition program) situation frames next := by
  intro world same
  rw [Prog.when_pos holds]
  exact responds world same

theorem when_neg {condition : Prop} [Decidable condition] (fails : ¬ condition) :
    Responds (.when condition program) situation [] situation := by
  intro world same
  rw [Prog.when_neg fails]
  exact nothing world same

theorem accept {condition : Prop} [Decidable condition] {message : String}
    (good : ¬ condition) : Responds (refuseIf condition message) situation [] situation := by
  intro world same
  rw [refuseIf_neg good]
  exact nothing world same

/-- A program that only changes the client moves to another situation. -/
theorem modify {change : McClient → McClient}
    (moves : ∀ client, client.situation = situation → (change client).situation = next) :
    Responds (modifyClient change) situation [] next :=
  fun world same => .sent _ (List.append_nil _).symm (moves world.client same)

theorem sendFrame {packetId : Int} {payload : Buffer} :
    Responds (McProtocol.sendFrame host packetId payload) situation
      [⟨packetId, payload.content, true⟩] situation := by
  intro world same
  have written := (transmit_writing host packetId payload).moves world
  rw [sendFrame_run]
  rcases transmitted : transmit host packetId payload world with ⟨_ | u, after⟩
  · exact .failed _ [⟨packetId, payload.content, false⟩] rfl _ (List.mem_singleton_self _) rfl
  · rw [transmitted] at written
    refine .sent _ rfl ?_
    change after.client.situation = situation
    rw [written.client]
    exact same

/-- A builder with room for what it writes is sent whole. -/
theorem sendBuilder {packetId : Int} {build : WriteM Unit} {capacity : Nat} {bytes : List UInt8}
    (writes : Writes build bytes) (room : bytes.length ≤ capacity) :
    Responds (McProtocol.sendBuilder host packetId (buildPacket capacity build).2) situation
      [⟨packetId, bytes, true⟩] situation := by
  obtain ⟨packet, built, clean, body⟩ := writes.build room
  intro world same
  have unrefused : ¬ packet.failed = true := by simp [clean]
  have run : McProtocol.sendBuilder host packetId (buildPacket capacity build).2 world =
      McProtocol.sendFrame host packetId packet.body world := by
    rw [built]
    exact Prog.bind_some (refuseIf_neg unrefused)
  have responded := @sendFrame host situation packetId packet.body world same
  rw [run]
  rwa [body] at responded ⊢

end Responds

theorem DecodeM.orFailProtocol_eq_some {protocol : Int} {α : Type} {code : McErrorCode}
    {program : DecodeM protocol α} {reader after : McReader} {value : α}
    (run : (DecodeM.orFailProtocol code program).run reader = (some value, after)) :
    program.run reader = (some value, after) := by
  change program.run.rescue (fun reader => reader.failProtocol code protocol) reader = _ at run
  unfold Prog.rescue at run
  rcases ran : program.run reader with ⟨_ | found, reached⟩
  · rw [ran] at run
    cases run
  · rw [ran] at run
    exact run

theorem readDeltaPosition_teleport {protocol : Int} {body rest : McReader}
    {decoded : McClientboundPlayerPosition}
    (run : (readDeltaPosition protocol).run body = (some decoded, rest)) :
    decoded.hasTeleportId = true := by
  have read := DecodeM.orFailProtocol_eq_some run
  obtain ⟨_, _, _, afterId⟩ := Prog.bind_eq_some read
  obtain ⟨_, _, _, afterX⟩ := Prog.bind_eq_some afterId
  obtain ⟨_, _, _, afterY⟩ := Prog.bind_eq_some afterX
  obtain ⟨_, _, _, afterZ⟩ := Prog.bind_eq_some afterY
  obtain ⟨_, _, _, afterDeltaX⟩ := Prog.bind_eq_some afterZ
  obtain ⟨_, _, _, afterDeltaY⟩ := Prog.bind_eq_some afterDeltaX
  obtain ⟨_, _, _, afterDeltaZ⟩ := Prog.bind_eq_some afterDeltaY
  obtain ⟨_, _, _, afterYaw⟩ := Prog.bind_eq_some afterDeltaZ
  obtain ⟨_, _, _, afterPitch⟩ := Prog.bind_eq_some afterYaw
  obtain ⟨_, _, _, afterFlags⟩ := Prog.bind_eq_some afterPitch
  obtain ⟨_, _, _, returned⟩ := Prog.bind_eq_some afterFlags
  cases returned
  rfl

theorem readLegacyPosition_teleport {protocol : Int} {body rest : McReader}
    {decoded : McClientboundPlayerPosition}
    (run : (readLegacyPosition protocol).run body = (some decoded, rest)) :
    decoded.hasTeleportId = decide (107 ≤ protocol) := by
  obtain ⟨_, _, _, afterPosition⟩ := Prog.bind_eq_some run
  obtain ⟨_, _, _, afterTeleport⟩ := Prog.bind_eq_some afterPosition
  obtain ⟨_, _, _, returned⟩ := Prog.bind_eq_some afterTeleport
  cases returned
  rfl

/-- What a decoded position satisfies in a release of the table. -/
structure Decoded (profile : McProfile) (decoded : McClientboundPlayerPosition) : Prop where
  finite : decoded.position.IsFinite
  teleport : decoded.hasTeleportId = decide (107 ≤ profile.protocol)

theorem decodePosition_decoded {profile : McProfile} (genuine : profile.Genuine)
    {body rest : McReader} {decoded : McClientboundPlayerPosition}
    (run : (mcReaderClientboundPlayerPosition profile.protocol).run body = (some decoded, rest)) :
    Decoded profile decoded := by
  unfold mcReaderClientboundPlayerPosition at run
  obtain ⟨_, _, _, afterSticky⟩ := Prog.bind_eq_some run
  rw [if_neg (by simp [genuine.supported])] at afterSticky
  obtain ⟨found, _, read, checked⟩ := Prog.bind_eq_some afterSticky
  beta_reduce at checked
  split_ifs at checked with finite
  · cases checked
    obtain ⟨x, y, z, yaw, pitch, -⟩ := finite
    refine ⟨⟨x, y, z, yaw, pitch⟩, ?_⟩
    split_ifs at read with delta
    · rw [genuine.features] at delta
      rw [readDeltaPosition_teleport read, decide_eq_true (genuine.delta delta)]
    · exact readLegacyPosition_teleport read
  · cases checked

section Packet

variable {host : Host} {situation : Situation} {decoded : McClientboundPlayerPosition}

theorem writes_confirmation (protocol teleportId : Int) (absolute : McPlayerPosition) :
    Writes (confirmationPacket protocol teleportId absolute)
      (encodeVarint teleportId ++ if 777 ≤ protocol then absoluteBytes absolute else []) :=
  .bind (.varint _) (.whenever (.bind (.double _) (.bind (.double _) (.bind (.double _)
    (.bind (.float _) (.float _))))))

theorem confirmation_length_le (protocol teleportId : Int) (absolute : McPlayerPosition) :
    (encodeVarint teleportId ++ if 777 ≤ protocol then absoluteBytes absolute else []).length ≤
      48 := by
  have id := (encodeVarint_length teleportId).2
  split_ifs
  · simp only [absoluteBytes, List.length_append, BigEndian.length_bytes]
    omega
  · rw [List.length_append, List.length_nil]
    omega

/-- The frames of answers in a situation. -/
def Situation.frames (situation : Situation) (answers : List Answer) : List SentFrame :=
  answers.map (Answer.frame situation.profile)

theorem answerMovement_responds (genuine : situation.profile.Genuine)
    (finite : decoded.position.IsFinite) :
    Responds (answerMovement host decoded) situation
      (situation.frames (if situation.profile.protocol < 107 ∧ situation.replies .teleport = true
        then [.movement decoded.position] else [])) situation := by
  refine .look fun client same => ?_
  subst same
  split_ifs with answers
  · exact .when_pos answers (.sendBuilder
      (writes_playerPosition genuine.supported finite)
      ((positionBytes_length_le _ _).trans (by decide)))
  · exact .when_neg answers

theorem answerTeleport_responds {absolute : McPlayerPosition}
    (teleport : decoded.hasTeleportId = decide (107 ≤ situation.profile.protocol)) :
    Responds (answerTeleport host decoded absolute) situation
      (situation.frames (if ¬ situation.profile.protocol < 107 ∧ situation.replies .teleport = true
        then [.teleport decoded.teleportId absolute] else [])) situation := by
  refine .look fun client same => ?_
  subst same
  split_ifs with answers
  · exact .when_pos ⟨teleport.trans (decide_eq_true (not_lt.mp answers.1)), answers.2⟩
      (.sendBuilder (writes_confirmation _ _ _) (confirmation_length_le _ _ _))
  · refine .when_neg fun both => answers ⟨?_, both.2⟩
    exact not_lt.mpr (of_decide_eq_true (teleport.symm.trans both.1))

theorem answerLoaded_responds :
    Responds (answerLoaded host) situation
      (situation.frames (if situation.announces then [.playerLoaded] else []))
      { situation with loaded := situation.loaded || decide situation.announces } := by
  refine .look fun client same => ?_
  subst same
  split_ifs with announces
  · obtain ⟨replies, there, unloaded⟩ := announces
    refine .when_pos ⟨there, unloaded, replies⟩ (.bind .sendFrame (.modify fun changed same => ?_))
    have loaded : decide client.situation.announces = true :=
      decide_eq_true ⟨replies, there, unloaded⟩
    rw [loaded, Bool.or_true, ← same]
    rfl
  · have silent : ¬ (0 ≤ playerLoadedPacket client.profile.protocol ∧
        client.playerLoadedSent = false ∧ client.replies .playerLoaded = true) :=
      fun all => announces ⟨all.2.2, all.1, all.2.1⟩
    have same : ({ client.situation with
        loaded := client.situation.loaded || decide client.situation.announces } : Situation) =
        client.situation := by
      rw [decide_eq_false announces, Bool.or_false]
    rw [same]
    exact .when_neg silent

/-- A decoded position is confirmed first. -/
theorem Situation.positionAnswers_eq (situation : Situation)
    (decoded : McClientboundPlayerPosition) :
    situation.positionAnswers decoded =
      (if situation.profile.protocol < 107 ∧ situation.replies .teleport = true
        then [.movement decoded.position] else []) ++
      ((if ¬ situation.profile.protocol < 107 ∧ situation.replies .teleport = true
        then [.teleport decoded.teleportId (resolvePosition situation.known decoded)] else []) ++
      if situation.announces then [.playerLoaded] else []) := by
  unfold Situation.positionAnswers
  by_cases replies : situation.replies .teleport = true
  · by_cases old : situation.profile.protocol < 107
    · simp [replies, old]
    · simp [replies, old]
  · simp [replies]

theorem decodePosition_eq_some {protocol : Int} {body : McReader}
    (accepted : decodePosition protocol body = some decoded) :
    ∃ rest, (mcReaderClientboundPlayerPosition protocol).run body = (some decoded, rest) ∧
      mcReaderRemaining rest = 0 := by
  unfold decodePosition at accepted
  rcases run : (mcReaderClientboundPlayerPosition protocol).run body with ⟨_ | found, rest⟩
  · rw [run] at accepted
    cases accepted
  · rw [run] at accepted
    dsimp only at accepted
    split_ifs at accepted with ends
    · cases accepted
      exact ⟨rest, rfl, ends⟩

theorem answerPosition_responds (genuine : situation.profile.Genuine) {body : McReader}
    (accepted : decodePosition situation.profile.protocol body = some decoded) :
    Responds (answerPosition host body) situation
      (situation.frames (situation.positionAnswers decoded))
      { situation with
        known := some (resolvePosition situation.known decoded)
        loaded := situation.loaded || decide situation.announces } := by
  obtain ⟨rest, run, ends⟩ := decodePosition_eq_some accepted
  have fits := decodePosition_decoded genuine run
  rw [situation.positionAnswers_eq]
  simp only [Situation.frames, List.map_append]
  refine .look fun client same => ?_
  subst same
  change (mcReaderClientboundPlayerPosition client.profile.protocol).run body = _ at run
  rw [run]
  dsimp only
  let known : Situation :=
    { client.situation with known := some (resolvePosition client.situation.known decoded) }
  have movement : Responds (answerMovement host decoded) known _ known :=
    answerMovement_responds genuine fits.finite
  have teleport : Responds
      (answerTeleport host decoded (resolvePosition client.situation.known decoded))
      known _ known := answerTeleport_responds fits.teleport
  have loaded : Responds (answerLoaded host) known _ _ := answerLoaded_responds
  have tracked : Responds (trackPosition (resolvePosition client.situation.known decoded))
      client.situation [] known := by
    refine .modify fun changed same => ?_
    change ({ changed.situation with
      known := some (resolvePosition client.situation.known decoded) } : Situation) = known
    rw [same]
  have answered : Responds (do
      trackPosition (resolvePosition client.known decoded)
      answerMovement host decoded
      answerTeleport host decoded (resolvePosition client.known decoded)
      answerLoaded host) client.situation ([] ++ (_ ++ (_ ++ _))) _ :=
    .bind tracked (.bind movement (.bind teleport loaded))
  exact (Responds.accept (not_not.mpr ends)).bind answered

theorem answerBatch_responds :
    Responds (answerBatch host) situation (situation.frames [.chunkBatch]) situation := by
  refine .look fun client same => ?_
  subst same
  exact .sendBuilder (.float _) (by rw [BigEndian.length_bytes])

/-- A position with something behind it, or none at all, is refused. -/
theorem answerPosition_refused {body : McReader} {world : World}
    (malformed : decodePosition world.client.profile.protocol body = none) :
    answerPosition host body world = setError "Player Position non valido" world := by
  unfold decodePosition at malformed
  have looked : Prog.observe World.client world = (some world.client, world) := rfl
  refine (Prog.bind_some looked).trans ?_
  rcases run : (mcReaderClientboundPlayerPosition world.client.profile.protocol).run body with
    ⟨_ | found, rest⟩
  · rfl
  · rw [run] at malformed
    dsimp only at malformed
    split_ifs at malformed with ends
    exact Prog.bind_none (refuseIf_pos ends)

/-- A well formed packet is answered as the machine says. -/
theorem handlePlay_responds (genuine : situation.profile.Genuine) {packetId : Int}
    {body : McReader} (formed : ¬ situation.Malformed packetId body) :
    Responds (handlePlay host packetId body) situation
      (situation.frames (situation.answers packetId body)) (situation.next packetId body) := by
  have distinct := genuine.distinct
  refine .look fun client same => ?_
  subst same
  -- what is asked of the client is asked of its situation
  change Responds
    (if packetId = client.situation.profile.keepAlive ∧
        client.situation.replies .keepAlive = true then
      sendFrame host client.situation.profile.keepAliveResponse (body.data.drop body.offset)
    else do
      .when (packetId = client.situation.profile.playerPosition ∧
        client.situation.positions = true) (answerPosition host body)
      .when (packetId = batchFinishedPacket client.situation.profile.protocol ∧
        client.situation.replies .chunkBatch = true) (answerBatch host)) _ _ _
  generalize client.situation = situation at *
  unfold Situation.answers Situation.next
  by_cases keepAlive : packetId = situation.profile.keepAlive ∧ situation.replies .keepAlive = true
  · have elsewhere : ¬ (packetId = situation.profile.playerPosition ∧
        situation.positions = true) :=
      fun both => distinct.keepAlive_position (keepAlive.1.symm.trans both.1)
    rw [if_pos keepAlive, if_pos keepAlive.1, if_pos keepAlive.2, if_neg elsewhere]
    exact .sendFrame
  rw [if_neg keepAlive]
  by_cases position : packetId = situation.profile.playerPosition ∧ situation.positions = true
  · have notAlive : packetId ≠ situation.profile.keepAlive :=
      fun same => distinct.keepAlive_position (same.symm.trans position.1)
    have notBatch : ¬ (packetId = batchFinishedPacket situation.profile.protocol ∧
        situation.replies .chunkBatch = true) :=
      fun both => distinct.position_batch (position.1.symm.trans both.1)
    rw [if_neg notAlive, if_pos position.1, if_pos position.2, if_pos position]
    cases decoded : decodePosition situation.profile.protocol body with
    | none => exact absurd ⟨position.1, position.2, decoded⟩ formed
    | some found =>
        have answered := @answerPosition_responds host _ _ genuine _ decoded
        have all : Responds (do
            .when (packetId = situation.profile.playerPosition ∧
              situation.positions = true) (answerPosition host body)
            .when (packetId = batchFinishedPacket situation.profile.protocol ∧
              situation.replies .chunkBatch = true) (answerBatch host))
            situation (_ ++ []) _ := .bind (.when_pos position answered) (.when_neg notBatch)
        rwa [List.append_nil] at all
  rw [if_neg position]
  by_cases batch : packetId = batchFinishedPacket situation.profile.protocol ∧
      situation.replies .chunkBatch = true
  · have notAlive : packetId ≠ situation.profile.keepAlive :=
      fun same => distinct.keepAlive_batch (same.symm.trans batch.1)
    have notPosition : packetId ≠ situation.profile.playerPosition :=
      fun same => distinct.position_batch (same.symm.trans batch.1)
    rw [if_neg notAlive, if_neg notPosition, if_pos batch.1, if_pos batch.2]
    exact .bind (.when_neg position) (.when_pos batch answerBatch_responds)
  · have silent : (if packetId = situation.profile.keepAlive then
        if situation.replies .keepAlive then [Answer.keepAlive (body.data.drop body.offset)] else []
      else if packetId = situation.profile.playerPosition then
        if situation.positions then
          ((decodePosition situation.profile.protocol body).map situation.positionAnswers).getD []
        else []
      else if packetId = batchFinishedPacket situation.profile.protocol then
        if situation.replies .chunkBatch then [.chunkBatch] else []
      else []) = [] := by
      split_ifs with alive replies there positions finished batches
      · exact absurd ⟨alive, replies⟩ keepAlive
      · rfl
      · exact absurd ⟨there, positions⟩ position
      · rfl
      · exact absurd ⟨finished, batches⟩ batch
      · rfl
      · rfl
    rw [silent]
    exact .bind (.when_neg position) (.when_neg batch)

/-- A malformed position is answered with nothing but an error. -/
theorem handlePlay_malformed {packetId : Int} {body : McReader} {world : World}
    (genuine : world.client.profile.Genuine)
    (malformed : world.client.situation.Malformed packetId body) :
    handlePlay host packetId body world = setError "Player Position non valido" world := by
  obtain ⟨position, positions, undecoded⟩ := malformed
  have distinct := genuine.distinct
  have notAlive : ¬ (packetId = world.client.profile.keepAlive ∧
      world.client.replies .keepAlive = true) :=
    fun both => distinct.keepAlive_position (both.1.symm.trans position)
  refine (Prog.bind_some rfl).trans ?_
  rw [if_neg notAlive]
  exact Prog.bind_none ((Prog.when_pos ⟨position, positions⟩).trans
    (answerPosition_refused undecoded))

end Packet

/-- What an application does with a connection. -/
inductive ConnectionCall where
  | poll (timeoutMs : Nat)
  | request (call : AppCall)

/-- A packet that a poll handled: the world its callback left, how the answer ended,
and the world the poll left. -/
structure Turn where
  received : Received
  called : World
  outcome : Option Unit × World
  left : World

namespace Turn

/-- The packet came in PLAY, and its callback left the client there and connected. -/
def Playing (turn : Turn) : Prop := turn.received.state = .play ∧ turn.called.client.Playing

instance : DecidablePred Playing := fun _ => inferInstanceAs (Decidable (_ ∧ _))

/-- The frames sent for the packet by the client itself. -/
def replies (turn : Turn) : List SentFrame :=
  turn.outcome.2.frames.drop turn.called.frames.length

/-- A position that is to be answered and cannot be decoded. -/
def Malformed (turn : Turn) : Prop :=
  turn.Playing ∧ turn.called.client.situation.Malformed turn.received.packetId turn.received.body

/-- The packet is answered with an error, and the connection ends. -/
structure Refused (turn : Turn) : Prop where
  fails : turn.outcome.1 = none
  silent : turn.left.frames = turn.called.frames
  position : turn.left.client.trackedPosition = turn.called.client.trackedPosition
  valid : turn.left.client.trackedPositionValid = turn.called.client.trackedPositionValid
  loaded : turn.left.client.playerLoadedSent = turn.called.client.playerLoadedSent
  closed : turn.left.client.Closed

end Turn

section Connection

variable (host : Host) (app : App)

/-- The packet a poll handles, if it comes to that. -/
def pollTurn (timeoutMs : Nat) (world : World) : Option Turn :=
  if world.client.socketFd < 0 ∨ world.client.state = .disconnected ∨ world.client.stop = true then
    none
  else
    match pollPacket host app timeoutMs world with
    | (some (some received), called) =>
        some
          { received := received
            called := called
            outcome := pollAnswer host received called
            left := (mcClientPoll host app timeoutMs world).2 }
    | _ => none

/-- The packets handled by a sequence of calls. -/
def connectionTurns : List ConnectionCall → World → List Turn
  | [], _ => []
  | .poll timeoutMs :: calls, world =>
      (pollTurn host app timeoutMs world).toList ++
        connectionTurns calls (mcClientPoll host app timeoutMs world).2
  | .request call :: calls, world =>
      connectionTurns calls (performAppCall host (changeState host app) call world).2

/-- The answers to packet after packet; `loaded` is whether the player is announced. -/
def expectedAnswers (profile : McProfile) (automaticReplies : Nat) :
    Bool → List Turn → List (List Answer)
  | _, [] => []
  | loaded, turn :: turns =>
      let situation : Situation :=
        ⟨profile, automaticReplies, loaded, turn.called.client.known⟩
      if turn.Playing then
        situation.answers turn.received.packetId turn.received.body ::
          expectedAnswers profile automaticReplies
            (situation.next turn.received.packetId turn.received.body).loaded turns
      else [] :: expectedAnswers profile automaticReplies loaded turns

end Connection

section Run

variable {host : Host} {app : App}

theorem readProtocolPacket_undisturbed (host : Host) (app : App) (state : McState) :
    undisturbed.Lawful (readProtocolPacket host app state) := by
  have frame : undisturbed.Lawful (readFrame host) :=
    .of_steps fun world => ((undisturbed_reads host).readFrameLoop_lawful _).moves world
  refine .bind frame fun frame => ?_
  rcases mcReaderVarint.run (mcReaderInit frame) with ⟨_ | packetId, body⟩
  · exact (undisturbed_covers host).remembers (setError_memoryOnly _)
  · exact .bind ((undisturbed_covers host).emitPacket_lawful app _ _ _) fun _ => .pure _

theorem pollPacket_undisturbed (host : Host) (app : App) (timeoutMs : Nat) :
    undisturbed.Lawful (pollPacket host app timeoutMs) := by
  have ready : undisturbed.Lawful (pollReady) := by
    refine .bind ((undisturbed_covers host).observe_lawful _) fun client => ?_
    split_ifs
    · exact .pure _
    · refine .bind (undisturbed_reads host).polls fun wait => ?_
      cases wait with
      | ready => exact .pure _
      | timeout => exact .pure _
      | failed reason => exact (undisturbed_covers host).remembers (setError_memoryOnly _)
  have read : undisturbed.Lawful (pollRead host app timeoutMs) := by
    apply Discipline.Lawful.of_steps
    intro world
    have moved := (readProtocolPacket_undisturbed host app world.client.state).moves
      { world with client := { world.client with readTimeoutMs := timeoutMs } }
    exact ⟨moved.profile, moved.automaticReplies, moved.playerLoadedSent, moved.serverSide,
      moved.decoder, moved.logged⟩
  refine .bind ready fun found => ?_
  cases found with
  | false => exact .pure _
  | true => exact .bind read fun _ => .pure _

variable {timeoutMs : Nat} {world : World}

/-- A poll that gets to reading. -/
theorem mcClientPoll_connected (connected : ¬ (world.client.socketFd < 0 ∨
      world.client.state = .disconnected ∨ world.client.stop = true)) :
    mcClientPoll host app timeoutMs world =
      orDisconnect host app (pollConnected host app timeoutMs) world := by
  have accepted : refuseUnconnected world = (some (), world) :=
    (Prog.bind_some rfl).trans (refuseIf_neg fun bad =>
      connected (bad.elim .inl fun state => .inr (.inl state)))
  have going : ¬ world.client.stop = true := fun stop => connected (.inr (.inr stop))
  refine (Prog.bind_some accepted).trans ((Prog.bind_some rfl).trans ?_)
  rw [if_neg going]

/-- A turn is what the poll did. -/
structure Turned (host : Host) (app : App) (timeoutMs : Nat) (world : World) (turn : Turn) :
    Prop where
  called : pollPacket host app timeoutMs world = (some (some turn.received), turn.called)
  outcome : turn.outcome = pollAnswer host turn.received turn.called
  left : turn.left = (mcClientPoll host app timeoutMs world).2
  answered : ∀ after, turn.outcome = (some (), after) →
    mcClientPoll host app timeoutMs world = (some true, after)
  refused : ∀ after, turn.outcome = (none, after) →
    mcClientPoll host app timeoutMs world = (none, (mcClientDisconnect host app after).2)

theorem pollTurn_turned {turn : Turn} (found : pollTurn host app timeoutMs world = some turn) :
    Turned host app timeoutMs world turn := by
  unfold pollTurn at found
  split_ifs at found with unconnected
  split at found
  · next received called run =>
      cases found
      refine ⟨run, rfl, rfl, fun after answered => ?_, fun after refused => ?_⟩
      · rw [mcClientPoll_connected unconnected]
        exact orDisconnect_some host app
          ((Prog.bind_some run).trans (Prog.bind_some answered))
      · rw [mcClientPoll_connected unconnected]
        exact orDisconnect_failed host app
          ((Prog.bind_some run).trans (Prog.bind_none refused))
  · cases found

/-- A poll without a packet answers nothing. -/
theorem mcClientPoll_undisturbed (nothing : pollTurn host app timeoutMs world = none) :
    Undisturbed world (mcClientPoll host app timeoutMs world).2 := by
  by_cases connected : world.client.socketFd < 0 ∨ world.client.state = .disconnected ∨
      world.client.stop = true
  · by_cases refused : world.client.socketFd < 0 ∨ world.client.state = .disconnected
    · have run : mcClientPoll host app timeoutMs world = setError "Client non connesso" world :=
        Prog.bind_none ((Prog.bind_some rfl).trans (refuseIf_pos refused))
      rw [run]
      exact ⟨rfl, rfl, rfl, rfl, .refl _, List.prefix_rfl⟩
    · have stop : world.client.stop = true := by
        obtain socket | state | stop := connected
        · exact absurd (.inl socket) refused
        · exact absurd (.inr state) refused
        · exact stop
      have run : mcClientPoll host app timeoutMs world = (some false, world) := by
        refine (Prog.bind_some ((Prog.bind_some rfl).trans (refuseIf_neg refused))).trans ?_
        refine (Prog.bind_some rfl).trans ?_
        rw [if_pos stop]
        rfl
      rw [run]
      exact .refl world
  · have moved := (pollPacket_undisturbed host app timeoutMs).moves world
    have closes := (undisturbed_covers host).mcClientDisconnect_lawful app
    rw [mcClientPoll_connected connected]
    unfold pollTurn at nothing
    rw [if_neg connected] at nothing
    rcases run : pollPacket host app timeoutMs world with ⟨_ | _ | received, after⟩
    · rw [run] at moved
      have failed : pollConnected host app timeoutMs world = (none, after) := Prog.bind_none run
      rw [orDisconnect_failed host app failed]
      exact moved.trans (closes.moves after)
    · rw [run] at moved
      have idle : pollConnected host app timeoutMs world = (some false, after) :=
        Prog.bind_some run
      rw [orDisconnect_some host app idle]
      exact moved
    · rw [run] at nothing
      cases nothing

theorem Situation.Malformed.answers {situation : Situation} {packetId : Int} {body : McReader}
    (genuine : situation.profile.Genuine) (malformed : situation.Malformed packetId body) :
    situation.answers packetId body = [] := by
  obtain ⟨position, positions, undecoded⟩ := malformed
  have notAlive : packetId ≠ situation.profile.keepAlive :=
    fun same => genuine.distinct.keepAlive_position (same.symm.trans position)
  rw [Situation.answers, if_neg notAlive, if_pos position, if_pos positions, undecoded]
  rfl

theorem Situation.Malformed.next {situation : Situation} {packetId : Int} {body : McReader}
    (malformed : situation.Malformed packetId body) :
    situation.next packetId body = situation := by
  obtain ⟨position, positions, undecoded⟩ := malformed
  rw [Situation.next, if_pos ⟨position, positions⟩, undecoded]

theorem Situation.next_profile (situation : Situation) (packetId : Int) (body : McReader) :
    (situation.next packetId body).profile = situation.profile := by
  unfold Situation.next
  split_ifs
  · cases decodePosition situation.profile.protocol body with
    | none => rfl
    | some decoded => rfl
  · rfl

theorem Situation.next_mask (situation : Situation) (packetId : Int) (body : McReader) :
    (situation.next packetId body).automaticReplies = situation.automaticReplies := by
  unfold Situation.next
  split_ifs
  · cases decodePosition situation.profile.protocol body with
    | none => rfl
    | some decoded => rfl
  · rfl

/-- What is to be sent for a packet, and whether the player is announced behind it. -/
structure Turn.Answered (turn : Turn) : Prop where
  replies : turn.replies = turn.called.client.situation.frames
    (if turn.Playing then
      turn.called.client.situation.answers turn.received.packetId turn.received.body else [])
  loaded : turn.left.client.playerLoadedSent =
    if turn.Playing then
      (turn.called.client.situation.next turn.received.packetId turn.received.body).loaded
    else turn.called.client.playerLoadedSent
  profile : turn.left.client.profile = turn.called.client.profile
  mask : turn.left.client.automaticReplies = turn.called.client.automaticReplies

theorem Turned.refused_of_malformed {turn : Turn} (turned : Turned host app timeoutMs world turn)
    (genuine : turn.called.client.profile.Genuine) (malformed : turn.Malformed) :
    turn.Refused ∧ turn.Answered := by
  have fails : turn.outcome = setError "Player Position non valido" turn.called := by
    rw [turned.outcome]
    exact (Prog.bind_some rfl).trans
      ((Prog.when_pos malformed.1).trans (handlePlay_malformed genuine malformed.2))
  have left := turned.refused _ fails
  have said := mcClientDisconnect_silent host app
    { turn.called with error := "Player Position non valido" }
  have kept := ((undisturbed_covers host).mcClientDisconnect_lawful app).moves
    { turn.called with error := "Player Position non valido" }
  have closed := mcClientDisconnect_closed host app
    { turn.called with error := "Player Position non valido" }
  have reached : turn.left = (mcClientDisconnect host app
      { turn.called with error := "Player Position non valido" }).2 := by
    rw [turned.left, left]
  rw [← reached] at said kept closed
  refine ⟨⟨by rw [fails]; rfl, said.frames, said.position, said.valid, kept.playerLoadedSent,
    closed⟩, ?_, ?_, kept.profile, kept.automaticReplies⟩
  · rw [if_pos malformed.1, malformed.2.answers genuine, Turn.replies, fails]
    exact List.drop_length
  · rw [if_pos malformed.1, malformed.2.next]
    exact kept.playerLoadedSent

theorem Turned.answered_of_sent {turn : Turn} (turned : Turned host app timeoutMs world turn)
    (genuine : turn.called.client.profile.Genuine)
    (sent : ∀ frame ∈ turn.replies, frame.succeeded = true) : turn.Answered := by
  by_cases playing : turn.Playing
  · by_cases malformed : turn.Malformed
    · exact (turned.refused_of_malformed genuine malformed).2
    · have handled : turn.outcome =
          handlePlay host turn.received.packetId turn.received.body turn.called := by
        rw [turned.outcome]
        exact (Prog.bind_some rfl).trans (Prog.when_pos playing)
      have responded := @handlePlay_responds host turn.called.client.situation genuine
        turn.received.packetId turn.received.body (fun bad => malformed ⟨playing, bad⟩)
        turn.called rfl
      rw [← handled] at responded
      unfold Turn.replies at sent
      rcases outcome : turn.outcome with ⟨result, after⟩
      rw [outcome] at responded sent
      cases responded with
      | failed after log logged frame mem refused =>
          dsimp only at sent
          rw [logged, List.drop_left] at sent
          have succeeded := sent frame mem
          rw [refused] at succeeded
          cases succeeded
      | sent after logged there =>
          have left : turn.left = after := by rw [turned.left, turned.answered _ outcome]
          rw [← left] at there
          refine ⟨?_, ?_, ?_, ?_⟩
          · rw [Turn.replies, outcome, if_pos playing]
            dsimp only
            rw [logged, List.drop_left]
          · rw [if_pos playing, ← there]
            rfl
          · exact (congrArg Situation.profile there).trans (Situation.next_profile ..)
          · exact (congrArg Situation.automaticReplies there).trans (Situation.next_mask ..)
  · have untouched : turn.outcome = (some (), turn.called) := by
      rw [turned.outcome]
      exact (Prog.bind_some rfl).trans (Prog.when_neg playing)
    have left : turn.left = turn.called := by rw [turned.left, turned.answered _ untouched]
    refine ⟨?_, ?_, by rw [left], by rw [left]⟩
    · rw [if_neg playing, Turn.replies, untouched]
      exact List.drop_length
    · rw [if_neg playing, left]

theorem connectionTurns_some {calls : List ConnectionCall} {turn : Turn}
    (found : pollTurn host app timeoutMs world = some turn) :
    connectionTurns host app (.poll timeoutMs :: calls) world =
      turn :: connectionTurns host app calls turn.left := by
  rw [connectionTurns, found, (pollTurn_turned found).left]
  rfl

theorem connectionTurns_none {calls : List ConnectionCall}
    (nothing : pollTurn host app timeoutMs world = none) :
    connectionTurns host app (.poll timeoutMs :: calls) world =
      connectionTurns host app calls (mcClientPoll host app timeoutMs world).2 := by
  rw [connectionTurns, nothing]
  rfl

/-- The turns of a connection answer one after the other. -/
theorem connectionTurns_answered (calls : List ConnectionCall)
    (genuine : world.client.profile.Genuine)
    (sent : ∀ turn ∈ connectionTurns host app calls world,
      ∀ frame ∈ turn.replies, frame.succeeded = true) :
    (connectionTurns host app calls world).map Turn.replies =
      (expectedAnswers world.client.profile world.client.automaticReplies
        world.client.playerLoadedSent (connectionTurns host app calls world)).map
        fun answers => answers.map (Answer.frame world.client.profile) := by
  induction calls generalizing world with
  | nil => rfl
  | cons call calls ih =>
      cases call with
      | request call =>
          have kept : Undisturbed world
              (performAppCall host (changeState host app) call world).2 :=
            ((undisturbed_covers host).performAppCall_lawful
              ((undisturbed_covers host).changeStateAt_lawful app app.nesting) call).moves world
          have later := @ih (performAppCall host (changeState host app) call world).2
          rw [kept.profile, kept.automaticReplies, kept.playerLoadedSent] at later
          exact later genuine sent
      | poll timeoutMs =>
          have later := @ih (mcClientPoll host app timeoutMs world).2
          cases found : pollTurn host app timeoutMs world with
          | none =>
              have kept := mcClientPoll_undisturbed found
              rw [connectionTurns_none found] at sent ⊢
              rw [kept.profile, kept.automaticReplies, kept.playerLoadedSent] at later
              exact later genuine sent
          | some turn =>
              have turned := pollTurn_turned found
              have kept := (pollPacket_undisturbed host app timeoutMs).moves world
              rw [turned.called] at kept
              rw [connectionTurns_some found] at sent ⊢
              have calledGenuine : turn.called.client.profile.Genuine := by
                rw [kept.profile]
                exact genuine
              have answered := turned.answered_of_sent calledGenuine
                (sent turn List.mem_cons_self)
              have same : turn.called.client.situation = ⟨world.client.profile,
                  world.client.automaticReplies, world.client.playerLoadedSent,
                  turn.called.client.known⟩ := by
                rw [← kept.profile, ← kept.automaticReplies, ← kept.playerLoadedSent]
                rfl
              have replies := answered.replies
              have loaded := answered.loaded
              rw [same] at replies loaded
              rw [← turned.left, answered.profile, answered.mask, kept.profile,
                kept.automaticReplies, loaded, kept.playerLoadedSent] at later
              have rest := later genuine fun turn mem => sent turn (List.mem_cons_of_mem _ mem)
              unfold expectedAnswers
              split_ifs at replies rest ⊢ with playing
              · rw [List.map_cons, replies, rest]
                rfl
              · rw [List.map_cons, replies, rest]
                rfl

/-- Every turn is what a poll did, in the release of the connection. -/
theorem connectionTurns_turned (calls : List ConnectionCall)
    (genuine : world.client.profile.Genuine)
    (sent : ∀ turn ∈ connectionTurns host app calls world,
      ∀ frame ∈ turn.replies, frame.succeeded = true) {turn : Turn}
    (mem : turn ∈ connectionTurns host app calls world) :
    turn.called.client.profile = world.client.profile ∧
      ∃ timeoutMs before, Turned host app timeoutMs before turn := by
  induction calls generalizing world with
  | nil => cases mem
  | cons call calls ih =>
      cases call with
      | request call =>
          have kept : Undisturbed world
              (performAppCall host (changeState host app) call world).2 :=
            ((undisturbed_covers host).performAppCall_lawful
              ((undisturbed_covers host).changeStateAt_lawful app app.nesting) call).moves world
          have later := @ih (performAppCall host (changeState host app) call world).2
          rw [kept.profile] at later
          exact later genuine sent mem
      | poll timeoutMs =>
          have later := @ih (mcClientPoll host app timeoutMs world).2
          cases found : pollTurn host app timeoutMs world with
          | none =>
              have kept := mcClientPoll_undisturbed found
              rw [connectionTurns_none found] at sent mem
              rw [kept.profile] at later
              exact later genuine sent mem
          | some first =>
              have turned := pollTurn_turned found
              have kept := (pollPacket_undisturbed host app timeoutMs).moves world
              rw [turned.called] at kept
              rw [connectionTurns_some found] at sent mem
              cases mem with
              | head => exact ⟨kept.profile, timeoutMs, world, turned⟩
              | tail _ mem =>
                  have calledGenuine : first.called.client.profile.Genuine := by
                    rw [kept.profile]
                    exact genuine
                  have answered := turned.answered_of_sent calledGenuine
                    (sent first List.mem_cons_self)
                  rw [← turned.left, answered.profile, kept.profile] at later
                  exact later genuine (fun turn mem => sent turn (List.mem_cons_of_mem _ mem)) mem

/-- The player is announced where it was not, and is from then on. -/
theorem Situation.count_playerLoaded (situation : Situation) (genuine : situation.profile.Genuine)
    (packetId : Int) (body : McReader) :
    situation.loaded.toNat + (situation.answers packetId body).count .playerLoaded =
      (situation.next packetId body).loaded.toNat := by
  unfold Situation.answers Situation.next
  by_cases position : packetId = situation.profile.playerPosition
  · have notAlive : packetId ≠ situation.profile.keepAlive :=
      fun same => genuine.distinct.keepAlive_position (same.symm.trans position)
    rw [if_neg notAlive, if_pos position]
    by_cases positions : situation.positions = true
    · rw [if_pos positions, if_pos ⟨position, positions⟩]
      cases decodePosition situation.profile.protocol body with
      | none => rfl
      | some decoded =>
          have confirmed : (if situation.replies .teleport then
              if situation.profile.protocol < 107 then [Answer.movement decoded.position]
              else [.teleport decoded.teleportId (resolvePosition situation.known decoded)]
            else []).count .playerLoaded = 0 := by
            split_ifs
            · rfl
            · rfl
            · rfl
          change _ + (situation.positionAnswers decoded).count .playerLoaded = _
          rw [Situation.positionAnswers, List.count_append, confirmed]
          by_cases announces : situation.announces
          · rw [if_pos announces, decide_eq_true announces, announces.2.2]
            rfl
          · rw [if_neg announces, decide_eq_false announces, Bool.or_false]
            rfl
    · rw [if_neg positions, if_neg fun both => positions both.2]
      rfl
  · have elsewhere : ¬ (packetId = situation.profile.playerPosition ∧
        situation.positions = true) := fun both => position both.1
    rw [if_neg position, if_neg elsewhere]
    split_ifs
    · rfl
    · rfl
    · rfl
    · rfl
    · rfl

theorem expectedAnswers_announces {profile : McProfile} (genuine : profile.Genuine) (mask : Nat)
    (loaded : Bool) (turns : List Turn) :
    loaded.toNat + (expectedAnswers profile mask loaded turns).flatten.count .playerLoaded ≤ 1 := by
  induction turns generalizing loaded with
  | nil =>
      cases loaded with
      | false => exact Nat.zero_le _
      | true => exact Nat.le_refl _
  | cons turn turns ih =>
      unfold expectedAnswers
      dsimp only
      split_ifs with playing
      · have counted := Situation.count_playerLoaded
          ⟨profile, mask, loaded, turn.called.client.known⟩ genuine turn.received.packetId
          turn.received.body
        have rest := ih (Situation.next ⟨profile, mask, loaded, turn.called.client.known⟩
          turn.received.packetId turn.received.body).loaded
        rw [List.flatten_cons, List.count_append]
        dsimp only at counted
        omega
      · rw [List.flatten_cons, List.nil_append]
        exact ih loaded

end Run

/-- Over a whole connection, as long as what it sends is sent, a client answers packet by
packet as its situation says: the announcement of the player is made once, and a position
that cannot be decoded is answered with nothing and ends the connection. -/
theorem automatic_replies (host : Host) (app : App) (calls : List ConnectionCall) (world : World)
    (genuine : world.client.profile.Genuine)
    (sent : ∀ turn ∈ connectionTurns host app calls world,
      ∀ frame ∈ turn.replies, frame.succeeded = true) :
    let turns := connectionTurns host app calls world
    let expected := expectedAnswers world.client.profile world.client.automaticReplies
      world.client.playerLoadedSent turns
    turns.map Turn.replies =
        expected.map (fun answers => answers.map (Answer.frame world.client.profile)) ∧
      world.client.playerLoadedSent.toNat + expected.flatten.count .playerLoaded ≤ 1 ∧
      ∀ turn ∈ turns, turn.Malformed → turn.replies = [] ∧ turn.Refused := by
  refine ⟨connectionTurns_answered calls genuine sent,
    expectedAnswers_announces genuine _ _ _, fun turn mem malformed => ?_⟩
  obtain ⟨profile, timeoutMs, before, turned⟩ := connectionTurns_turned calls genuine sent mem
  have calledGenuine : turn.called.client.profile.Genuine := by
    rw [profile]
    exact genuine
  obtain ⟨refused, answered⟩ := turned.refused_of_malformed calledGenuine malformed
  refine ⟨?_, refused⟩
  have replies := answered.replies
  rw [if_pos malformed.1, malformed.2.answers calledGenuine] at replies
  exact replies

/-- A client in PLAY to which the server sends `bytes`. -/
def World.playing (client : McClient) (bytes : List UInt8) : World :=
  let served := World.serving { client with state := .play, socketFd := 3 } bytes
  { served with network := { served.network with waits := [.ready] } }

/-- A keep-alive, a position, and one that is cut short: the first two are answered, the
player is announced behind the second, and the third ends the connection. -/
theorem automatic_replies_three :
    let client := (mcClientCreate 770 true true).toOption.get (by decide)
    let world := World.playing client ([9, 38, 1, 2, 3, 4, 5, 6, 7, 8] ++
      ([62, 65, 7] ++ List.replicate 60 0) ++ [2, 65, 7])
    (connectionTurns (.ample (.knowing [] [])) ⟨none, none, 0⟩
      [.poll 50, .poll 50, .poll 50] world).map Turn.replies =
      [[⟨26, [1, 2, 3, 4, 5, 6, 7, 8], true⟩], [⟨0, [7], true⟩, ⟨42, [], true⟩], []] := by
  intro client world
  have answered := (automatic_replies (.ample (.knowing [] [])) ⟨none, none, 0⟩
    [.poll 50, .poll 50, .poll 50] world rfl (by decide +kernel)).1
  rw [answered]
  decide +kernel

end McProtocol
