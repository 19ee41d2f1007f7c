import McProtocol.Client.AutomaticReplies

/-! # Echoed positions

A client tracks where it is: where the server put it and where the application says it
moved. An answer that carries a position should carry the tracked one.
-/

namespace McProtocol

/-- What moves the tracked position. -/
inductive PositionStep where
  | received (body : McReader)
  | sent (position : McPlayerPosition)

/-- The body of a received packet. -/
def PositionStep.body : PositionStep → Option McReader
  | .received body => some body
  | .sent _ => none

/-- The position known behind a step. -/
def track (protocol : Int) (known : Option McPlayerPosition) : PositionStep →
    Option McPlayerPosition
  | .received body =>
      match decodePosition protocol body with
      | none => known
      | some decoded => some (resolvePosition known decoded)
  | .sent position => some position

/-- What the client does in a step. -/
def performStep (host : Host) : PositionStep → ClientM Unit
  | .received body => do
      let client ← Prog.observe World.client
      handlePlay host client.profile.playerPosition body
  | .sent position => mcClientSendPlayerPosition host position

/-- A step with the worlds around it. -/
structure PositionTurn where
  step : PositionStep
  before : World
  outcome : Option Unit × World

namespace PositionTurn

/-- A valid packet, answered, or a position that was sent. -/
structure Succeeds (turn : PositionTurn) : Prop where
  decodes : ∀ body ∈ turn.step.body,
    decodePosition turn.before.client.profile.protocol body ≠ none
  returns : turn.outcome.1 = some ()

instance (turn : PositionTurn) : Decidable turn.Succeeds :=
  decidable_of_iff
    ((∀ body ∈ turn.step.body, decodePosition turn.before.client.profile.protocol body ≠ none) ∧
      turn.outcome.1 = some ())
    ⟨fun both => ⟨both.1, both.2⟩, fun succeeds => ⟨succeeds.decodes, succeeds.returns⟩⟩

/-- The payload of an answer that carries `position`: the movement packet before 107,
the teleport confirmation behind. -/
def carrying (protocol : Int) (decoded : McClientboundPlayerPosition)
    (position : McPlayerPosition) : List UInt8 :=
  if protocol < 107 then positionBytes protocol { position with onGround := true }
  else encodeVarint decoded.teleportId ++ absoluteBytes position

/-- The answer to a received position is the tracked one. -/
def Echoes (turn : PositionTurn) : Prop :=
  let protocol := turn.before.client.profile.protocol
  ∀ body ∈ turn.step.body, ∀ decoded ∈ decodePosition protocol body,
    ((turn.outcome.2.frames.drop turn.before.frames.length).head?.map SentFrame.payload) =
      some (carrying protocol decoded turn.outcome.2.client.trackedPosition)

instance (turn : PositionTurn) : Decidable turn.Echoes :=
  inferInstanceAs (Decidable (∀ body ∈ turn.step.body, _))

/-- Nothing is known, or adding the last value changes no relative axis. -/
def AlreadyResolved (known : Option McPlayerPosition) (decoded : McClientboundPlayerPosition) :
    Prop :=
  ∀ last ∈ known,
    (decoded.relative 0 = true → decoded.position.x + last.x = decoded.position.x) ∧
    (decoded.relative 1 = true → decoded.position.y + last.y = decoded.position.y) ∧
    (decoded.relative 2 = true → decoded.position.z + last.z = decoded.position.z) ∧
    (decoded.relative 3 = true → decoded.position.yaw + last.yaw = decoded.position.yaw) ∧
    (decoded.relative 4 = true → decoded.position.pitch + last.pitch = decoded.position.pitch)

instance (known : Option McPlayerPosition) (decoded : McClientboundPlayerPosition) :
    Decidable (AlreadyResolved known decoded) :=
  inferInstanceAs (Decidable (∀ last ∈ known, _))

/-- Where the answer is the tracked position: from 777 on, and before 107 on positions
that need no resolving. -/
def Resolved (turn : PositionTurn) : Prop :=
  let protocol := turn.before.client.profile.protocol
  ∀ body ∈ turn.step.body, ∀ decoded ∈ decodePosition protocol body,
    777 ≤ protocol ∨ AlreadyResolved turn.before.client.known decoded

instance (turn : PositionTurn) : Decidable turn.Resolved :=
  inferInstanceAs (Decidable (∀ body ∈ turn.step.body, _))

end PositionTurn

/-- The turns of a sequence of steps. -/
def positionTurns (host : Host) : List PositionStep → World → List PositionTurn
  | [], _ => []
  | step :: steps, world =>
      ⟨step, world, performStep host step world⟩ ::
        positionTurns host steps (performStep host step world).2

section Step

variable {host : Host} {world : World} {decoded : McClientboundPlayerPosition}

theorem resolvePosition_eq_iff (known : Option McPlayerPosition)
    (decoded : McClientboundPlayerPosition) :
    resolvePosition known decoded = decoded.position ↔
      PositionTurn.AlreadyResolved known decoded := by
  cases known with
  | none => simp [resolvePosition, PositionTurn.AlreadyResolved]
  | some last =>
      obtain ⟨⟨x, y, z, yaw, pitch, onGround⟩, _⟩ := decoded
      simp only [resolvePosition, PositionTurn.AlreadyResolved, Option.mem_some_iff,
        McPlayerPosition.mk.injEq, forall_eq', and_true, ite_eq_right_iff]

theorem resolvePosition_onGround (known : Option McPlayerPosition)
    (decoded : McClientboundPlayerPosition) :
    (resolvePosition known decoded).onGround = decoded.position.onGround := by
  cases known with
  | none => rfl
  | some last => rfl

theorem double_bytes_inj {left right : McDouble} :
    BigEndian.bytes 8 left.bits.toNat = BigEndian.bytes 8 right.bits.toNat ↔ left = right := by
  rw [BigEndian.bytes_inj (by exact left.bits.isLt) (by exact right.bits.isLt), BitVec.toNat_inj]
  exact ⟨fun same => by cases left; cases right; exact congrArg _ same, fun same => by rw [same]⟩

theorem float_bytes_inj {left right : McFloat} :
    BigEndian.bytes 4 left.bits.toNat = BigEndian.bytes 4 right.bits.toNat ↔ left = right := by
  rw [BigEndian.bytes_inj (by exact left.bits.isLt) (by exact right.bits.isLt), BitVec.toNat_inj]
  exact ⟨fun same => by cases left; cases right; exact congrArg _ same, fun same => by rw [same]⟩

/-- Movement packets tell positions apart. -/
theorem positionBytes_inj {protocol : Int} {left right : McPlayerPosition}
    (ground : left.onGround = right.onGround)
    (same : positionBytes protocol { left with onGround := true } =
      positionBytes protocol { right with onGround := true }) : left = right := by
  unfold positionBytes at same
  obtain ⟨x, same⟩ := List.append_inj same (by simp)
  obtain ⟨y, same⟩ := List.append_inj same (by simp)
  obtain ⟨-, same⟩ := List.append_inj same (by split_ifs <;> simp)
  obtain ⟨z, same⟩ := List.append_inj same (by simp)
  obtain ⟨yaw, same⟩ := List.append_inj same (by simp)
  obtain ⟨pitch, -⟩ := List.append_inj same (by simp)
  rcases left with ⟨x₁, y₁, z₁, yaw₁, pitch₁, ground₁⟩
  rcases right with ⟨x₂, y₂, z₂, yaw₂, pitch₂, ground₂⟩
  simp only [McPlayerPosition.mk.injEq]
  exact ⟨double_bytes_inj.mp x, double_bytes_inj.mp y, double_bytes_inj.mp z,
    float_bytes_inj.mp yaw, float_bytes_inj.mp pitch, ground⟩

theorem tracked_of_known {client : McClient} {position : McPlayerPosition}
    (known : client.known = some position) : client.trackedPosition = position := by
  unfold McClient.known at known
  split_ifs at known
  cases known
  rfl

/-- What a received position leaves: the frames of its answers, and the position
resolved. -/
structure Handled (world after : World) (decoded : McClientboundPlayerPosition) : Prop where
  frames : after.frames = world.frames ++
    world.client.situation.frames (world.client.situation.positionAnswers decoded)
  known : after.client.known = some (resolvePosition world.client.known decoded)
  profile : after.client.profile = world.client.profile
  mask : after.client.automaticReplies = world.client.automaticReplies

/-- A position that decodes is answered, and known from then on. -/
theorem answers_position {situation : Situation} {body : McReader}
    (genuine : situation.profile.Genuine) (positions : situation.positions = true)
    (accepted : decodePosition situation.profile.protocol body = some decoded) :
    situation.answers situation.profile.playerPosition body = situation.positionAnswers decoded ∧
      situation.next situation.profile.playerPosition body =
        { situation with
          known := some (resolvePosition situation.known decoded)
          loaded := situation.loaded || decide situation.announces } := by
  have notAlive : situation.profile.playerPosition ≠ situation.profile.keepAlive :=
    genuine.distinct.keepAlive_position.symm
  constructor
  · rw [Situation.answers, if_neg notAlive, if_pos rfl, if_pos positions, accepted]
    rfl
  · rw [Situation.next, if_pos ⟨rfl, positions⟩, accepted]

theorem performStep_received {body : McReader} {after : World}
    (genuine : world.client.profile.Genuine) (teleport : world.client.replies .teleport = true)
    (accepted : decodePosition world.client.profile.protocol body = some decoded)
    (run : performStep host (.received body) world = (some (), after)) :
    Handled world after decoded := by
  have positions : world.client.situation.positions = true := by
    change (world.client.replies .teleport || world.client.replies .playerLoaded) = true
    rw [teleport, Bool.true_or]
  have formed : ¬ world.client.situation.Malformed world.client.profile.playerPosition body := by
    intro malformed
    have undecoded := malformed.2.2
    change decodePosition world.client.profile.protocol body = none at undecoded
    rw [accepted] at undecoded
    cases undecoded
  obtain ⟨answers, next⟩ := @answers_position decoded world.client.situation body genuine
    positions accepted
  have handled : handlePlay host world.client.profile.playerPosition body world =
      (some (), after) := run
  have responded := @handlePlay_responds host world.client.situation genuine
    world.client.profile.playerPosition body formed world rfl
  change Responded world (world.client.situation.frames (world.client.situation.answers
    world.client.situation.profile.playerPosition body)) (world.client.situation.next
    world.client.situation.profile.playerPosition body) _ at responded
  rw [handled, answers, next] at responded
  cases responded with
  | sent after logged there =>
      exact ⟨logged, congrArg Situation.known there, congrArg Situation.profile there,
        congrArg Situation.automaticReplies there⟩

/-- The first frame of an answer carries the wire position before 107, the resolved one
from 777 on. -/
theorem positionAnswers_head {situation : Situation} (teleport : situation.replies .teleport = true)
    (answered : situation.profile.protocol < 107 ∨ 777 ≤ situation.profile.protocol) :
    (situation.frames (situation.positionAnswers decoded)).head?.map SentFrame.payload =
      some (PositionTurn.carrying situation.profile.protocol decoded
        (if situation.profile.protocol < 107 then decoded.position
          else resolvePosition situation.known decoded)) := by
  unfold Situation.positionAnswers PositionTurn.carrying
  rw [if_pos teleport]
  by_cases old : situation.profile.protocol < 107
  · simp only [if_pos old]
    rfl
  · have modern : 777 ≤ situation.profile.protocol := answered.resolve_left old
    simp only [if_neg old, Situation.frames, List.map_append, List.map_cons, List.cons_append,
      List.head?_cons, Option.map_some, Answer.frame, if_pos modern]

theorem received_echoes_iff {body : McReader} {after : World}
    (genuine : world.client.profile.Genuine) (teleport : world.client.replies .teleport = true)
    (answered : world.client.profile.protocol < 107 ∨ 777 ≤ world.client.profile.protocol)
    (accepted : decodePosition world.client.profile.protocol body = some decoded)
    (run : performStep host (.received body) world = (some (), after)) :
    PositionTurn.Echoes ⟨.received body, world, (some (), after)⟩ ↔
      777 ≤ world.client.profile.protocol ∨
        PositionTurn.AlreadyResolved world.client.known decoded := by
  have handled := performStep_received genuine teleport accepted run
  have tracked := tracked_of_known handled.known
  have head := @positionAnswers_head decoded world.client.situation teleport answered
  have unfolded : PositionTurn.Echoes ⟨.received body, world, (some (), after)⟩ ↔
      some (PositionTurn.carrying world.client.profile.protocol decoded
        (if world.client.profile.protocol < 107 then decoded.position
          else resolvePosition world.client.known decoded)) =
      some (PositionTurn.carrying world.client.profile.protocol decoded
        (resolvePosition world.client.known decoded)) := by
    simp only [PositionTurn.Echoes, PositionStep.body, Option.mem_some_iff, forall_eq', accepted,
      handled.frames, List.drop_left, head, tracked]
    rfl
  rw [unfolded, Option.some_inj]
  by_cases old : world.client.profile.protocol < 107
  · have early : ¬ 777 ≤ world.client.profile.protocol := by omega
    rw [if_pos old, ← resolvePosition_eq_iff, PositionTurn.carrying, PositionTurn.carrying,
      if_pos old, if_pos old]
    refine ⟨fun same => .inr ?_, fun resolved => ?_⟩
    · exact (positionBytes_inj (resolvePosition_onGround _ _).symm same).symm
    · rw [resolved.resolve_left early]
  · rw [if_neg old]
    exact ⟨fun _ => .inl (answered.resolve_left old), fun _ => rfl⟩

theorem performStep_sent {position : McPlayerPosition} {after : World}
    (run : performStep host (.sent position) world = (some (), after)) :
    after.client.known = some position := by
  obtain ⟨client, seen, _, afterSeen⟩ := Prog.bind_eq_some run
  obtain ⟨_, playing, _, afterPlaying⟩ := Prog.bind_eq_some afterSeen
  obtain ⟨_, valid, _, afterValid⟩ := Prog.bind_eq_some afterPlaying
  obtain ⟨_, sent, _, tracked⟩ := Prog.bind_eq_some afterValid
  cases tracked
  rfl

/-- A successful step tracks what it is about, in the same release under the same mask. -/
theorem performStep_tracks {step : PositionStep} (genuine : world.client.profile.Genuine)
    (teleport : world.client.replies .teleport = true)
    (succeeds : PositionTurn.Succeeds ⟨step, world, performStep host step world⟩) :
    (performStep host step world).2.client.known =
        track world.client.profile.protocol world.client.known step ∧
      (performStep host step world).2.client.profile = world.client.profile ∧
      (performStep host step world).2.client.automaticReplies =
        world.client.automaticReplies := by
  have returns := succeeds.returns
  rcases run : performStep host step world with ⟨result, after⟩
  rw [run] at returns
  dsimp only at returns
  subst returns
  cases step with
  | received body =>
      cases accepted : decodePosition world.client.profile.protocol body with
      | none => exact absurd accepted (succeeds.decodes body rfl)
      | some decoded =>
          have handled := performStep_received genuine teleport accepted run
          refine ⟨?_, handled.profile, handled.mask⟩
          rw [track, accepted]
          exact handled.known
  | sent position =>
      have kept := ((undisturbed_covers host).sendsPosition position).moves world
      change Undisturbed world (performStep host (.sent position) world).2 at kept
      rw [run] at kept
      exact ⟨performStep_sent run, kept.profile, kept.automaticReplies⟩

theorem echoes_iff_resolved {step : PositionStep} (genuine : world.client.profile.Genuine)
    (teleport : world.client.replies .teleport = true)
    (answered : world.client.profile.protocol < 107 ∨ 777 ≤ world.client.profile.protocol)
    (succeeds : PositionTurn.Succeeds ⟨step, world, performStep host step world⟩) :
    PositionTurn.Echoes ⟨step, world, performStep host step world⟩ ↔
      PositionTurn.Resolved ⟨step, world, performStep host step world⟩ := by
  have returns := succeeds.returns
  rcases run : performStep host step world with ⟨result, after⟩
  rw [run] at returns
  dsimp only at returns
  subst returns
  cases step with
  | sent position => exact ⟨fun _ => nofun, fun _ => nofun⟩
  | received body =>
      cases accepted : decodePosition world.client.profile.protocol body with
      | none => exact absurd accepted (succeeds.decodes body rfl)
      | some decoded =>
          rw [received_echoes_iff genuine teleport answered accepted run]
          simp only [PositionTurn.Resolved, PositionStep.body, Option.mem_some_iff, forall_eq',
            accepted]

end Step

/-- Over every run of valid positions and successful sends the tracked position is the
fold of the positions, and the answers carry it exactly where there was nothing to
resolve or the release is 777 or later. -/
theorem echoed_positions_iff (host : Host) (steps : List PositionStep) (world : World)
    (genuine : world.client.profile.Genuine) (teleport : world.client.replies .teleport = true)
    (answered : world.client.profile.protocol < 107 ∨ 777 ≤ world.client.profile.protocol)
    (succeeds : ∀ turn ∈ positionTurns host steps world, turn.Succeeds) :
    (positionTurns host steps world).map (fun turn => turn.outcome.2.client.known) =
        (steps.scanl (track world.client.profile.protocol) world.client.known).tail ∧
      ∀ turn ∈ positionTurns host steps world, turn.Echoes ↔ turn.Resolved := by
  induction steps generalizing world with
  | nil =>
      constructor
      · rfl
      · intro turn mem
        exact absurd mem List.not_mem_nil
  | cons step steps ih =>
      have first := succeeds _ List.mem_cons_self
      obtain ⟨known, profile, mask⟩ := performStep_tracks genuine teleport first
      have later := ih (performStep host step world).2
      rw [profile, known] at later
      obtain ⟨fold, rest⟩ := later genuine (by rw [McClient.replies, mask]; exact teleport)
        answered fun turn mem => succeeds turn (List.mem_cons_of_mem _ mem)
      constructor
      · rw [positionTurns, List.map_cons, fold, List.scanl_cons, List.tail_cons]
        dsimp only
        rw [known]
        cases steps with
        | nil => rfl
        | cons next steps => rw [List.scanl_cons, List.tail_cons]
      · intro turn mem
        cases mem with
        | head => exact echoes_iff_resolved genuine teleport answered first
        | tail _ mem => exact rest turn mem

/-- The body of a position at `(1, 0, 0)`, on a release before 107. -/
def positionAtOne (flags : UInt8) : McReader :=
  mcReaderInit ([0x3f, 0xf0] ++ List.replicate 30 0 ++ [flags])

/-- The server puts a client of protocol 47 at `x = 1` and moves it on by one: the second
answer says `x = 1`, the client is at `x = 2`. -/
theorem echoed_positions_relative :
    let client := (mcClientCreate 47 true true).toOption.get (by decide)
    let turns := positionTurns (.ample (.knowing [] []))
      [.received (positionAtOne 0), .received (positionAtOne 1)] (World.playing client [])
    (∀ turn ∈ turns, turn.Succeeds) ∧ ¬ ∀ turn ∈ turns, turn.Echoes := by
  decide +kernel

/-- Two absolute positions are echoed as they are tracked. -/
theorem echoed_positions_absolute :
    let client := (mcClientCreate 47 true true).toOption.get (by decide)
    let turns := positionTurns (.ample (.knowing [] []))
      [.received (positionAtOne 0), .received (positionAtOne 0)] (World.playing client [])
    ∀ turn ∈ turns, turn.Echoes := by
  intro client turns turn mem
  have echoes := (echoed_positions_iff (.ample (.knowing [] []))
    [.received (positionAtOne 0), .received (positionAtOne 0)] (World.playing client [])
    rfl (by decide) (.inl (by decide)) (by decide +kernel)).2 turn mem
  have resolved : ∀ turn ∈ turns, turn.Resolved := by decide +kernel
  exact echoes.mpr (resolved turn mem)

end McProtocol
