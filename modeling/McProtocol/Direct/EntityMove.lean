import McProtocol.Lockstep
import McProtocol.Typed.SteppedMoves

/-! # Two decoders of one move

A relative move is read by `mc_reader_clientbound_entity_move`, and with a rotation by
`mc_reader_clientbound_entity_move_look`, and as a typed packet. The first looks at the id of the
entity as soon as it is read, the second once everything is read, so that each of them is run
behind the other.
-/

namespace McProtocol

structure McClientboundEntityMovement where
  entityId : Int
  deltaXRaw : Int
  deltaYRaw : Int
  deltaZRaw : Int
  deltaX : McDouble
  deltaY : McDouble
  deltaZ : McDouble
  yawRaw : UInt8
  pitchRaw : UInt8
  yaw : McFloat
  pitch : McFloat
  onGround : Bool
  hasPosition : Bool
  hasRotation : Bool
  hasOnGround : Bool
  stepCount : Nat
  deriving Repr, DecidableEq

section

variable (protocol : Int)

/-- What a movement carries, and in which unit. -/
def McClientboundEntityMovement.carrying (carriesPosition carriesRotation : Bool) (entityId : Int)
    (delta : VecDelta) (unit : McDouble) (angles : UInt8 × UInt8) : McClientboundEntityMovement :=
  { entityId := entityId
    deltaXRaw := delta.sum.1
    deltaYRaw := delta.sum.2.1
    deltaZRaw := delta.sum.2.2
    deltaX := if carriesPosition then .ofInt delta.sum.1 / unit else 0
    deltaY := if carriesPosition then .ofInt delta.sum.2.1 / unit else 0
    deltaZ := if carriesPosition then .ofInt delta.sum.2.2 / unit else 0
    yawRaw := angles.1
    pitchRaw := angles.2
    yaw := if carriesRotation then angleOfByte angles.1 else 0
    pitch := if carriesRotation then angleOfByte angles.2 else 0
    onGround := delta.onGround
    hasPosition := carriesPosition
    hasRotation := carriesRotation
    hasOnGround := decide (5 < protocol)
    stepCount := delta.steps }

/-- `reader_clientbound_entity_movement`. -/
def readerClientboundEntityMovement (carriesPosition carriesRotation : Bool) :
    DecodeM protocol McClientboundEntityMovement := do
  .orFailed (require (mcProtocolSupported protocol = true))
  let entityId ← readEntityId protocol
  typedRequire (0 ≤ entityId)
  if 777 ≤ protocol then
    -- the ground comes in the properties of a delta, or before the angles
    let delta ← (if carriesPosition then readVecDelta777 else do
      let onGround ← mcReaderBool
      pure ⟨onGround, (0, 0, 0), 0⟩)
    let angles ← readAngles carriesRotation
    pure (.carrying protocol carriesPosition carriesRotation entityId delta 4096 angles)
  else
    let sum ← (if carriesPosition then readDelta protocol else pure (0, 0, 0))
    let angles ← readAngles carriesRotation
    let onGround ← (if 5 < protocol then mcReaderBool else pure false)
    pure (.carrying protocol carriesPosition carriesRotation entityId ⟨onGround, sum, 0⟩
      (if protocol ≤ 47 then 32 else 4096) angles)

def mcReaderClientboundEntityMove : DecodeM protocol McClientboundEntityMovement :=
  readerClientboundEntityMovement protocol true false

def mcReaderClientboundEntityMoveLook : DecodeM protocol McClientboundEntityMovement :=
  readerClientboundEntityMovement protocol true true

def mcReaderClientboundEntityLook : DecodeM protocol McClientboundEntityMovement :=
  readerClientboundEntityMovement protocol false true

end

/-- Both decoders read the same move: the raw deltas of the typed packet are shorts. -/
structure MovesAgree (read : McClientboundEntityMovement) (typed : McEntityMovePacket) : Prop where
  entityId : typed.entityId = read.entityId
  onGround : typed.onGround = read.onGround
  stepCount : typed.stepCount = read.stepCount
  yawRaw : typed.yawRaw = read.yawRaw
  pitchRaw : typed.pitchRaw = read.pitchRaw
  yaw : typed.yaw = read.yaw
  pitch : typed.pitch = read.pitch
  deltaX : typed.deltaX = read.deltaX
  deltaY : typed.deltaY = read.deltaY
  deltaZ : typed.deltaZ = read.deltaZ
  deltaXRaw : typed.deltaXRaw = saturateI16 read.deltaXRaw
  deltaYRaw : typed.deltaYRaw = saturateI16 read.deltaYRaw
  deltaZRaw : typed.deltaZRaw = saturateI16 read.deltaZRaw
  presence : typed.presence = mcMoveHasDelta |||
    flagWhen mcMoveHasRotation (read.hasRotation = true) |||
    flagWhen mcMoveHasOnGround (read.hasOnGround = true)

variable {protocol : Int}

theorem saturateI16_short {value : Int} (short : -2 ^ 15 ≤ value ∧ value < 2 ^ 15) :
    saturateI16 value = value := by
  rw [saturateI16, if_neg (by rw [int16Max]; omega), if_neg (by omega)]

/-- What a release before 777 reads of a delta are shorts. -/
theorem readDelta_shorts (protocol : Int) : ∃ G : Delta → List UInt8 → Prop,
    (∀ mode, Accepts mode (readDelta protocol).run G) ∧
      ∀ delta bytes, G delta bytes → IsShorts delta := by
  unfold readDelta
  by_cases narrow : protocol ≤ 47
  · simp only [if_pos narrow]
    refine ⟨_, fun mode => .bind accepts_i8 fun x => .bind accepts_i8 fun y =>
      .bind accepts_i8 fun z => .pure (x, y, z), ?_⟩
    rintro delta bytes ⟨x, _, _, -, ⟨⟨lowX, highX⟩, -⟩, y, _, _, -, ⟨⟨lowY, highY⟩, -⟩, z, _, _, -,
      ⟨⟨lowZ, highZ⟩, -⟩, rfl, -⟩
    refine ⟨⟨?_, ?_⟩, ⟨?_, ?_⟩, ⟨?_, ?_⟩⟩ <;> dsimp only <;> omega
  · simp only [if_neg narrow]
    exact ⟨_, fun mode => accepts_readShorts, fun delta bytes derived => derived.1⟩

/-- A position that is carried counts in its unit. -/
theorem McClientboundEntityMovement.carrying_delta (protocol : Int) (rotation : Bool) (entityId : Int)
    (delta : VecDelta) (unit : McDouble) (angles : UInt8 × UInt8) :
    (carrying protocol true rotation entityId delta unit angles).deltaX =
        .ofInt delta.sum.1 / unit ∧
      (carrying protocol true rotation entityId delta unit angles).deltaY =
        .ofInt delta.sum.2.1 / unit ∧
      (carrying protocol true rotation entityId delta unit angles).deltaZ =
        .ofInt delta.sum.2.2 / unit := by
  simp only [carrying, if_true, and_self]

theorem stepped_agrees (stepped : 777 ≤ protocol) (rotation : Bool) (entityId : Int)
    (delta : VecDelta) (angles : UInt8 × UInt8) :
    MovesAgree (.carrying protocol true rotation entityId delta 4096 angles)
      { entityId := entityId
        deltaXRaw := saturateI16 delta.sum.1
        deltaYRaw := saturateI16 delta.sum.2.1
        deltaZRaw := saturateI16 delta.sum.2.2
        deltaX := .ofInt delta.sum.1 / 4096
        deltaY := .ofInt delta.sum.2.1 / 4096
        deltaZ := .ofInt delta.sum.2.2 / 4096
        yawRaw := angles.1
        pitchRaw := angles.2
        yaw := if rotation then angleOfByte angles.1 else 0
        pitch := if rotation then angleOfByte angles.2 else 0
        onGround := delta.onGround
        presence := mcMoveHasDelta ||| mcMoveHasOnGround
          ||| flagWhen mcMoveHasRotation (rotation = true)
        stepCount := delta.steps } := by
  have grounded : decide (5 < protocol) = true := decide_eq_true (by omega)
  obtain ⟨x, y, z⟩ := McClientboundEntityMovement.carrying_delta protocol rotation
    entityId delta 4096 angles
  refine ⟨rfl, rfl, rfl, rfl, rfl, rfl, rfl, x.symm, y.symm, z.symm, rfl, rfl, rfl, ?_⟩
  simp only [McClientboundEntityMovement.carrying, grounded]
  cases rotation <;> decide

theorem standing_agrees (rotation : Bool) (entityId : Int) (onGround : Bool) {sum : Delta}
    (shorts : IsShorts sum) (angles : UInt8 × UInt8) :
    MovesAgree (.carrying protocol true rotation entityId ⟨onGround, sum, 0⟩
        (if protocol ≤ 47 then 32 else 4096) angles)
      { entityId := entityId
        deltaXRaw := sum.1
        deltaYRaw := sum.2.1
        deltaZRaw := sum.2.2
        deltaX := .ofInt sum.1 / (if protocol ≤ 47 then 32 else 4096)
        deltaY := .ofInt sum.2.1 / (if protocol ≤ 47 then 32 else 4096)
        deltaZ := .ofInt sum.2.2 / (if protocol ≤ 47 then 32 else 4096)
        yawRaw := angles.1
        pitchRaw := angles.2
        yaw := if rotation then angleOfByte angles.1 else 0
        pitch := if rotation then angleOfByte angles.2 else 0
        onGround := onGround
        presence := mcMoveHasDelta ||| flagWhen mcMoveHasRotation (rotation = true)
          ||| flagWhen mcMoveHasOnGround (5 < protocol)
        stepCount := 0 } := by
  obtain ⟨shortX, shortY, shortZ⟩ := shorts
  obtain ⟨x, y, z⟩ := McClientboundEntityMovement.carrying_delta protocol rotation
    entityId ⟨onGround, sum, 0⟩ (if protocol ≤ 47 then 32 else 4096) angles
  refine ⟨rfl, rfl, rfl, rfl, rfl, rfl, rfl, x.symm, y.symm, z.symm,
    (saturateI16_short shortX).symm, (saturateI16_short shortY).symm,
    (saturateI16_short shortZ).symm, ?_⟩
  simp only [McClientboundEntityMovement.carrying, flagWhen, decide_eq_true_eq]

/-- What the first decoder returns the second returns. -/
theorem typed_leads (rotation : Bool) :
    Leads (readerClientboundEntityMovement protocol true rotation).run
      (typedDecodeEntityMove protocol rotation).run MovesAgree := by
  refine Prog.Follows.rescueBindLeft (Leads.requireLeft fun _ => ?_) _
  refine Leads.both fun entityId => ?_
  refine Leads.typedRequireLeft fun natural => ?_
  by_cases stepped : 777 ≤ protocol
  · simp only [if_pos stepped]
    refine Leads.both fun delta => ?_
    refine Leads.both fun angles => ?_
    refine Leads.typedRequireRight natural (Leads.pure ?_)
    exact stepped_agrees stepped rotation entityId delta angles
  · simp only [if_neg stepped]
    obtain ⟨G, accepts, shorts⟩ := readDelta_shorts protocol
    refine Leads.bothKnowing accepts fun sum bytes derived => ?_
    refine Leads.both fun angles => ?_
    refine Leads.bind (Leads.same _) fun onGround _ same => ?_
    subst same
    refine Leads.typedRequireRight natural (Leads.pure ?_)
    exact standing_agrees rotation entityId onGround (shorts sum bytes derived) angles

/-- What the second decoder returns the first returns: a negative id it refuses in the end. -/
theorem reader_leads (supported : mcProtocolSupported protocol = true) (rotation : Bool) :
    Leads (typedDecodeEntityMove protocol rotation).run
      (readerClientboundEntityMovement protocol true rotation).run
      fun typed read => MovesAgree read typed := by
  refine Prog.Follows.rescueBindRight (Leads.requireRight supported ?_) _
  refine Leads.both fun entityId => ?_
  by_cases natural : 0 ≤ entityId
  · refine Leads.typedRequireRight natural ?_
    by_cases stepped : 777 ≤ protocol
    · simp only [if_pos stepped]
      refine Leads.both fun delta => ?_
      refine Leads.both fun angles => ?_
      refine Leads.typedRequireLeft fun _ => Leads.pure ?_
      exact stepped_agrees stepped rotation entityId delta angles
    · simp only [if_neg stepped]
      obtain ⟨G, accepts, shorts⟩ := readDelta_shorts protocol
      refine Leads.bothKnowing accepts fun sum bytes derived => ?_
      refine Leads.both fun angles => ?_
      refine Leads.bind (Leads.same _) fun onGround _ same => ?_
      subst same
      refine Leads.typedRequireLeft fun _ => Leads.pure ?_
      exact standing_agrees rotation entityId onGround (shorts sum bytes derived) angles
  · refine Prog.Follows.never fun reader typed after run => natural ?_
    beta_reduce at run
    by_cases stepped : 777 ≤ protocol
    · rw [if_pos stepped] at run
      obtain ⟨delta, _, _, run⟩ := Prog.bind_eq_some run
      obtain ⟨angles, _, _, run⟩ := Prog.bind_eq_some run
      obtain ⟨_, _, checked, _⟩ := Prog.bind_eq_some run
      exact typedRequire_eq_some checked
    · rw [if_neg stepped] at run
      obtain ⟨sum, _, _, run⟩ := Prog.bind_eq_some run
      obtain ⟨angles, _, _, run⟩ := Prog.bind_eq_some run
      obtain ⟨onGround, _, _, run⟩ := Prog.bind_eq_some run
      obtain ⟨_, _, checked, _⟩ := Prog.bind_eq_some run
      exact typedRequire_eq_some checked

/-- The reader of a move, with or without a rotation. -/
def moveReader (protocol : Int) (rotation : Bool) : DecodeM protocol McClientboundEntityMovement :=
  if rotation then mcReaderClientboundEntityMoveLook protocol
  else mcReaderClientboundEntityMove protocol

/-- The family of a move. -/
def moveFamily (rotation : Bool) : McPacketFamily :=
  if rotation then .entityMoveLook else .relativeEntityMove

theorem moveReader_eq (protocol : Int) (rotation : Bool) :
    moveReader protocol rotation = readerClientboundEntityMovement protocol true rotation := by
  cases rotation <;> rfl

theorem decode_moveFamily (validators : Validators) (protocol : Int)
    (direction : McPacketDirection) (name : String) (rotation : Bool) :
    typedDecodeDispatch validators protocol direction name (moveFamily rotation) =
      McTypedPacket.entityMove <$> typedDecodeEntityMove protocol rotation := by
  cases rotation <;> rfl

/-- A payload is a move to the reader, and nothing is left behind it, exactly when it is one to
`mc_decode_packet`, and then both mean the same move. -/
theorem entityMove_decoders_agree (library : PacketLibrary) (arguments : McDecodeArguments)
    (mode : McDecodeMode) (error readerError : Option McError) (rotation : Bool)
    (selected : SelectedPacket) (moded : arguments.decodeMode = some mode)
    (chosen : (arguments.select library).2 = .ok selected)
    (family : selected.family = moveFamily rotation) :
    let read := (readWhole (moveReader arguments.protocol rotation) arguments.payload.content mode
      readerError).1
    let packet := (mcDecodePacket library arguments error).packet
    (read ≠ none ↔ packet ≠ none) ∧
      ∀ move ∈ read, ∀ decoded ∈ packet, ∃ typed, decoded = .entityMove typed ∧
        MovesAgree move typed := by
  intro read packet
  have supported := select_supported chosen
  have start := @lockstep_start arguments error readerError mode moded
  have decode : (selected.decode library.validators arguments.protocol) =
      McTypedPacket.entityMove <$> typedDecodeEntityMove arguments.protocol rotation := by
    rw [SelectedPacket.decode, family, decode_moveFamily]
  have forth : ∀ move, read = some move →
      ∃ typed, packet = some (.entityMove typed) ∧ MovesAgree move typed := by
    intro move accepted
    obtain ⟨after, run, -, whole⟩ := readWhole_eq_some.mp accepted
    rw [moveReader_eq] at run
    obtain ⟨typed, last, ran, agree, lockstep⟩ := typed_leads rotation _ _ _ _ start run
    obtain ⟨clean, ended⟩ := lockstep.finished whole
    refine ⟨typed, mcDecodePacket_packet_iff.mpr ⟨selected, last, chosen, ?_, clean, ended⟩, agree⟩
    rw [decode]
    exact Prog.bind_some ran
  have back : ∀ decoded, packet = some decoded → ∃ move, read = some move := by
    intro decoded accepted
    obtain ⟨_, after, same, run, -, whole⟩ := mcDecodePacket_packet_iff.mp accepted
    rw [chosen] at same
    cases same
    rw [decode] at run
    obtain ⟨typed, _, run⟩ := Program.map_eq_some run
    obtain ⟨move, last, ran, -, lockstep⟩ := reader_leads supported rotation _ _ _ _ start.symm run
    obtain ⟨clean, ended⟩ := lockstep.finished whole
    rw [← moveReader_eq] at ran
    exact ⟨move, readWhole_eq_some.mpr ⟨last, ran, clean, ended⟩⟩
  refine ⟨⟨fun some => ?_, fun some => ?_⟩, fun move accepted decoded returned => ?_⟩
  · obtain ⟨move, accepted⟩ := Option.ne_none_iff_exists'.mp some
    obtain ⟨typed, returned, -⟩ := forth move accepted
    rw [returned]
    exact Option.some_ne_none _
  · obtain ⟨decoded, returned⟩ := Option.ne_none_iff_exists'.mp some
    obtain ⟨move, accepted⟩ := back decoded returned
    rw [accepted]
    exact Option.some_ne_none _
  · obtain ⟨typed, there, agree⟩ := forth move accepted
    rw [Option.mem_def, there] at returned
    exact ⟨typed, (Option.some.inj returned).symm, agree⟩

/-- A path of one step on 777 is a move to both. -/
theorem entityMove_decoders_agree_step :
    let library := plainLibrary ["rel_entity_move"] 96 (by decide)
    let payload : List UInt8 := [5, 3, 0, 0, 1, 0, 2, 0, 3]
    (readWhole (moveReader 777 false) payload .strict none).1 ≠ none ∧
      (mcDecodePacket library (playArguments 777 1 0 1 payload 96) none).packet ≠ none := by
  intro library payload
  have read : (readWhole (moveReader 777 false) payload .strict none).1 ≠ none := by
    decide +kernel
  exact ⟨read, (entityMove_decoders_agree library (playArguments 777 1 0 1 payload 96) .strict none
    none false ⟨.clientbound, "rel_entity_move", .relativeEntityMove⟩ rfl rfl rfl).1.mp read⟩

end McProtocol
