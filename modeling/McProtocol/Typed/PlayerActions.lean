import McProtocol.Typed.BlockPlace
import McProtocol.Typed.WindowClick

/-! # Small packets of a player

What is built and decoded of the packets that select, close, swing, steer, fly and use. Where a
builder takes more than the decoder of its packet, the decoder says what is left.
-/

namespace McProtocol

variable {mode : McDecodeMode} {protocol : Int}

theorem emits_heldItemSlot (slot : Int) :
    Emits (mcPacketHeldItemSlot protocol slot) fun bytes =>
      mcProtocolSupported protocol = true ∧ (0 ≤ slot ∧ slot ≤ 8) ∧ bytes = int16Bytes slot := by
  refine (Emits.checked (.i16 slot)).congr fun bytes => ?_
  simp only [not_or, Bool.not_eq_false, not_lt, and_assoc, int16Bytes]

theorem reads_heldItemSlot {slot : Int} (inside : 0 ≤ slot ∧ slot ≤ 8) :
    Reads mode (typedDecodeHeldItemSlot .serverbound protocol).run ⟨slot⟩ (int16Bytes slot) := by
  unfold typedDecodeHeldItemSlot
  simp only [if_true]
  apply Reads.thenPure (.i16 (by omega) (by omega))
  exact .after (.typedRequire inside) (.pure _)

theorem emits_closeWindow (windowId : Int) :
    Emits (mcPacketCloseWindow protocol windowId) fun bytes =>
      mcProtocolSupported protocol = true ∧ 0 ≤ windowId ∧ (protocol ≤ 767 → windowId ≤ 255) ∧
        bytes = windowIdBytes protocol windowId := by
  refine (Emits.checked (.either (.u8 _) (.varint _))).congr fun bytes => ?_
  unfold windowIdBytes
  simp only [not_or, Bool.not_eq_false, not_lt, not_and, and_assoc]
  split_ifs <;> rfl

theorem reads_closeWindow {windowId : Int} (int : IsInt32 windowId) (natural : 0 ≤ windowId)
    (small : protocol ≤ 767 → windowId ≤ 255) :
    Reads mode (typedDecodeCloseWindow protocol).run ⟨windowId⟩
      (windowIdBytes protocol windowId) := by
  have windowed : Reads mode (if protocol ≤ 767 then do
      let window ← mcReaderU8
      pure (window.toNat : Int)
    else mcReaderVarint : DecodeM protocol Int).run windowId (windowIdBytes protocol windowId) := by
    unfold windowIdBytes
    by_cases early : protocol ≤ 767
    · have short := small early
      simp only [if_pos early]
      apply Reads.thenPure (.u8 _)
      exact .returning (toNat_toByte natural (by omega))
    · simp only [if_neg early]
      exact .varint int
  exact windowed.thenPure (.after (.typedRequire natural) (.pure _))

/-- 47 and 777 have no body. -/
def armBytes (protocol entityId hand : Int) : List UInt8 :=
  if protocol ≤ 5 then int32Bytes entityId ++ [1]
  else if 107 ≤ protocol ∧ protocol < 777 then encodeVarint hand
  else []

/-- What is left of a swing on the wire. -/
def armOf (protocol entityId hand : Int) : McArmAnimationPacket where
  entityId := if protocol ≤ 5 then entityId else 0
  hand := if 107 ≤ protocol ∧ protocol < 777 then hand else 0

/-- What the builder insists on. -/
structure IsSwing (protocol entityId hand : Int) : Prop where
  supported : mcProtocolSupported protocol = true
  entity : protocol ≤ 5 → 0 ≤ entityId
  handed : 107 ≤ protocol → 0 ≤ hand ∧ hand ≤ 1
  main : 777 ≤ protocol → hand = 0

/-- A check with nothing behind it. -/
theorem Emits.refuseWhen {condition : Prop} [Decidable condition] :
    Emits (McProtocol.refuseWhen condition) fun bytes => ¬ condition ∧ bytes = [] where
  complete := by
    rintro bytes ⟨good, rfl⟩
    exact .refuseWhen good
  sound := by
    intro packet after inside run
    obtain ⟨good, rfl⟩ := refuseWhen_eq_some run
    exact ⟨[], ⟨good, rfl⟩, by simpa using inside, (McPacket.append_nil inside).symm⟩

theorem emits_armAnimation (entityId hand : Int) :
    Emits (mcPacketArmAnimation protocol entityId hand) fun bytes =>
      IsSwing protocol entityId hand ∧ bytes = armBytes protocol entityId hand := by
  refine (Emits.checked (.either (.bind (.i32 _) (.i8 1)) (.either .refuseWhen
    (.when (.varint hand))))).congr fun bytes => ?_
  have checks : ¬ (mcProtocolSupported protocol = false ∨ protocol ≤ 5 ∧ entityId < 0
      ∨ 107 ≤ protocol ∧ (hand < 0 ∨ 1 < hand)) ↔
      mcProtocolSupported protocol = true ∧ (protocol ≤ 5 → 0 ≤ entityId) ∧
        (107 ≤ protocol → 0 ≤ hand ∧ hand ≤ 1) := by
    simp only [not_or, Bool.not_eq_false, not_and, not_lt]
  rw [checks]
  unfold armBytes
  by_cases legacy : protocol ≤ 5
  · simp only [if_pos legacy]
    constructor
    · rintro ⟨⟨supported, entity, handed⟩, _, _, rfl, rfl, rfl⟩
      exact ⟨⟨supported, entity, handed, by omega⟩, rfl⟩
    · rintro ⟨⟨supported, entity, handed, -⟩, rfl⟩
      exact ⟨⟨supported, entity, handed⟩, _, _, rfl, rfl, rfl⟩
  by_cases late : 777 ≤ protocol
  · have bodiless : ¬ (107 ≤ protocol ∧ protocol < 777) := by omega
    simp only [if_neg legacy, if_pos late, if_neg bodiless, not_not]
    constructor
    · rintro ⟨⟨supported, entity, handed⟩, main, rfl⟩
      exact ⟨⟨supported, entity, handed, fun _ => main⟩, rfl⟩
    · rintro ⟨⟨supported, entity, handed, main⟩, rfl⟩
      exact ⟨⟨supported, entity, handed⟩, main late, rfl⟩
  · simp only [if_neg legacy, if_neg late]
    have handed (supported : mcProtocolSupported protocol = true) :
        protocol ≠ 47 ↔ 107 ≤ protocol ∧ protocol < 777 := by
      have gap := of_supported
        (P := fun protocol => protocol ≤ 5 ∨ protocol = 47 ∨ 107 ≤ protocol) (by decide) supported
      omega
    constructor
    · rintro ⟨⟨supported, entity, near⟩, wrote⟩
      refine ⟨⟨supported, entity, near, by omega⟩, ?_⟩
      simp only [handed supported] at wrote
      split_ifs at wrote ⊢ <;> exact wrote
    · rintro ⟨⟨supported, entity, near, -⟩, rfl⟩
      refine ⟨⟨supported, entity, near⟩, ?_⟩
      simp only [handed supported]
      split_ifs <;> rfl

theorem reads_armAnimation {entityId hand : Int} (swing : IsSwing protocol entityId hand)
    (entity : IsInt32 entityId) :
    Reads mode (typedDecodeArmAnimation protocol).run (armOf protocol entityId hand)
      (armBytes protocol entityId hand) := by
  unfold typedDecodeArmAnimation armOf armBytes
  by_cases legacy : protocol ≤ 5
  · have early : ¬ (107 ≤ protocol ∧ protocol < 777) := by omega
    simp only [if_pos legacy, if_neg early]
    apply Reads.rescue
    apply Reads.bind (.i32 entity)
    exact .thenPure (.i8 (by decide) (by decide)) (.after (.require ⟨swing.entity legacy, rfl⟩)
      (.pure _))
  · simp only [if_neg legacy]
    by_cases late : 777 ≤ protocol
    · have bodiless : ¬ (107 ≤ protocol ∧ protocol < 777) := by omega
      simp only [if_pos late, if_neg bodiless]
      exact .pure _
    · simp only [if_neg late]
      by_cases handed : 107 ≤ protocol
      · have near := swing.handed handed
        have int : IsInt32 hand := ⟨by omega, by omega⟩
        simp only [if_pos handed, if_pos (show 107 ≤ protocol ∧ protocol < 777 by omega)]
        have read : Reads mode readHand.run hand (encodeVarint hand) :=
          .rescue (.thenPure (.varint int) (.after (.require near) (.pure _)))
        exact read.thenPure (.pure _)
      · simp only [if_neg handed, if_neg (show ¬ (107 ≤ protocol ∧ protocol < 777) by omega)]
        exact .pure _

theorem emits_playerInput (flags : UInt8) :
    Emits (mcPacketPlayerInput protocol flags) fun bytes =>
      mcProtocolSupported protocol = true ∧ 768 ≤ protocol ∧ flags &&& 0x80 = 0 ∧
        bytes = [flags] := by
  refine (Emits.checked (.u8 flags)).congr fun bytes => ?_
  simp only [not_or, Bool.not_eq_false, not_lt, not_not, and_assoc]

theorem reads_playerInput {flags : UInt8} (known : flags &&& 0x80 = 0) :
    Reads mode (typedDecodePlayerInput protocol true).run ⟨0, 0, flags, true⟩ [flags] := by
  unfold typedDecodePlayerInput
  simp only [if_true]
  apply Reads.rescue
  exact .thenPure (.u8 flags) (.after (.require known) (.pure _))

/-- The speeds are sent before 735. -/
def abilitiesBytes (protocol : Int) (value : McPlayerAbilities) : List UInt8 :=
  [value.flags] ++ if protocol < 735 then BigEndian.bytes 4 value.flyingSpeed.bits.toNat ++
    BigEndian.bytes 4 value.walkingSpeed.bits.toNat else []

def abilitiesOf (protocol : Int) (value : McPlayerAbilities) : McPlayerAbilities :=
  if protocol < 735 then value else ⟨value.flags, 0, 0⟩

theorem emits_playerAbilities (value : McPlayerAbilities) :
    Emits (mcPacketPlayerAbilities protocol value) fun bytes =>
      mcProtocolSupported protocol = true ∧ bytes = abilitiesBytes protocol value := by
  refine (Emits.checked (.bind (.u8 _) (.when (.bind (.float _) (.float _))))).congr fun bytes => ?_
  unfold abilitiesBytes
  rw [Bool.not_eq_false]
  apply and_congr_right
  intro supported
  split_ifs with speeds
  · simp
  · simp

/-- What the decoder insists on, beyond the builder. -/
structure McPlayerAbilities.Decodable (value : McPlayerAbilities) (protocol : Int) : Prop where
  flags : value.flags &&& 0xf0 = 0
  finite : protocol < 735 →
    value.flyingSpeed.isFinite = true ∧ value.walkingSpeed.isFinite = true
  forward : protocol < 735 → ¬ value.flyingSpeed < 0 ∧ ¬ value.walkingSpeed < 0

theorem reads_abilities {value : McPlayerAbilities} (decodable : value.Decodable protocol) :
    Reads .vanillaCompat (typedDecodeAbilities protocol .serverbound).run
      (abilitiesOf protocol value) (abilitiesBytes protocol value) := by
  have flags : Reads .vanillaCompat (DecodeM.orInvalid (do
      let flags ← mcReaderU8
      require (flags &&& 0xf0 = 0)
      pure flags : DecodeM protocol UInt8)).run value.flags [value.flags] :=
    .rescue (.thenPure (.u8 _) (.after (.require decodable.flags) (.pure _)))
  apply Reads.bind flags
  unfold abilitiesOf
  by_cases speeds : protocol < 735
  · simp only [speeds, or_true, if_true]
    apply Reads.rescue
    apply Reads.bind (.float _)
    exact .thenPure (.float _) (.after (.require (decodable.finite speeds))
      (.after (.require (decodable.forward speeds)) (.after .requireStrict (.pure _))))
  · simp only [speeds, or_false, reduceCtorEq, if_false]
    exact .pure _

/-- What runs behind a part that was read. -/
theorem McReader.Before.behind {α β : Type} {program : Prog McReader α} {k : α → Prog McReader β}
    {a : α} {bytes rest : List UInt8} {reader : McReader} {outcome : Option β × McReader}
    (before : reader.Before (bytes ++ rest)) (reads : Reads reader.mode program a bytes)
    (run : (program >>= k) reader = outcome) : k a (reader.advance bytes.length) = outcome :=
  (Prog.bind_some (reads reader rest rfl before)).symm.trans run

theorem abilities_decodable {value packet : McPlayerAbilities} {reader after : McReader}
    (before : reader.Before (abilitiesBytes protocol value))
    (run : (typedDecodeAbilities protocol .serverbound).run reader = (some packet, after)) :
    value.Decodable protocol := by
  obtain ⟨flags, middle, flagged, run⟩ := Prog.bind_eq_some run
  have flagged := before.behind (.u8 _) (Prog.rescue_eq_some flagged)
  obtain ⟨_, last, passed, returned⟩ := Prog.bind_eq_some flagged
  obtain ⟨known, rfl⟩ := require_eq_some passed
  cases returned
  have before := before.advance
  by_cases speeds : protocol < 735
  · simp only [if_pos speeds] at before
    simp only [speeds, or_true, if_true] at run
    have run := before.behind (.float _) (Prog.rescue_eq_some run)
    have run := before.advance.behind (.float _) run
    obtain ⟨_, second, passed, run⟩ := Prog.bind_eq_some run
    obtain ⟨finite, rfl⟩ := require_eq_some passed
    obtain ⟨_, third, passed, -⟩ := Prog.bind_eq_some run
    exact ⟨known, fun _ => finite, fun _ => (require_eq_some passed).1⟩
  · exact ⟨known, fun now => absurd now speeds, fun now => absurd now speeds⟩

/-- What is left of a dig on the wire. -/
def digOf (protocol : Int) (value : McBlockDig) : McBlockDig :=
  { value with sequence := if 759 ≤ protocol then value.sequence else 0 }

theorem reads_blockDig {value : McBlockDig} (supported : mcProtocolSupported protocol = true)
    (valid : value.Valid) (location : value.location.Reachable protocol)
    (sequence : IsInt32 value.sequence) :
    Reads mode (typedDecodeBlockDig protocol).run (digOf protocol value)
      (digBytes protocol (wireStatus protocol value.status) value) := by
  obtain ⟨⟨low, high⟩, ⟨least, greatest⟩, natural⟩ := valid
  obtain ⟨known, back⟩ := (wireStatus_iff low).mpr
    ⟨(rfl : wireStatus protocol value.status = _), fun _ => high⟩
  have status : 0 ≤ wireStatus protocol value.status ∧ wireStatus protocol value.status ≤ 7 := by
    unfold wireStatus
    split_ifs <;> omega
  have body : Reads mode (readBlockDig protocol).run
      { digOf protocol value with status := wireStatus protocol value.status }
      (digBytes protocol (wireStatus protocol value.status) value) := by
    unfold readBlockDig digBytes digOf
    unfold McPosition.Reachable at location
    by_cases legacy : protocol ≤ 5
    · rw [if_pos legacy] at location
      obtain ⟨x, inside, z⟩ := location
      have unnumbered : ¬ 759 ≤ protocol := by omega
      simp only [if_pos legacy, if_neg unnumbered]
      apply Reads.bind (.i8 (by omega) (by omega))
      apply Reads.bind (.i32 x)
      apply Reads.bind (.u8 _)
      apply Reads.bind (.i32 z)
      apply Reads.thenPure (.i8 (by omega) (by omega))
      apply Reads.returning
      rw [toNat_toByte inside.1 (by omega)]
    · rw [if_neg legacy] at location
      simp only [if_neg legacy]
      apply Reads.bind (.varint ⟨by omega, by omega⟩)
      apply Reads.bind ((accepts_position mode protocol).complete ⟨supported, location, rfl⟩)
      apply Reads.bind (.i8 (by omega) (by omega))
      by_cases numbered : 759 ≤ protocol
      · simp only [if_pos numbered]
        exact .thenPure (.varint sequence) (.pure _)
      · simp only [if_neg numbered]
        exact .after (.pure _) (.pure _)
  have later : 0 ≤ (digOf protocol value).sequence := by
    unfold digOf
    dsimp only
    split_ifs <;> omega
  refine body.thenPure (.after (.typedRequire known) ?_)
  dsimp only
  rw [back]
  exact .after (.typedRequire ⟨low, high, least, greatest, later⟩) (.pure _)

theorem emits_respawnRequest :
    Emits (mcPacketRespawnRequest protocol) fun bytes =>
      mcProtocolSupported protocol = true ∧ bytes = [0] := by
  refine (Emits.checked (.either (.i8 0) (.varint 0))).congr fun bytes => ?_
  rw [Bool.not_eq_false, encodeVarint_zero]
  split_ifs <;> rfl

theorem reads_respawnRequest :
    Reads mode (typedDecodeClientCommand protocol).run ⟨0⟩ [0] := by
  have number : Reads mode (if protocol ≤ 5 then mcReaderI8 else mcReaderVarint :
      DecodeM protocol Int).run 0 [0] := by
    split_ifs
    · exact .i8 (by decide) (by decide)
    · exact (Reads.varint (by decide)).of_eq encodeVarint_zero
  have known : (0 : Int) ≤ 0 ∧ (0 : Int) ≤ 2 := by decide
  exact number.thenPure (.after (.typedRequire known) (.pure _))

section use

variable {compressor : Compressor} {value : McUseItem}

/-- Where a block is placed that is none. -/
def airLocation (protocol : Int) : McPosition := ⟨-1, if protocol ≤ 5 then 255 else -1, -1⟩

/-- A use up to 47: a placement against no block. -/
def airBytes (protocol : Int) (item : List UInt8) : List UInt8 :=
  locationBytes protocol (airLocation protocol) ++ ([255] ++ (item ++ [0, 0, 0]))

def useBytes (protocol : Int) (value : McUseItem) : List UInt8 :=
  encodeVarint value.hand ++ ((if 759 ≤ protocol then encodeVarint value.sequence else []) ++
    if 767 ≤ protocol then
      BigEndian.bytes 4 value.yaw.bits.toNat ++ BigEndian.bytes 4 value.pitch.bits.toNat
    else [])

/-- What the builder insists on. -/
structure McUseItem.Accepted (value : McUseItem) (protocol : Int) : Prop where
  supported : mcProtocolSupported protocol = true
  hand : 0 ≤ value.hand ∧ value.hand ≤ 1
  sequence : 0 ≤ value.sequence
  plain : value.heldItemNbtCompressed = false
  finite : value.yaw.isFinite = true ∧ value.pitch.isFinite = true

theorem emits_airLocation :
    Emits (if protocol ≤ 5 then do
        mcPacketI32 (-1)
        mcPacketU8 255
        mcPacketI32 (-1)
      else mcPacketPosition protocol ⟨-1, -1, -1⟩) fun bytes =>
        (protocol ≤ 5 ∨ mcProtocolSupported protocol = true) ∧
          bytes = locationBytes protocol (airLocation protocol) := by
  refine (Emits.either (.bind (.i32 _) (.bind (.u8 255) (.i32 _))) (emits_position protocol _)).congr
    fun bytes => ?_
  have inside : (⟨-1, -1, -1⟩ : McPosition).InRange := ⟨by decide, by decide, by decide⟩
  unfold locationBytes airLocation
  by_cases legacy : protocol ≤ 5
  · simp only [legacy, if_true, true_or, true_and]
    constructor
    · rintro ⟨_, _, rfl, rfl, _, _, rfl, rfl, rfl⟩
      rfl
    · rintro rfl
      exact ⟨_, _, rfl, rfl, _, _, rfl, rfl, rfl⟩
  · simp only [legacy, if_false, false_or, inside, true_and]

theorem emits_useItem :
    Emits (mcPacketUseItem compressor protocol value) fun bytes => value.Accepted protocol ∧
      if protocol ≤ 47 then
        ∃ item, SentItem compressor protocol value.legacy item ∧ bytes = airBytes protocol item
      else bytes = useBytes protocol value := by
  have air : ValidCursor protocol ⟨0⟩ ⟨0⟩ ⟨0⟩ := by
    have inside : InUnit ⟨0⟩ := by decide +kernel
    have whole : Sixteenth ⟨0⟩ := by decide +kernel
    exact ⟨⟨inside, inside, inside⟩, fun _ => ⟨whole, whole, whole⟩⟩
  refine (Emits.checked (.either (.bind emits_airLocation (.bind (.i8 _)
    (.bind (emits_reportedItem rfl) (emits_cursor protocol _ _ _))))
      (.bind (.varint _) (.bind (.when (.varint _)) (.when (.bind (.float _) (.float _))))))).congr
        fun bytes => ?_
  have checks : ¬ (mcProtocolSupported protocol = false ∨ value.hand < 0 ∨ 1 < value.hand
      ∨ value.sequence < 0 ∨ value.heldItemNbtCompressed = true
      ∨ value.yaw.isFinite = false ∨ value.pitch.isFinite = false) ↔ value.Accepted protocol := by
    simp only [not_or, Bool.not_eq_false, Bool.not_eq_true, not_lt]
    constructor
    · rintro ⟨supported, low, high, natural, plain, yaw, pitch⟩
      exact ⟨supported, ⟨low, high⟩, natural, plain, yaw, pitch⟩
    · rintro ⟨supported, ⟨low, high⟩, natural, plain, yaw, pitch⟩
      exact ⟨supported, low, high, natural, plain, yaw, pitch⟩
  rw [checks]
  apply and_congr_right
  intro accepted
  by_cases old : protocol ≤ 47
  · have cursor : cursorBytes protocol ⟨0⟩ ⟨0⟩ ⟨0⟩ = [0, 0, 0] := by
      have none : sixteenths ⟨0⟩ = 0 := by decide +kernel
      rw [cursorBytes, if_pos (by omega), none]
      rfl
    simp only [if_pos old, airBytes, cursor]
    constructor
    · rintro ⟨_, _, rfl, ⟨-, rfl⟩, _, _, rfl, rfl, item, _, rfl, sent, -, rfl⟩
      exact ⟨item, sent, rfl⟩
    · rintro ⟨item, sent, rfl⟩
      exact ⟨_, _, rfl, ⟨.inr accepted.supported, rfl⟩, _, _, rfl, rfl, item, _, rfl, sent, air, rfl⟩
  · simp only [if_neg old, useBytes]
    constructor
    · rintro ⟨_, _, rfl, rfl, sequence, angles, rfl, isSequence, isAngles⟩
      congr 2
      · split_ifs at isSequence ⊢ <;> exact isSequence
      · split_ifs at isAngles ⊢
        · obtain ⟨_, _, rfl, rfl, rfl⟩ := isAngles
          rfl
        · exact isAngles
    · rintro rfl
      refine ⟨_, _, rfl, rfl, _, _, rfl, ?_, ?_⟩
      · split_ifs <;> rfl
      · split_ifs
        · exact ⟨_, _, rfl, rfl, rfl⟩
        · rfl

/-- What is left of a use on the wire, from 107 on. -/
def useOf (protocol : Int) (value : McUseItem) : McUseItem where
  hand := value.hand
  heldItemId := 0
  heldItemCount := 0
  heldItemDamage := 0
  heldItemNbt := .null 0
  sequence := if 759 ≤ protocol then value.sequence else 0
  yaw := if 767 ≤ protocol then value.yaw else 0
  pitch := if 767 ≤ protocol then value.pitch else 0
  heldItemNbtCompressed := false

theorem reads_useItem (late : ¬ protocol ≤ 47) (accepted : value.Accepted protocol)
    (sequence : IsInt32 value.sequence) :
    Reads .vanillaCompat (typedDecodeUseItem protocol).run (useOf protocol value)
      (useBytes protocol value) := by
  have hand : IsInt32 value.hand := ⟨by have := accepted.hand.1; omega, by
    have := accepted.hand.2
    omega⟩
  have numbered : Reads .vanillaCompat (if 759 ≤ protocol then mcReaderVarint else pure 0 :
      DecodeM protocol Int).run (if 759 ≤ protocol then value.sequence else 0)
      (if 759 ≤ protocol then encodeVarint value.sequence else []) := by
    split_ifs
    · exact .varint sequence
    · exact .pure 0
  have natural : 0 ≤ if 759 ≤ protocol then value.sequence else 0 := by
    have natural := accepted.sequence
    split_ifs <;> omega
  have finite : (useOf protocol value).yaw.isFinite = true ∧
      (useOf protocol value).pitch.isFinite = true := by
    have zero : (0 : McFloat).isFinite = true := by decide +kernel
    by_cases angles : 767 ≤ protocol
    · simp only [useOf, if_pos angles]
      exact accepted.finite
    · simp only [useOf, if_neg angles, zero, and_self]
  have valid : Reads .vanillaCompat (typedFiniteRotation (useOf protocol value).yaw
      (useOf protocol value).pitch).run () [] :=
    .rescue (.after (.require finite) .requireStrict)
  have body : Reads .vanillaCompat (readUseItem protocol).run (useOf protocol value)
      (useBytes protocol value) := by
    unfold readUseItem useOf useBytes
    simp only [if_neg late]
    apply Reads.bind (.varint hand)
    apply Reads.bind numbered
    by_cases angles : 767 ≤ protocol
    · simp only [if_pos angles]
      exact .bind (.float _) (.thenPure (.float _) (.pure _))
    · simp only [if_neg angles]
      exact .after (.pure _) (.after (.pure _) (.pure _))
  exact body.thenPure (.after (.typedRequire ⟨accepted.hand.1, accepted.hand.2, natural⟩)
    (.after valid (.pure _)))

/-- A use up to 47, as the placement it is decoded to. -/
structure McUseItem.ReadsBack (value : McUseItem) (place : McBlockPlace) : Prop where
  location : place.location = ⟨-1, -1, -1⟩
  direction : place.direction = -1
  heldItem : place.heldItemId = value.heldItemId ∧ place.heldItemCount = value.heldItemCount ∧
    place.heldItemDamage = value.heldItemDamage

theorem reads_airPlace (old : protocol ≤ 47) (standard : compressor.Standard)
    (supported : mcProtocolSupported protocol = true) {item : List UInt8}
    (sent : SentItem compressor protocol value.legacy item) :
    ∃ place, Reads mode (typedDecodeBlockPlace protocol).run place (airBytes protocol item) ∧
      value.ReadsBack place := by
  obtain ⟨held, isItem, id, count, damage⟩ := sent.isLegacyItem standard
  have inside : if protocol ≤ 5 then 0 ≤ (airLocation protocol).y ∧ (airLocation protocol).y ≤ 255
      else (airLocation protocol).InRange := by
    by_cases legacy : protocol ≤ 5
    · simp [airLocation, legacy]
    · simp only [airLocation, if_neg legacy]
      exact ⟨by decide, by decide, by decide⟩
  have below : decodedLocation protocol (airLocation protocol) = ⟨-1, -1, -1⟩ := by
    unfold decodedLocation airLocation
    by_cases legacy : protocol ≤ 5
    · simp [legacy]
    · simp [legacy]
  have location : Reads mode (readLegacyLocation protocol .allowed).run ⟨-1, -1, -1⟩
      (locationBytes protocol (airLocation protocol)) := by
    rw [← below]
    exact reads_legacyLocation supported (by decide : IsInt32 (-1)) (by decide : IsInt32 (-1)) inside
  obtain ⟨corner, middle, centred⟩ : ∃ corner : McFloat,
      Reads mode (typedReadCursor protocol).run (corner, corner, corner) [0, 0, 0] ∧
        (corner.units == 0) = true := by
    have few : (0 : UInt8) ≤ 16 ∧ (0 : UInt8) ≤ 16 ∧ (0 : UInt8) ≤ 16 := by decide
    refine ⟨.ofInt (0 : UInt8).toNat / 16, ?_, by decide +kernel⟩
    unfold typedReadCursor
    simp only [if_pos (show protocol ≤ 210 by omega)]
    exact .rescue (.bind (.u8 0) (.bind (.u8 0) (.thenPure (.u8 0) (.after (.require few)
      (.pure _)))))
  unfold typedDecodeBlockPlace airBytes
  simp only [if_pos old]
  refine ⟨⟨⟨-1, -1, -1⟩, -1, 0, held.itemId, held.count, held.damage, held.nbt, corner, corner, corner,
    false, false, 0, held.compressed⟩, ?_, rfl, rfl, id, count, damage⟩
  have aside : Reads mode mcReaderI8.run (-1) [255] :=
    (Reads.i8 (by decide : -2 ^ 7 ≤ (-1 : Int)) (by decide)).of_eq (by decide)
  refine .bind location (.bind aside (.bind (accepts_typedReadLegacyItem.complete isItem)
    (.thenPure middle ?_)))
  have sentinel : (((⟨-1, -1, -1⟩ : McPosition) == ⟨-1, -1, -1⟩) && ((-1 : Int) == -1)) = true ∧
      (true && true && true) = true := by decide
  dsimp only
  rw [centred, if_pos (by decide)]
  exact .after (.typedRequire sentinel) (.pure _)

end use

end McProtocol
