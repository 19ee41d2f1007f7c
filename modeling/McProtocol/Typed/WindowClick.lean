import McProtocol.Typed.PlainItems

/-! # Clicks with an empty hand

A click that carries nothing is built and decoded in six layouts. The builder checks its numbers
before it writes, the decoder after it has read.
-/

namespace McProtocol

/-- The values of the C structure. -/
structure McEmptyWindowClick.Representable (value : McEmptyWindowClick) : Prop where
  windowId : IsInt32 value.windowId
  stateId : IsInt32 value.stateId
  slot : -2 ^ 15 ≤ value.slot ∧ value.slot < 2 ^ 15
  mouseButton : -2 ^ 7 ≤ value.mouseButton ∧ value.mouseButton < 2 ^ 7
  actionNumber : -2 ^ 15 ≤ value.actionNumber ∧ value.actionNumber < 2 ^ 15
  mode : IsInt32 value.mode

/-- The ids of windows that a release can name. -/
def IsWindowId (protocol windowId : Int) : Prop :=
  if protocol ≤ 5 then -2 ^ 7 ≤ windowId ∧ windowId < 2 ^ 7
  else if protocol ≤ 767 then 0 ≤ windowId ∧ windowId < 2 ^ 8
  else 0 ≤ windowId

/-- What the builder insists on. -/
structure McEmptyWindowClick.Accepted (value : McEmptyWindowClick) (protocol : Int) : Prop where
  supported : mcProtocolSupported protocol = true
  stateId : 0 ≤ value.stateId
  mode : 0 ≤ value.mode ∧ value.mode ≤ 6
  windowId : IsWindowId protocol value.windowId

def windowIdBytes (protocol windowId : Int) : List UInt8 :=
  if protocol ≤ 767 then [toByte windowId] else encodeVarint windowId

/-- The carried item, which is none. -/
def emptyHandBytes (protocol : Int) : List UInt8 :=
  if protocol < 770 then plainItemBytes protocol 0 0 else [0]

/-- What a click did, and what it carried. -/
def clickTailBytes (protocol : Int) (value : McEmptyWindowClick) : List UInt8 :=
  if protocol ≤ 754 then
    int16Bytes value.actionNumber ++ ([toByte value.mode] ++ emptyHandBytes protocol)
  else
    (if protocol = 755 then [toByte value.mode] else encodeVarint value.mode) ++
      (encodeVarint 0 ++ emptyHandBytes protocol)

def clickBytes (protocol : Int) (value : McEmptyWindowClick) : List UInt8 :=
  windowIdBytes protocol value.windowId ++
    ((if 756 ≤ protocol then encodeVarint value.stateId else []) ++
      (int16Bytes value.slot ++ ([toByte value.mouseButton] ++ clickTailBytes protocol value)))

section builder

variable {protocol : Int} {value : McEmptyWindowClick}

theorem emits_windowId (protocol windowId : Int) :
    Emits (if protocol ≤ 5 then mcPacketI8 windowId
      else if protocol ≤ 767 then mcPacketU8 (toByte windowId)
      else mcPacketVarint windowId) (· = windowIdBytes protocol windowId) := by
  unfold windowIdBytes
  split_ifs
  · exact .i8 _
  · omega
  · exact .u8 _
  · exact .varint _

theorem emits_emptyHand (supported : mcProtocolSupported protocol = true) :
    Emits (if protocol < 770 then mcPacketPlainItem protocol 0 0 else mcPacketBool false)
      (· = emptyHandBytes protocol) := by
  unfold emptyHandBytes
  split_ifs
  · exact (emits_plainItem protocol 0 0).congr fun bytes => and_iff_right
      ⟨supported, by decide, by decide, fun _ => by decide⟩
  · exact .bool false

theorem emits_clickTail (supported : mcProtocolSupported protocol = true) :
    Emits (if protocol ≤ 754 then do
        mcPacketI16 value.actionNumber
        mcPacketI8 value.mode
        mcPacketPlainItem protocol 0 0
      else do
        (if protocol = 755 then mcPacketI8 value.mode else mcPacketVarint value.mode)
        mcPacketVarint 0
        if protocol < 770 then mcPacketPlainItem protocol 0 0 else mcPacketBool false)
      (· = clickTailBytes protocol value) := by
  have hand := emits_emptyHand supported
  unfold clickTailBytes
  by_cases old : protocol ≤ 754
  · have plain : protocol < 770 := by omega
    simp only [if_pos plain] at hand
    simp only [if_pos old]
    refine (Emits.bind (.i16 _) (.bind (.i8 _) hand)).congr fun bytes => ?_
    simp [toByte]
  · simp only [if_neg old]
    refine (Emits.bind (.either (.i8 _) (.varint _)) (.bind (.varint _) hand)).congr fun bytes => ?_
    by_cases first : protocol = 755
    · simp [first, toByte]
    · simp [first]

/-- The checks of the builder, of a click that carries nothing. -/
theorem accepted_iff :
    ¬ (mcProtocolSupported protocol = false
        ∨ value.stateId < 0 ∨ value.mode < 0 ∨ 6 < value.mode ∨ (0 : Int) < 0 ∨ (127 : Int) < 0
        ∨ (0 : Int) ≠ 0 ∧ (0 : Int) ≤ 0 ∨ 755 ≤ protocol ∧ (0 : Int) ≠ 0
        ∨ protocol ≤ 5 ∧ (value.windowId < -128 ∨ 127 < value.windowId)
        ∨ 47 ≤ protocol ∧ protocol ≤ 767 ∧ (value.windowId < 0 ∨ 255 < value.windowId)
        ∨ 768 ≤ protocol ∧ value.windowId < 0) ↔
      value.Accepted protocol := by
  constructor
  · intro good
    simp only [not_or, Bool.not_eq_false] at good
    obtain ⟨supported, stateId, low, high, -, -, -, -, legacy, byte, late⟩ := good
    have gap : protocol ≤ 5 ∨ 47 ≤ protocol :=
      of_supported (P := fun protocol => protocol ≤ 5 ∨ 47 ≤ protocol) (by decide) supported
    refine ⟨supported, by omega, by omega, ?_⟩
    unfold IsWindowId
    split_ifs <;> omega
  · rintro ⟨supported, stateId, mode, windowId⟩
    simp only [not_or, Bool.not_eq_false]
    unfold IsWindowId at windowId
    refine ⟨supported, by omega, by omega, by omega, by omega, by omega, by omega, by omega, ?_⟩
    split_ifs at windowId <;> omega

theorem emits_emptyWindowClick :
    Emits (mcPacketEmptyWindowClick protocol value) fun bytes =>
      value.Accepted protocol ∧ bytes = clickBytes protocol value := by
  refine (Emits.checkedThen fun good => .bind (emits_windowId protocol value.windowId)
    (.bind (.when (.varint _)) (.bind (.i16 _) (.bind (.i8 _) (emits_clickTail ?_))))).congr
      fun bytes => ?_
  · simp only [not_or, Bool.not_eq_false] at good
    exact good.1
  · simp only [clickBytes]
    refine and_congr accepted_iff ⟨?_, ?_⟩
    · rintro ⟨_, _, rfl, rfl, state, _, rfl, wrote, _, _, rfl, rfl, _, _, rfl, rfl, rfl⟩
      have same : state = if 756 ≤ protocol then encodeVarint value.stateId else [] := by
        split_ifs at wrote ⊢ <;> exact wrote
      rw [same]
      rfl
    · rintro rfl
      refine ⟨_, _, rfl, rfl, _, _, rfl, ?_, _, _, rfl, rfl, _, _, rfl, rfl, rfl⟩
      split_ifs <;> rfl

end builder

section decoder

variable {protocol : Int} {value : McEmptyWindowClick} {mode : McDecodeMode}
variable {validators : Validators}

/-- The absent item behind a click. -/
def emptyHand (protocol : Int) : McItemStackView :=
  { McItemStackView.absent (Validators.clickWireKind protocol) with
    encoded := emptyHandBytes protocol }

/-- A click without changed slots and with an empty hand. -/
def emptyClick (protocol : Int) (value : McEmptyWindowClick) : McWindowClickPacket where
  windowId := value.windowId
  stateId := if 756 ≤ protocol then value.stateId else 0
  slot := value.slot
  mouseButton := value.mouseButton
  actionNumber := if protocol ≤ 754 then value.actionNumber else 0
  mode := value.mode
  changedSlotCount := 0
  changedSlots := []
  carriedItem := emptyHand protocol
  hasStateId := decide (756 ≤ protocol)
  hasActionNumber := decide (protocol ≤ 754)
  hashedSlots := decide (770 ≤ protocol)

theorem reads_windowId {windowId : Int} (int : IsInt32 windowId)
    (known : IsWindowId protocol windowId) :
    Reads mode (typedReadContainerId protocol (decide (protocol ≤ 5))).run windowId
      (windowIdBytes protocol windowId) := by
  have gap : protocol ≤ 767 ↔ ¬ 768 ≤ protocol := by omega
  unfold typedReadContainerId windowIdBytes
  unfold IsWindowId at known
  by_cases late : 768 ≤ protocol
  · rw [if_pos late, if_neg (by omega)]
    exact .varint int
  · rw [if_neg late, if_pos (gap.mpr late)]
    by_cases legacy : protocol ≤ 5
    · rw [if_pos legacy] at known
      simp only [legacy, decide_true, if_true]
      exact .i8 known.1 known.2
    · rw [if_neg legacy, if_pos (gap.mpr late)] at known
      simp only [legacy, decide_false, Bool.false_eq_true, if_false]
      exact (Reads.u8 _).thenPure (.returning (toNat_toByte known.1 known.2))

theorem reads_stateId {stateId : Int} (int : IsInt32 stateId) (natural : 0 ≤ stateId) :
    Reads mode (readStateId protocol).run (if 756 ≤ protocol then stateId else 0)
      (if 756 ≤ protocol then encodeVarint stateId else []) := by
  unfold readStateId
  split_ifs
  · exact .rescue ((Reads.varint int).thenPure (.after (.require natural) (.pure _)))
  · exact .pure 0

theorem reads_emptyHand (supported : mcProtocolSupported protocol = true) :
    Reads mode (validators.mcReaderItemStack protocol (Validators.clickWireKind protocol)).run
      (emptyHand protocol) (emptyHandBytes protocol) := by
  unfold emptyHand emptyHandBytes Validators.clickWireKind
  by_cases hashed : 770 ≤ protocol
  · have late : ¬ protocol < 770 := by omega
    simp only [if_pos hashed, if_neg late]
    exact Reads.itemStack supported (.thenPure (.bool false) (.pure _))
  · have early : protocol < 770 := by omega
    simp only [if_neg hashed, if_pos early]
    exact reads_noItem supported

/-- The end of a click, in the layout of the release. -/
theorem reads_clickTail (supported : mcProtocolSupported protocol = true)
    (representable : value.Representable) (few : 0 ≤ value.mode ∧ value.mode ≤ 6) :
    Reads mode (if protocol ≤ 754 then validators.readOldClick protocol
        else validators.readClick protocol).run
      ⟨if protocol ≤ 754 then value.actionNumber else 0, value.mode, 0, [], emptyHand protocol⟩
      (clickTailBytes protocol value) := by
  have hand : Reads mode (validators.mcReaderItemStack protocol
      (Validators.clickWireKind protocol)).run (emptyHand protocol) (emptyHandBytes protocol) :=
    reads_emptyHand supported
  unfold clickTailBytes
  by_cases old : protocol ≤ 754
  · have plain : Validators.clickWireKind protocol = .full := if_neg (by omega)
    rw [plain] at hand
    simp only [if_pos old]
    exact .bind (.i16 representable.actionNumber.1 representable.actionNumber.2)
      (.bind (.i8 (by omega) (by omega)) (.thenPure hand (.pure _)))
  · simp only [if_neg old]
    have moded : Reads mode (if protocol = 755 then mcReaderI8 else mcReaderVarint :
        DecodeM protocol Int).run value.mode
        (if protocol = 755 then [toByte value.mode] else encodeVarint value.mode) := by
      split_ifs
      · exact .i8 (by omega) (by omega)
      · exact .varint representable.mode
    have unchanged : Reads mode (Prog.iterate (fun _ =>
        (validators.skipChangedSlot protocol).run) (0 : Int).toNat ()) () [] := .pure ()
    have none : Reads mode (typedCount 0 mcMaxContainerSlots).run () [] :=
      .typedCount (Int.le_refl 0) (by decide)
    exact .bind moded (.bind (.varint (by decide)) (.after none
      (unchanged.slicedThen (.thenPure hand (.pure _)))))

theorem reads_windowClick (accepted : value.Accepted protocol)
    (representable : value.Representable) :
    Reads mode (validators.typedDecodeWindowClick protocol).run (emptyClick protocol value)
      (clickBytes protocol value) := by
  have known := accepted.windowId
  have low : (if protocol ≤ 5 then -2 ^ 7 else 0) ≤ value.windowId := by
    unfold IsWindowId at known
    split_ifs at known ⊢ <;> omega
  exact .bind (reads_windowId representable.windowId known)
    (.bind (reads_stateId representable.stateId accepted.stateId)
      (.bind (.i16 representable.slot.1 representable.slot.2)
        (.bind (.i8 representable.mouseButton.1 representable.mouseButton.2)
          (.thenPure (reads_clickTail accepted.supported representable accepted.mode)
            (.after (.typedRequire ⟨accepted.mode.1, accepted.mode.2, low⟩) (.pure _))))))

end decoder

section roundTrip

variable (others : McPacketCatalog) (validators : Validators) (layout : PacketLayout)

/-- What the builder wrote decodes to the click it was given, with an empty hand and no changed
slots. -/
theorem windowClick_roundTrip (arguments : McDecodeArguments) (payload : List UInt8)
    (error : Option McError)
    (receives : arguments.Receives (generatedLibrary others validators layout) "window_click" payload)
    (value : McEmptyWindowClick) (representable : value.Representable)
    (builds : Builds (mcPacketEmptyWindowClick arguments.protocol value) payload) :
    ∃ click, (mcDecodePacket (generatedLibrary others validators layout) arguments error).packet =
        some (.windowClick click) ∧
      click.windowId = value.windowId ∧ click.slot = value.slot ∧
      click.mouseButton = value.mouseButton ∧ click.mode = value.mode ∧
      (756 ≤ arguments.protocol → click.stateId = value.stateId) ∧
      (arguments.protocol ≤ 754 → click.actionNumber = value.actionNumber) ∧
      click.changedSlotCount = 0 ∧ click.changedSlots = [] ∧ click.carriedItem.present = false := by
  obtain ⟨accepted, rfl⟩ := emits_emptyWindowClick.payload builds
  have typed : Typed (generatedLibrary others validators layout) arguments.protocol
      "window_click" :=
    ⟨accepted.supported, packetCatalog_listed accepted.supported (by simp [lastingPackets]),
      by decide⟩
  exact ⟨_, receives.packet_eq_some typed (reads_windowClick accepted representable).mapDecode,
    rfl, rfl, rfl, rfl, fun late => if_pos late, fun early => if_pos early, rfl, rfl, rfl⟩

/-- A click beside an inventory on 47. -/
theorem windowClick_roundTrip_outside :
    let library := generatedLibrary ⟨fun _ _ _ => []⟩ (plainLibrary [] 4 (by decide)).validators
      (plainLibrary [] 4 (by decide)).layout
    ∃ click, (mcDecodePacket library (playArguments 47 0
        (library.catalog.mcPacketId 47 .play .serverbound "window_click") 1
          [0, 252, 25, 0, 0, 7, 4, 255, 255] 4) none).packet = some (.windowClick click) ∧
      click.windowId = 0 ∧ click.slot = -999 ∧ click.mouseButton = 0 ∧ click.mode = 4 ∧
      (756 ≤ (47 : Int) → click.stateId = 0) ∧ ((47 : Int) ≤ 754 → click.actionNumber = 7) ∧
      click.changedSlotCount = 0 ∧ click.changedSlots = [] ∧ click.carriedItem.present = false :=
  windowClick_roundTrip ⟨fun _ _ _ => []⟩ (plainLibrary [] 4 (by decide)).validators
    (plainLibrary [] 4 (by decide)).layout _ _ none
    (playArguments_receives _ 47 "window_click" [0, 252, 25, 0, 0, 7, 4, 255, 255]
      (show 4 ≤ 4 from Nat.le_refl 4)) ⟨0, 0, -999, 0, 7, 4⟩
    ⟨by decide, by decide, by decide, by decide, by decide, by decide⟩
    ⟨9, ⟨[0, 252, 25, 0, 0, 7, 4, 255, 255], 9, false⟩, by decide +kernel, rfl⟩

end roundTrip

end McProtocol
