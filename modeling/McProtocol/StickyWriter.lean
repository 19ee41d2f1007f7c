import McProtocol.Builders

/-! # A failed packet stays failed

A writer owes two things: a refusal marks the packet, and a marked packet is refused.
Both are read off a program operation by operation, so a builder has them as soon as
its first write does.
-/

namespace McProtocol

/-- Every refusal leaves the packet failed. -/
def Marks (program : WriteM Unit) : Prop :=
  ∀ packet, (program.run packet).1 = none → (program.run packet).2.failed = true

/-- A failed packet is refused. -/
structure Sticky (program : WriteM Unit) : Prop where
  marks : Marks program
  refuses : ∀ packet : McPacket, packet.length ≤ packet.capacity → packet.failed = true →
    (program.run packet).1 = none

section rules

variable {program other : WriteM Unit} {rest : Unit → WriteM Unit}
variable {condition : Prop} {_ : Decidable condition}

namespace Marks

theorem pure : Marks (Pure.pure ()) := by
  intro packet refused
  simp at refused

theorem check : Marks (refuseWhen condition) := by
  intro packet refused
  by_cases bad : condition
  · rw [refuseWhen_bad bad]
    rfl
  · rw [refuseWhen_good bad] at refused
    cases refused

theorem bind (first : Marks program) (then_ : ∀ u, Marks (rest u)) : Marks (program >>= rest) := by
  intro packet refused
  rw [Program.run_bind] at refused ⊢
  rcases run : program.run packet with ⟨_ | u, middle⟩
  · rw [Prog.bind_none run]
    have marked := first packet
    rw [run] at marked
    exact marked rfl
  · rw [Prog.bind_some run] at refused ⊢
    exact then_ u middle refused

theorem when (marks : Marks program) : Marks (.when condition program) := by
  intro packet refused
  rw [Program.run_when] at refused ⊢
  by_cases holds : condition
  · rw [Prog.when_pos holds] at refused ⊢
    exact marks packet refused
  · rw [Prog.when_neg holds] at refused
    cases refused

theorem ite (left : Marks program) (right : Marks other) :
    Marks (if condition then program else other) := by
  by_cases holds : condition
  · rw [if_pos holds]
    exact left
  · rw [if_neg holds]
    exact right

theorem writeEach {α : Type} {write : α → WriteM Unit} (each : ∀ item, Marks (write item))
    (items : List α) : Marks (McProtocol.writeEach write items) := by
  induction items with
  | nil => exact pure
  | cons item items ih => exact bind (each item) fun _ => ih

end Marks

namespace Sticky

theorem data (bytes : Buffer) : Sticky (mcPacketBytes bytes) where
  marks := by
    intro packet refused
    by_cases refuses : packet.Refuses bytes
    · have run : (mcPacketBytes bytes).run packet = (none, packet.fail) := if_pos refuses
      rw [run]
      rfl
    · have run : (mcPacketBytes bytes).run packet = (some (), packet.append bytes.content) :=
        if_neg refuses
      rw [run] at refused
      cases refused
  refuses packet _ failed := by
    have run : (mcPacketBytes bytes).run packet = (none, packet.fail) := if_pos (.inl failed)
    rw [run]

/-- What follows a refusal does not run. -/
theorem first (sticky : Sticky program) (then_ : ∀ u, Marks (rest u)) : Sticky (program >>= rest) where
  marks := sticky.marks.bind then_
  refuses packet inside failed := by
    rcases run : program.run packet with ⟨_ | u, middle⟩
    · rw [Program.run_bind, Prog.bind_none run]
    · have refused := sticky.refuses packet inside failed
      rw [run] at refused
      cases refused

/-- Whatever comes before it leaves a failed packet as it is. -/
theorem after (before : Marks program) (sticky : ∀ u, Sticky (rest u)) :
    Sticky (program >>= rest) where
  marks := before.bind fun u => (sticky u).marks
  refuses packet inside failed := by
    have stuck := (program.lawful.steps packet inside).2 failed
    rcases run : program.run packet with ⟨_ | u, middle⟩
    · rw [Program.run_bind, Prog.bind_none run]
    · rw [run] at stuck
      obtain rfl : packet = middle := stuck.symm
      rw [Program.run_bind, Prog.bind_some run]
      exact (sticky u).refuses packet inside failed

theorem bind (sticky : Sticky program) (then_ : ∀ u, Sticky (rest u)) :
    Sticky (program >>= rest) :=
  sticky.first fun u => (then_ u).marks

theorem check (sticky : ∀ u, Sticky (rest u)) : Sticky (refuseWhen condition >>= rest) :=
  after .check sticky

theorem ite (left : Sticky program) (right : Sticky other) :
    Sticky (if condition then program else other) := by
  by_cases holds : condition
  · rw [if_pos holds]
    exact left
  · rw [if_neg holds]
    exact right

theorem never : Sticky (refuseWhen True) where
  marks := .check
  refuses packet _ _ := by rw [refuseWhen_bad trivial]

end Sticky

end rules

namespace Sticky

theorem u8 (value : UInt8) : Sticky (mcPacketU8 value) := data _

theorem bool (value : Bool) : Sticky (mcPacketBool value) := data _

theorem i8 (value : Int) : Sticky (mcPacketI8 value) := data _

theorem u16 (value : Nat) : Sticky (mcPacketU16 value) := data _

theorem i16 (value : Int) : Sticky (mcPacketI16 value) := data _

theorem u32 (value : Nat) : Sticky (mcPacketU32 value) := data _

theorem i32 (value : Int) : Sticky (mcPacketI32 value) := data _

theorem u64 (value : Nat) : Sticky (mcPacketU64 value) := data _

theorem i64 (value : Int) : Sticky (mcPacketI64 value) := data _

theorem float (value : McFloat) : Sticky (mcPacketFloat value) := data _

theorem double (value : McDouble) : Sticky (mcPacketDouble value) := data _

theorem groups (encoded : Nat) : Sticky (writeGroups encoded) := by
  induction encoded using writeGroups.induct with
  | case1 encoded rest last =>
      rw [writeGroups]
      simp only [rest] at last
      rw [if_pos last]
      exact u8 _
  | case2 encoded rest more ih =>
      rw [writeGroups]
      simp only [rest] at more
      rw [if_neg more]
      exact .bind (u8 _) fun _ => ih

theorem varint (value : Int) : Sticky (mcPacketVarint value) := groups _

theorem varlong (value : Int) : Sticky (mcPacketVarlong value) := groups _

theorem bufferI32 (value : Buffer) : Sticky (mcPacketBufferI32 value) :=
  .check fun _ => .bind (.i32 _) fun _ => .data _

theorem bufferVarint (value : Buffer) : Sticky (mcPacketBufferVarint value) :=
  .check fun _ => .bind (.varint _) fun _ => .data _

theorem stringN (value : List UInt8) : Sticky (mcPacketStringN value) :=
  .check fun _ => .bind (.varint _) fun _ => .data _

theorem position (protocol : Int) (value : McPosition) : Sticky (mcPacketPosition protocol value) :=
  .check fun _ => .u64 _

theorem noItemTag (protocol : Int) : Sticky (noItemTag protocol) := .ite (.i16 _) (.u8 _)

end Sticky

namespace Sticky

theorem nbt (namedRoot : Bool) (encoded : Option Buffer) : Sticky (mcPacketNbt namedRoot encoded) := by
  cases encoded with
  | none => exact never
  | some encoded => exact .check fun _ => .check fun _ => .data _

theorem plainItem (protocol itemId count : Int) :
    Sticky (mcPacketPlainItem protocol itemId count) := by
  refine .check fun _ => .ite ?_ (.ite ?_ (.ite ?_ ?_))
  · exact .first (.u16 _) fun _ => .when
      (Sticky.bind (.u8 _) fun _ => .bind (.u16 _) fun _ => .noItemTag _).marks
  · exact .first (.u16 _) fun _ => .when (Sticky.bind (.u8 _) fun _ => .u8 _).marks
  · exact .first (.bool _) fun _ => .when
      (Sticky.bind (.varint _) fun _ => .bind (.u8 _) fun _ => .u8 _).marks
  · exact .first (.varint _) fun _ => .when
      (Sticky.bind (.varint _) fun _ => .bind (.varint _) fun _ => .varint _).marks

theorem setCreativeSlotDamage (protocol slot itemId count damage : Int) :
    Sticky (mcPacketSetCreativeSlotDamage protocol slot itemId count damage) := by
  refine .check fun _ => .bind (.i16 _) fun _ => .ite (.plainItem _ _ _) ?_
  exact .first (.u16 _) fun _ => .when
    (Sticky.bind (.u8 _) fun _ => .bind (.u16 _) fun _ => .noItemTag _).marks

theorem untrustedComponentItem (protocol itemId count : Int) (added : Items McItemComponentPatch)
    (removed : Items Int) :
    Sticky (mcPacketUntrustedComponentItem protocol itemId count added removed) := by
  have add (patch : McItemComponentPatch) : Marks (packetAddedComponent patch) :=
    (Sticky.check fun _ => .bind (.varint _) fun _ => .bufferVarint _).marks
  have remove (typeId : Int) : Marks (packetRemovedComponent typeId) :=
    (Sticky.check fun _ => .varint _).marks
  refine .check fun _ => .first (.varint _) fun _ => .when (Sticky.marks ?_)
  exact .bind (.varint _) fun _ => .bind (.varint _) fun _ => .first (.varint _) fun _ =>
    .bind (.writeEach add _) fun _ => .writeEach remove _

theorem heldItemSlot (protocol slot : Int) : Sticky (mcPacketHeldItemSlot protocol slot) :=
  .check fun _ => .i16 _

theorem windowClick (protocol : Int) (value : McWindowClick) :
    Sticky (mcPacketWindowClick protocol value) := by
  refine .check fun _ => .bind (.ite (.i8 _) (.ite (.u8 _) (.varint _))) fun _ =>
    .after (.when (Sticky.varint _).marks) fun _ => .bind (.i16 _) fun _ => .bind (.i8 _) fun _ =>
      .ite ?_ ?_
  · exact .bind (.i16 _) fun _ => .bind (.i8 _) fun _ => .plainItem _ _ _
  · exact .bind (.ite (.i8 _) (.varint _)) fun _ => .bind (.varint _) fun _ =>
      .ite (.plainItem _ _ _) (.bool _)

theorem closeWindow (protocol windowId : Int) : Sticky (mcPacketCloseWindow protocol windowId) :=
  .check fun _ => .ite (.u8 _) (.varint _)

theorem containerButton (protocol windowId buttonId : Int) :
    Sticky (mcPacketContainerButton protocol windowId buttonId) :=
  .check fun _ => .ite (.bind (.i8 _) fun _ => .i8 _)
    (.bind (.ite (.u8 _) (.varint _)) fun _ => .varint _)

theorem clientInformation (protocol : Int) (value : McClientInformation) :
    Sticky (mcPacketClientInformation protocol value) := by
  have bits : Sticky (do
      mcPacketBool value.chatColors
      if protocol ≤ 5 then do
        mcPacketU8 value.difficulty
        mcPacketBool value.showCape
      else do
        mcPacketU8 value.skinParts
        .when (107 ≤ protocol) (mcPacketVarint value.mainHand)
        .when (755 ≤ protocol) (mcPacketBool value.textFiltering)
        .when (757 ≤ protocol) (mcPacketBool value.serverListing)
        .when (768 ≤ protocol) (mcPacketVarint value.particleStatus)) :=
    .bind (.bool _) fun _ => .ite (.bind (.u8 _) fun _ => .bool _)
      (.first (.u8 _) fun _ => .bind (.when (Sticky.varint _).marks) fun _ =>
        .bind (.when (Sticky.bool _).marks) fun _ => .bind (.when (Sticky.bool _).marks) fun _ =>
          .when (Sticky.varint _).marks)
  exact .check fun _ => .check fun _ => .bind (.stringN _) fun _ => .bind (.i8 _) fun _ =>
    .ite (.bind (.i8 _) fun _ => bits) (.bind (.varint _) fun _ => bits)

theorem entityAction (protocol : Int) (value : McEntityAction) :
    Sticky (mcPacketEntityAction protocol value) :=
  .check fun _ => .ite (.bind (.i32 _) fun _ => .bind (.i8 _) fun _ => .i32 _)
    (.bind (.varint _) fun _ => .bind (.varint _) fun _ => .varint _)

theorem playerInput (protocol : Int) (flags : UInt8) : Sticky (mcPacketPlayerInput protocol flags) :=
  .check fun _ => .u8 _

theorem playerPosition (protocol : Int) (value : McPlayerPosition) :
    Sticky (mcPacketPlayerPosition protocol value) :=
  .check fun _ => .bind (.double _) fun _ => .bind (.double _) fun _ =>
    .after (.when (Sticky.double _).marks) fun _ => .bind (.double _) fun _ =>
      .bind (.float _) fun _ => .bind (.float _) fun _ => .bool _

theorem playerAbilities (protocol : Int) (value : McPlayerAbilities) :
    Sticky (mcPacketPlayerAbilities protocol value) :=
  .check fun _ => .first (.u8 _) fun _ => .when (Sticky.bind (.float _) fun _ => .float _).marks

theorem blockDig (protocol : Int) (value : McBlockDig) : Sticky (mcPacketBlockDig protocol value) := by
  refine .check fun _ => .ite ?_ ?_
  · exact .check fun _ => .bind (.i8 _) fun _ => .bind (.i32 _) fun _ => .bind (.u8 _) fun _ =>
      .bind (.i32 _) fun _ => .i8 _
  · exact .bind (.varint _) fun _ => .bind (.position _ _) fun _ => .first (.i8 _) fun _ =>
      .when (Sticky.varint _).marks

theorem blockPlaceCursor (protocol : Int) (x y z : McFloat) :
    Sticky (packetBlockPlaceCursor protocol x y z) :=
  .check fun _ => .ite
    (.check fun _ => .bind (.i8 _) fun _ => .bind (.i8 _) fun _ => .i8 _)
    (.bind (.float _) fun _ => .bind (.float _) fun _ => .float _)

theorem gzip (compressor : Compressor) (content : List UInt8) :
    Sticky (packetGzip compressor content) := by
  refine .check fun _ => ?_
  cases compressor.gzip content (compressor.compressBound content.length + 32) with
  | none => exact never
  | some compressed => exact .check fun _ => .bind (.i16 _) fun _ => .data _

theorem legacyReportedItem (compressor : Compressor) (protocol : Int) (value : McBlockPlace) :
    Sticky (packetLegacyReportedItem compressor protocol value) := by
  refine .check fun _ => .ite (.check fun _ => .u16 _) ?_
  refine .check fun _ => .bind (.u16 _) fun _ => .bind (.u8 _) fun _ => .bind (.u16 _) fun _ => ?_
  exact .ite (.noItemTag _) (.check fun _ => .ite (.data _) (.gzip _ _))

theorem blockPlace (compressor : Compressor) (protocol : Int) (value : McBlockPlace) :
    Sticky (mcPacketBlockPlace compressor protocol value) := by
  have corner : Sticky (do
      refuseWhen (value.location.y < 0 ∨ 255 < value.location.y)
      mcPacketI32 value.location.x
      mcPacketU8 (toByte value.location.y)
      mcPacketI32 value.location.z) :=
    .check fun _ => .bind (.i32 _) fun _ => .bind (.u8 _) fun _ => .i32 _
  refine .check fun _ => .after (.when corner.marks) fun _ =>
    .after (.when (Sticky.position _ _).marks) fun _ => .ite ?_ (.ite ?_ ?_)
  · exact .bind (.i8 _) fun _ => .bind (.legacyReportedItem _ _ _) fun _ =>
      .blockPlaceCursor _ _ _ _
  · exact .bind (.varint _) fun _ => .bind (.varint _) fun _ => .blockPlaceCursor _ _ _ _
  · exact .bind (.varint _) fun _ => .bind (.position _ _) fun _ => .bind (.varint _) fun _ =>
      .bind (.blockPlaceCursor _ _ _ _) fun _ => .first (.bool _) fun _ =>
        .bind (.when (Sticky.bool _).marks) fun _ => .when (Sticky.varint _).marks

theorem useItem (compressor : Compressor) (protocol : Int) (value : McUseItem) :
    Sticky (mcPacketUseItem compressor protocol value) := by
  refine .check fun _ => .ite ?_ ?_
  · exact .bind (.ite (.bind (.i32 _) fun _ => .bind (.u8 _) fun _ => .i32 _) (.position _ _))
      fun _ => .bind (.i8 _) fun _ => .bind (.legacyReportedItem _ _ _) fun _ =>
        .blockPlaceCursor _ _ _ _
  · exact .first (.varint _) fun _ => .bind (.when (Sticky.varint _).marks) fun _ =>
      .when (Sticky.bind (.float _) fun _ => .float _).marks

theorem attackEntity (protocol entityId : Int) : Sticky (mcPacketAttackEntity protocol entityId) :=
  .check fun _ => .ite (.varint _) (.ite (.bind (.i32 _) fun _ => .i8 _)
    (.bind (.varint _) fun _ => .first (.varint _) fun _ => .when (Sticky.bool _).marks))

theorem respawnRequest (protocol : Int) : Sticky (mcPacketRespawnRequest protocol) :=
  .check fun _ => .ite (.i8 _) (.varint _)

theorem command (protocol : Int) (text : List UInt8) (timestampMs salt : Int) :
    Sticky (mcPacketCommand protocol text timestampMs salt) := by
  refine .check fun _ => .check fun _ => .ite ?_ ?_
  · exact .bind (.varint _) fun _ => .bind (.u8 _) fun _ => .data _
  · refine .first (.stringN _) fun _ => .when (Sticky.marks ?_)
    exact .bind (.i64 _) fun _ => .bind (.i64 _) fun _ => .bind (.varint _) fun _ =>
      .ite (.bool _) (.ite (.bind (.bool _) fun _ => .bind (.varint _) fun _ => .bool _)
        (.bind (.varint _) fun _ => .data _))

end Sticky

/-- A pointer argument; without it the packet fails. -/
def given {α : Type} (write : α → WriteM Unit) : Option α → WriteM Unit
  | none => refuseWhen True
  | some value => write value

theorem Sticky.given {α : Type} {write : α → WriteM Unit} (sticky : ∀ value, Sticky (write value))
    (value : Option α) : Sticky (McProtocol.given write value) := by
  cases value with
  | none => exact never
  | some value => exact sticky value

/-- The public calls on a packet. -/
inductive PacketCall where
  | bytes (data : Buffer)
  | bool (value : Bool)
  | i8 (value : Int)
  | u8 (value : UInt8)
  | i16 (value : Int)
  | u16 (value : UInt16)
  | i32 (value : Int)
  | u32 (value : UInt32)
  | i64 (value : Int)
  | u64 (value : UInt64)
  | float (value : McFloat)
  | double (value : McDouble)
  | varint (value : Int)
  | varlong (value : Int)
  | bufferI32 (value : Option Buffer)
  | bufferVarint (value : Option Buffer)
  | stringN (value : Option (List UInt8))
  | string (value : Option (List UInt8))
  | position (protocol : Int) (value : McPosition)
  | uuid (value : Option McUuid)
  | nbt (namedRoot : Bool) (encoded : Option Buffer)
  | plainItem (protocol itemId count : Int)
  | setCreativeSlot (protocol slot itemId count : Int)
  | setCreativeSlotDamage (protocol slot itemId count damage : Int)
  | heldItemSlot (protocol slot : Int)
  | emptyWindowClick (protocol : Int) (value : Option McEmptyWindowClick)
  | windowClick (protocol : Int) (value : Option McWindowClick)
  | containerButton (protocol windowId buttonId : Int)
  | closeWindow (protocol windowId : Int)
  | untrustedComponentItem (protocol itemId count : Int) (added : Items McItemComponentPatch)
      (removed : Items Int)
  | clientInformation (protocol : Int) (value : Option McClientInformation)
  | entityAction (protocol : Int) (value : Option McEntityAction)
  | playerInput (protocol : Int) (flags : UInt8)
  | armAnimation (protocol entityId hand : Int)
  | playerPosition (protocol : Int) (value : Option McPlayerPosition)
  | playerAbilities (protocol : Int) (value : Option McPlayerAbilities)
  | blockDig (protocol : Int) (value : Option McBlockDig)
  | blockPlace (protocol : Int) (value : Option McBlockPlace)
  | useItem (protocol : Int) (value : Option McUseItem)
  | attackEntity (protocol entityId : Int)
  | respawnRequest (protocol : Int)
  | command (protocol : Int) (command : Option (List UInt8)) (timestampMs salt : Int)

namespace PacketCall

variable (compressor : Compressor)

def program : PacketCall → WriteM Unit
  | bytes data => mcPacketBytes data
  | bool value => mcPacketBool value
  | i8 value => mcPacketI8 value
  | u8 value => mcPacketU8 value
  | i16 value => mcPacketI16 value
  | u16 value => mcPacketU16 value.toNat
  | i32 value => mcPacketI32 value
  | u32 value => mcPacketU32 value.toNat
  | i64 value => mcPacketI64 value
  | u64 value => mcPacketU64 value.toNat
  | float value => mcPacketFloat value
  | double value => mcPacketDouble value
  | varint value => mcPacketVarint value
  | varlong value => mcPacketVarlong value
  | bufferI32 value => given mcPacketBufferI32 value
  | bufferVarint value => given mcPacketBufferVarint value
  | stringN value => given mcPacketStringN value
  | string value => given mcPacketStringN value
  | position protocol value => mcPacketPosition protocol value
  | uuid value => given mcPacketUuid value
  | nbt namedRoot encoded => mcPacketNbt namedRoot encoded
  | plainItem protocol itemId count => mcPacketPlainItem protocol itemId count
  | setCreativeSlot protocol slot itemId count => mcPacketSetCreativeSlot protocol slot itemId count
  | setCreativeSlotDamage protocol slot itemId count damage =>
      mcPacketSetCreativeSlotDamage protocol slot itemId count damage
  | heldItemSlot protocol slot => mcPacketHeldItemSlot protocol slot
  | emptyWindowClick protocol value => given (mcPacketEmptyWindowClick protocol) value
  | windowClick protocol value => given (mcPacketWindowClick protocol) value
  | containerButton protocol windowId buttonId => mcPacketContainerButton protocol windowId buttonId
  | closeWindow protocol windowId => mcPacketCloseWindow protocol windowId
  | untrustedComponentItem protocol itemId count added removed =>
      mcPacketUntrustedComponentItem protocol itemId count added removed
  | clientInformation protocol value => given (mcPacketClientInformation protocol) value
  | entityAction protocol value => given (mcPacketEntityAction protocol) value
  | playerInput protocol flags => mcPacketPlayerInput protocol flags
  | armAnimation protocol entityId hand => mcPacketArmAnimation protocol entityId hand
  | playerPosition protocol value => given (mcPacketPlayerPosition protocol) value
  | playerAbilities protocol value => given (mcPacketPlayerAbilities protocol) value
  | blockDig protocol value => given (mcPacketBlockDig protocol) value
  | blockPlace protocol value => given (mcPacketBlockPlace compressor protocol) value
  | useItem protocol value => given (mcPacketUseItem compressor protocol) value
  | attackEntity protocol entityId => mcPacketAttackEntity protocol entityId
  | respawnRequest protocol => mcPacketRespawnRequest protocol
  | command protocol text timestampMs salt =>
      given (fun text => mcPacketCommand protocol text timestampMs salt) text

/-- What the call returns, and the packet behind it. -/
def perform (call : PacketCall) (packet : McPacket) : Bool × McPacket :=
  let (result, after) := (call.program compressor).run packet
  (result.isSome, after)

/-- The calls that neither write nor look at the packet: an arm animation that names
no hand. -/
def Silent : PacketCall → Prop
  | armAnimation protocol _ hand => protocol = 47 ∨ protocol = 777 ∧ hand = 0
  | _ => False

end PacketCall

/-- One call after the other: what they return, and the packet behind them. -/
def performCalls (compressor : Compressor) : List PacketCall → McPacket → List Bool × McPacket
  | [], packet => ([], packet)
  | call :: calls, packet =>
      let (result, after) := call.perform compressor packet
      let (results, last) := performCalls compressor calls after
      (result :: results, last)

/-- In a run from `mc_packet_init` the length stays within the capacity; once a call has
returned `false` or the packet is failed, every call returns `false` and leaves length and
storage alone. -/
def WriterSticky (compressor : Compressor) (storage : Buffer) (calls : List PacketCall) : Prop :=
  ∀ earlier call later, calls = earlier ++ call :: later →
    let (results, packet) := performCalls compressor earlier (mcPacketInit storage)
    let (result, after) := call.perform compressor packet
    packet.length ≤ packet.capacity ∧ after.length ≤ after.capacity ∧
      (false ∈ results ∨ packet.failed = true →
        result = false ∧ after.length = packet.length ∧ after.data = packet.data)

section Runs

variable {compressor : Compressor}

theorem supported_last {protocol : Int} (supported : mcProtocolSupported protocol = true)
    (late : 777 ≤ protocol) : protocol = 777 := by
  obtain ⟨profile, found⟩ := Option.isSome_iff_exists.mp supported
  have all : ∀ profile ∈ profiles, 777 ≤ profile.protocol → profile.protocol = 777 := by decide
  have last := all profile (List.mem_of_find?_eq_some found)
  rw [findProfile_protocol found] at last
  exact last late

theorem marks_armAnimation (protocol entityId hand : Int) :
    Marks (mcPacketArmAnimation protocol entityId hand) :=
  .bind .check fun _ => .ite (Sticky.bind (.i32 _) fun _ => .i8 _).marks
    (.ite .check (.when (Sticky.varint _).marks))

/-- An arm animation with a body, or with arguments that are refused. -/
theorem sticky_armAnimation {protocol entityId hand : Int}
    (speaks : ¬ (PacketCall.armAnimation protocol entityId hand).Silent) :
    Sticky (mcPacketArmAnimation protocol entityId hand) where
  marks := marks_armAnimation protocol entityId hand
  refuses := by
    intro packet inside failed
    simp only [PacketCall.Silent, not_or, not_and] at speaks
    unfold mcPacketArmAnimation
    by_cases refused : mcProtocolSupported protocol = false ∨ protocol ≤ 5 ∧ entityId < 0 ∨
        107 ≤ protocol ∧ (hand < 0 ∨ 1 < hand)
    · rw [Program.run_bind, Prog.bind_none (refuseWhen_bad refused)]
    · rw [Program.run_bind, Prog.bind_some (refuseWhen_good refused)]
      by_cases early : protocol ≤ 5
      · rw [if_pos early]
        exact (Sticky.bind (.i32 _) fun _ => .i8 _).refuses packet inside failed
      · rw [if_neg early]
        by_cases late : 777 ≤ protocol
        · rw [if_pos late]
          have supported : mcProtocolSupported protocol = true := by
            simpa using fun unsupported => refused (.inl unsupported)
          rw [refuseWhen_bad (speaks.2 (supported_last supported late))]
        · rw [if_neg late, Program.run_when, Prog.when_pos speaks.1]
          exact (Sticky.varint _).refuses packet inside failed

/-- A silent call succeeds on any packet, and leaves it as it is. -/
theorem PacketCall.Silent.run {call : PacketCall} (silent : call.Silent) (packet : McPacket) :
    (call.program compressor).run packet = (some (), packet) := by
  cases call with
  | armAnimation protocol entityId hand =>
      change (mcPacketArmAnimation protocol entityId hand).run packet = _
      unfold mcPacketArmAnimation
      cases silent with
      | inl old =>
          subst old
          have good : ¬ (mcProtocolSupported 47 = false ∨ (47 : Int) ≤ 5 ∧ entityId < 0 ∨
              (107 : Int) ≤ 47 ∧ (hand < 0 ∨ 1 < hand)) := by
            simp only [not_or]
            exact ⟨by decide, by omega, by omega⟩
          rw [Program.run_bind, Prog.bind_some (refuseWhen_good good)]
          rfl
      | inr new =>
          obtain ⟨rfl, rfl⟩ := new
          have good : ¬ (mcProtocolSupported 777 = false ∨ (777 : Int) ≤ 5 ∧ entityId < 0 ∨
              (107 : Int) ≤ 777 ∧ ((0 : Int) < 0 ∨ (1 : Int) < 0)) := by
            simp only [not_or]
            exact ⟨by decide, by omega, by omega⟩
          rw [Program.run_bind, Prog.bind_some (refuseWhen_good good)]
          rfl
  | _ => exact silent.elim

theorem PacketCall.sticky (compressor : Compressor) {call : PacketCall} (speaks : ¬ call.Silent) :
    Sticky (call.program compressor) := by
  cases call with
  | bytes data => exact .data data
  | bool value => exact .bool value
  | i8 value => exact .i8 value
  | u8 value => exact .u8 value
  | i16 value => exact .i16 value
  | u16 value => exact .u16 _
  | i32 value => exact .i32 value
  | u32 value => exact .u32 _
  | i64 value => exact .i64 value
  | u64 value => exact .u64 _
  | float value => exact .float value
  | double value => exact .double value
  | varint value => exact .varint value
  | varlong value => exact .varlong value
  | bufferI32 value => exact .given .bufferI32 value
  | bufferVarint value => exact .given .bufferVarint value
  | stringN value => exact .given .stringN value
  | string value => exact .given .stringN value
  | position protocol value => exact .position protocol value
  | uuid value => exact .given (fun value => .data value.bytes) value
  | nbt namedRoot encoded => exact .nbt namedRoot encoded
  | plainItem protocol itemId count => exact .plainItem protocol itemId count
  | setCreativeSlot protocol slot itemId count =>
      exact .setCreativeSlotDamage protocol slot itemId count 0
  | setCreativeSlotDamage protocol slot itemId count damage =>
      exact .setCreativeSlotDamage protocol slot itemId count damage
  | heldItemSlot protocol slot => exact .heldItemSlot protocol slot
  | emptyWindowClick protocol value => exact .given (fun _ => .windowClick protocol _) value
  | windowClick protocol value => exact .given (.windowClick protocol) value
  | containerButton protocol windowId buttonId => exact .containerButton protocol windowId buttonId
  | closeWindow protocol windowId => exact .closeWindow protocol windowId
  | untrustedComponentItem protocol itemId count added removed =>
      exact .untrustedComponentItem protocol itemId count added removed
  | clientInformation protocol value => exact .given (.clientInformation protocol) value
  | entityAction protocol value => exact .given (.entityAction protocol) value
  | playerInput protocol flags => exact .playerInput protocol flags
  | armAnimation protocol entityId hand => exact sticky_armAnimation speaks
  | playerPosition protocol value => exact .given (.playerPosition protocol) value
  | playerAbilities protocol value => exact .given (.playerAbilities protocol) value
  | blockDig protocol value => exact .given (.blockDig protocol) value
  | blockPlace protocol value => exact .given (.blockPlace compressor protocol) value
  | useItem protocol value => exact .given (.useItem compressor protocol) value
  | attackEntity protocol entityId => exact .attackEntity protocol entityId
  | respawnRequest protocol => exact .respawnRequest protocol
  | command protocol text timestampMs salt =>
      exact .given (fun text => .command protocol text timestampMs salt) text

theorem PacketCall.marks (call : PacketCall) : Marks (call.program compressor) := by
  by_cases silent : call.Silent
  · intro packet refused
    rw [silent.run packet] at refused
    cases refused
  · exact (sticky compressor silent).marks

/-- The packets of a run: within their storage, and failed if a call has returned
`false`. -/
structure Written (results : List Bool) (packet : McPacket) : Prop where
  inside : packet.length ≤ packet.capacity
  failed : false ∈ results → packet.failed = true

theorem perform_written {packet : McPacket} (call : PacketCall)
    (inside : packet.length ≤ packet.capacity) :
    (call.perform compressor packet).2.length ≤ (call.perform compressor packet).2.capacity ∧
      (packet.failed = true → (call.perform compressor packet).2 = packet) ∧
      ((call.perform compressor packet).1 = false →
        (call.perform compressor packet).2.failed = true) := by
  have lawful := (call.program compressor).lawful
  refine ⟨lawful.keeps packet inside, (lawful.steps packet inside).2, fun refused => ?_⟩
  exact call.marks packet (Option.isNone_iff_eq_none.mp (by
    simpa [PacketCall.perform] using refused))

theorem performCalls_written (calls : List PacketCall) {packet : McPacket}
    (inside : packet.length ≤ packet.capacity) :
    Written (performCalls compressor calls packet).1 (performCalls compressor calls packet).2 ∧
      (packet.failed = true → (performCalls compressor calls packet).2 = packet) := by
  induction calls generalizing packet with
  | nil => exact ⟨⟨inside, fun mem => absurd mem List.not_mem_nil⟩, fun _ => rfl⟩
  | cons call calls ih =>
      obtain ⟨kept, stuck, marked⟩ := @perform_written compressor packet call inside
      obtain ⟨written, rest⟩ := ih kept
      rw [performCalls]
      refine ⟨⟨written.inside, fun mem => ?_⟩, fun failed => ?_⟩
      · rcases List.mem_cons.mp mem with refused | later
        · have failed := marked refused.symm
          dsimp only
          rw [rest failed]
          exact failed
        · exact written.failed later
      · have same := stuck failed
        have still : (call.perform compressor packet).2.failed = true := by
          rw [same]
          exact failed
        exact (rest still).trans same

end Runs

/-- A writer's failure is sticky in exactly the runs where no arm animation without a
body comes behind it. -/
theorem writer_failure_sticky_iff (compressor : Compressor) (storage : Buffer)
    (calls : List PacketCall) :
    WriterSticky compressor storage calls ↔
      ∀ earlier call later, calls = earlier ++ call :: later →
        (performCalls compressor earlier (mcPacketInit storage)).2.failed = true →
          ¬ call.Silent := by
  have start : (mcPacketInit storage).length ≤ (mcPacketInit storage).capacity := Nat.zero_le _
  constructor
  · intro sticky earlier call later split failed silent
    obtain ⟨-, -, refused⟩ := sticky earlier call later split
    have answered : (((call.program compressor).run
      (performCalls compressor earlier (mcPacketInit storage)).2).1).isSome = false :=
        (refused (.inr failed)).1
    rw [silent.run] at answered
    cases answered
  · intro speaks earlier call later split
    obtain ⟨written, -⟩ := @performCalls_written compressor earlier _ start
    have performed := @perform_written compressor _ call written.inside
    refine ⟨written.inside, performed.1, fun stopped => ?_⟩
    have failed := stopped.elim written.failed id
    have same := performed.2.1 failed
    have refused := (PacketCall.sticky compressor (speaks earlier call later split failed)).refuses
      _ written.inside failed
    refine ⟨?_, ?_, ?_⟩
    · exact Option.isSome_eq_false_iff.mpr (Option.isNone_iff_eq_none.mpr refused)
    · exact congrArg McPacket.length same
    · exact congrArg McPacket.data same

/-- A byte that does not fit, and a 1.8 arm animation, which succeeds behind it. -/
theorem writer_failure_sticky_arm :
    ¬ WriterSticky ⟨fun size => size, fun _ => true, fun _ _ => none⟩ (.bytes [])
      [.u8 7, .armAnimation 47 0 0] := by
  intro sticky
  obtain ⟨-, -, refused⟩ := sticky [.u8 7] (.armAnimation 47 0 0) [] rfl
  have answered := (refused (.inl (by decide +kernel))).1
  exact absurd answered (by decide +kernel)

end McProtocol
