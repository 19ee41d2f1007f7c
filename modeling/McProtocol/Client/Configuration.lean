import McProtocol.Lib.Relational
import McProtocol.Client.AutomaticReplies

/-! # The configuration exchange

What a client sends on entering CONFIGURATION, given what the server sends it: a fixed
frame, an answer to each server packet before the next one is read, and the frames that
end the exchange.
-/

namespace McProtocol

section Running

variable (host : Host) (app : App)

/-- `configuration`. -/
def configuration (requested : Option McClientInformation) : ClientM Unit := do
  configurationExchange host app requested
  changeState host app .play

end Running

structure ServerPacket where
  packetId : Int
  body : List UInt8
  deriving Repr, DecidableEq

/-- What an exchange depends on: the release, the id of its known packs (negative where
there are none), and the client information. -/
structure Exchange where
  protocol : Int
  knownPacksId : Int
  settings : List UInt8

namespace Exchange

variable (exchange : Exchange)

def Finishes (packet : ServerPacket) : Prop := packet.packetId = finishId exchange.protocol

def Selects (packet : ServerPacket) : Prop :=
  766 ≤ exchange.protocol ∧ 0 ≤ exchange.knownPacksId ∧ packet.packetId = exchange.knownPacksId

/-- Known packs that the builder of their echo has no room for. -/
def Oversized (packet : ServerPacket) : Prop :=
  776 ≤ exchange.protocol ∧ exchange.Selects packet ∧ 1024 < packet.body.length

instance : DecidablePred exchange.Finishes := fun _ => inferInstanceAs (Decidable (_ = _))

instance : DecidablePred exchange.Selects := fun _ => inferInstanceAs (Decidable (_ ∧ _))

instance : DecidablePred exchange.Oversized := fun _ => inferInstanceAs (Decidable (_ ∧ _))

def acknowledgement : SentFrame := ⟨0x03, [], true⟩

def information : SentFrame := ⟨0x00, exchange.settings, true⟩

/-- The client information follows the first server packet from 776 on. -/
def early (first : Bool) : List SentFrame :=
  if 776 ≤ exchange.protocol ∧ first = true then [exchange.information] else []

/-- Known packs are echoed from 776 on, and answered with none before. -/
def selection (packet : ServerPacket) : List SentFrame :=
  if exchange.Selects packet then
    [⟨0x07, if 776 ≤ exchange.protocol then packet.body else [0], true⟩]
  else []

/-- The client information before 776, and the answer to a resource pack. -/
def late : List SentFrame :=
  (if exchange.protocol < 776 then [exchange.information] else []) ++
    if 765 ≤ exchange.protocol ∧ exchange.protocol ≤ 775 then
      [⟨if exchange.protocol = 765 then 0x05 else 0x06, List.replicate 16 0 ++ [0], true⟩]
    else []

def finish : SentFrame := ⟨finishId exchange.protocol, [], true⟩

/-- All that is sent on one server packet. -/
def answers (first : Bool) (packet : ServerPacket) : List SentFrame :=
  exchange.early first ++
    if exchange.Oversized packet then []
    else exchange.selection packet ++
      if exchange.Finishes packet then exchange.late ++ [exchange.finish] else []

/-- A packet behind which nothing is read. -/
def Last (packet : ServerPacket) : Prop := exchange.Oversized packet ∨ exchange.Finishes packet

instance : DecidablePred exchange.Last := fun _ => inferInstanceAs (Decidable (_ ∨ _))

/-- All that is sent on the packets of a server. -/
def trace (first : Bool) : List ServerPacket → List SentFrame
  | [] => []
  | packet :: packets =>
      exchange.answers first packet ++
        if exchange.Last packet then [] else trace false packets

/-- The packets up to the one that finishes. -/
def untilFinish : List ServerPacket → List ServerPacket
  | [] => []
  | packet :: packets =>
      packet :: if exchange.Finishes packet then [] else untilFinish packets

/-- The server finishes, and all that is to be echoed by then can be. -/
def Completes (packets : List ServerPacket) : Prop :=
  (∃ packet ∈ packets, exchange.Finishes packet) ∧
    ∀ packet ∈ exchange.untilFinish packets, ¬ exchange.Oversized packet

instance : DecidablePred exchange.Completes := fun _ => inferInstanceAs (Decidable (_ ∧ _))

end Exchange

/-- The information that is sent: the default does not ask to be listed from 776 on. -/
def informationFor (protocol : Int) (requested : Option McClientInformation) :
    McClientInformation :=
  requested.getD (if 776 ≤ protocol then { defaultClientInformation with serverListing := false }
    else defaultClientInformation)

/-- The exchange a client enters. -/
def World.exchange (world : World) (host : Host) (requested : Option McClientInformation) :
    Exchange where
  protocol := world.client.profile.protocol
  knownPacksId := host.catalog.mcPacketId world.client.profile.protocol .configuration .clientbound
    "select_known_packs"
  settings := (buildPacket 128 (mcPacketClientInformation world.client.profile.protocol
    (informationFor world.client.profile.protocol requested))).2.body

/-- All that a read looks at is the same. -/
structure SameIncoming (before after : World) : Prop where
  socketFd : after.client.socketFd = before.client.socketFd
  decoder : after.client.streamDecoder = before.client.streamDecoder
  transforms : after.client.transforms = before.client.transforms
  arrivals : after.network.arrivals = before.network.arrivals
  waits : after.network.waits = before.network.waits
  decrypted : after.decrypted = before.decrypted

/-- `read_protocol_packet` without its callback. -/
def nextPacket (host : Host) : ClientM ServerPacket := do
  let frame ← readFrame host
  match mcReaderVarint.run (mcReaderInit frame) with
  | (none, _) => setError "Pacchetto senza ID VarInt"
  | (some packetId, body) => pure ⟨packetId, body.data.drop body.offset⟩

/-- The server sends `packets`, and each of them only when all that was to be answered
before has been: `log` is what was sent until the first of them is read. Nothing is asked
of it behind the last packet of the exchange. -/
def Serves (host : Host) (exchange : Exchange) :
    Nat → Bool → World → List SentFrame → List ServerPacket → Prop
  | 0, _, _, _, _ => True
  | _ + 1, _, world, log, [] =>
      ∀ other, SameIncoming world other → other.frames = log → (nextPacket host other).1 = none
  | left + 1, first, world, log, packet :: packets =>
      ∀ other, SameIncoming world other → other.frames = log →
        ∃ after, nextPacket host other = (some packet, after) ∧
          (exchange.Last packet ∨
            Serves host exchange left false after (log ++ exchange.answers first packet) packets)

/-- The callbacks call nothing. -/
structure App.Listens (app : App) : Prop where
  onState : ∀ callback ∈ app.onState, ∀ events, callback events = .done
  onPacket : ∀ callback ∈ app.onPacket, ∀ events, callback events = .done

theorem SameIncoming.refl (world : World) : SameIncoming world world :=
  ⟨rfl, rfl, rfl, rfl, rfl, rfl⟩

theorem SameIncoming.trans {first second third : World} (left : SameIncoming first second)
    (right : SameIncoming second third) : SameIncoming first third :=
  ⟨right.socketFd.trans left.socketFd, right.decoder.trans left.decoder,
    right.transforms.trans left.transforms, right.arrivals.trans left.arrivals,
    right.waits.trans left.waits, right.decrypted.trans left.decrypted⟩

/-- Programs that leave to be read what there is to be read. -/
def unread : Discipline World := .moving SameIncoming .refl fun _ _ _ => .trans

theorem unread_of_memoryOnly {α : Type} {program : ClientM α} (lawful : memoryOnly.Lawful program) :
    unread.Lawful program := by
  apply Discipline.Lawful.of_steps
  intro world
  have same := lawful.steps world trivial
  refine ⟨?_, ?_, ?_, ?_, ?_, same.decrypted⟩
  · rw [same.client]
  · rw [same.client]
  · rw [same.client]
  · rw [same.network]
  · rw [same.network]

section Moving

variable {host : Host} {app : App} {world after : World}

theorem encryptStream_unread (host : Host) (data : List UInt8) :
    unread.Lawful (encryptStream host data) := by
  apply Discipline.Lawful.of_steps
  intro world
  unfold encryptStream
  cases world.client.transforms with
  | none => exact .refl world
  | some transforms =>
      dsimp only
      split_ifs with nothing
      · exact .refl world
      · have same := (unread_of_memoryOnly (allocate_memoryOnly host data.length
          "Memoria insufficiente per la cifratura stream")).moves world
        rcases allocated : allocate host data.length
          "Memoria insufficiente per la cifratura stream" world with ⟨_ | u, granted⟩
        · rw [allocated] at same
          exact same
        · rw [allocated] at same
          dsimp only
          cases transforms.encrypt granted.encrypted data with
          | none => exact same.trans ⟨rfl, rfl, rfl, rfl, rfl, rfl⟩
          | some transformed => exact same.trans ⟨rfl, rfl, rfl, rfl, rfl, rfl⟩

theorem writeSocket_unread (wire : List UInt8) : unread.Lawful (writeSocket wire) := by
  apply Discipline.Lawful.of_steps
  intro world
  unfold writeSocket
  split_ifs with nothing closed
  · exact .refl world
  · exact ⟨rfl, rfl, rfl, rfl, rfl, rfl⟩
  · rcases sendLoop world.network.departures wire with ⟨_ | reason, written, departures⟩
    · exact ⟨rfl, rfl, rfl, rfl, rfl, rfl⟩
    · exact ⟨rfl, rfl, rfl, rfl, rfl, rfl⟩

theorem sendFrame_unread (host : Host) (packetId : Int) (payload : Buffer) (world : World) :
    SameIncoming world (sendFrame host packetId payload world).2 := by
  have same := (Discipline.Lawful.bind
    (unread_of_memoryOnly (encodeFrame_memoryOnly host packetId payload)) fun wire =>
      .bind (encryptStream_unread host wire) writeSocket_unread : unread.Lawful
        (transmit host packetId payload)).moves world
  rw [sendFrame_run]
  exact same.trans ⟨rfl, rfl, rfl, rfl, rfl, rfl⟩

/-- Programs that log no frame and keep the profile. -/
def unlogged : Discipline World :=
  .moving (fun before after => after.frames = before.frames ∧
      after.client.profile = before.client.profile)
    (fun _ => ⟨rfl, rfl⟩) fun _ _ _ left right =>
      ⟨right.1.trans left.1, right.2.trans left.2⟩

theorem unlogged_frames (host : Host) : CoversFrames host unlogged where
  remembers lawful := .of_steps fun world => by
    have same := lawful.steps world trivial
    exact ⟨same.frames, by rw [same.client]⟩
  feeds data := by
    apply Discipline.Lawful.of_steps
    intro world
    obtain ⟨error, same⟩ := feedOne_after host data world
    rw [same]
    exact ⟨rfl, rfl⟩
  receives capacity := by
    apply Discipline.Lawful.of_steps
    intro world
    obtain ⟨arrivals, waits, received, error, decrypted, same, -⟩ := receiveSome_after capacity world
    rw [same]
    exact ⟨rfl, rfl⟩

theorem nextPacket_unlogged (host : Host) (world : World) :
    (nextPacket host world).2.frames = world.frames ∧
      (nextPacket host world).2.client.profile = world.client.profile := by
  have covers := unlogged_frames host
  refine (Discipline.Lawful.bind (D := unlogged) (p := readFrame host) ?_ fun frame => ?_).moves world
  · exact .of_steps fun world => (covers.readFrameLoop_lawful _).moves world
  · rcases mcReaderVarint.run (mcReaderInit frame) with ⟨_ | packetId, body⟩
    · exact covers.setError_lawful _
    · exact .pure _

theorem runCallback_done {callback : List McEvent → AppProgram}
    (quiet : ∀ events, callback events = .done) (change : McState → ClientM Unit) (world : World) :
    runCallback host change callback world = (some (), world) := by
  refine (Prog.bind_some rfl).trans ?_
  rw [quiet]
  rfl

/-- Entering a state, and what the application hears of it. -/
theorem changeState_listens (listens : app.Listens) (host : Host) (state : McState)
    (world : World) :
    ∃ events, changeState host app state world =
      (some (), { world with client := { world.client with state := state }, events := events }) := by
  by_cases same : world.client.state = state
  · refine ⟨world.events, ?_⟩
    rw [changeState, changeStateAt_same host app same, ← same]
  · rw [changeState, changeStateAt_other host app same, afterChange]
    cases there : app.onState with
    | none => exact ⟨_, rfl⟩
    | some callback =>
        cases app.nesting with
        | zero => exact ⟨_, rfl⟩
        | succ depth =>
            have quiet := listens.onState callback there
            exact ⟨_, (Prog.bind_some rfl).trans (runCallback_done quiet _ _)⟩

theorem emitPacket_listens (listens : app.Listens) (host : Host) (state : McState)
    (packetId : Int) (payload : List UInt8) (world : World) :
    ∃ events, emitPacket host app state packetId payload world =
      (some (), { world with events := events }) := by
  unfold emitPacket
  cases there : app.onPacket with
  | none => exact ⟨_, rfl⟩
  | some callback =>
      have quiet := listens.onPacket callback there
      exact ⟨_, (Prog.bind_some rfl).trans (runCallback_done quiet _ _)⟩

theorem readProtocolPacket_none (app : App) (state : McState)
    (nothing : nextPacket host world = (none, after)) :
    readProtocolPacket host app state world = (none, after) := by
  obtain failed | ⟨frame, between, read, parsed⟩ := Prog.bind_eq_none nothing
  · exact Prog.bind_none failed
  · refine (Prog.bind_some read).trans ?_
    rcases run : mcReaderVarint.run (mcReaderInit frame) with ⟨_ | packetId, body⟩
    · rw [run] at parsed
      cases parsed
      rfl
    · rw [run] at parsed
      cases parsed

theorem readProtocolPacket_some (listens : app.Listens) (state : McState) {packet : ServerPacket}
    (received : nextPacket host world = (some packet, after)) :
    ∃ body events, readProtocolPacket host app state world =
        (some (packet.packetId, body), { after with events := events }) ∧
      body.data.drop body.offset = packet.body := by
  obtain ⟨frame, between, read, parsed⟩ := Prog.bind_eq_some received
  rcases run : mcReaderVarint.run (mcReaderInit frame) with ⟨_ | packetId, body⟩
  · rw [run] at parsed
    cases parsed
  · rw [run] at parsed
    cases parsed
    obtain ⟨events, told⟩ := emitPacket_listens listens host state packetId
      (body.data.drop body.offset) after
    refine ⟨body, events, (Prog.bind_some read).trans ?_, rfl⟩
    rw [run]
    exact Prog.bind_some told

end Moving

/-- How a part of a run ends: every frame of it was sent, or it stopped where a builder
was full, or a send failed. -/
inductive Exchanged (before : World) (frames : List SentFrame) (complete : Prop) :
    Option Unit × World → Prop where
  | sent (after : World) (logged : after.frames = before.frames ++ frames)
      (completes : complete) : Exchanged before frames complete (some (), after)
  | stopped (after : World) (logged : after.frames = before.frames ++ frames)
      (stops : ¬ complete) : Exchanged before frames complete (none, after)
  | failed (after : World) (log : List SentFrame) (logged : after.frames = before.frames ++ log)
      (frame : SentFrame) (mem : frame ∈ log) (refused : frame.succeeded = false) :
      Exchanged before frames complete (none, after)

/-- The frames were sent, and the client reads on where it was; or a send failed. -/
inductive Sent (before : World) (frames : List SentFrame) : Option Unit × World → Prop where
  | sent (after : World) (logged : after.frames = before.frames ++ frames)
      (incoming : SameIncoming before after)
      (profile : after.client.profile = before.client.profile) : Sent before frames (some (), after)
  | failed (after : World) (log : List SentFrame) (logged : after.frames = before.frames ++ log)
      (frame : SentFrame) (mem : frame ∈ log) (refused : frame.succeeded = false) :
      Sent before frames (none, after)

namespace Sent

variable {host : Host} {world : World} {program : ClientM Unit} {rest : Unit → ClientM Unit}
  {frames more : List SentFrame}

theorem nothing : Sent world [] ((pure () : ClientM Unit) world) :=
  .sent world (List.append_nil _).symm (.refl world) rfl

/-- Sending goes on if it has not failed. -/
theorem bind (first : Sent world frames (program world))
    (second : ∀ after, after.frames = world.frames ++ frames →
      after.client.profile = world.client.profile → Sent after more (rest () after)) :
    Sent world (frames ++ more) ((program >>= rest) world) := by
  rcases run : program world with ⟨result, reached⟩
  rw [run] at first
  cases first with
  | failed after log logged frame mem refused =>
      rw [Prog.bind_none run]
      exact .failed _ log logged frame mem refused
  | sent after logged incoming profile =>
      rw [Prog.bind_some run]
      have further := second reached logged profile
      rcases run' : rest () reached with ⟨result, last⟩
      rw [run'] at further
      cases further with
      | sent after logged' incoming' profile' =>
          exact .sent _ (by rw [logged', logged, List.append_assoc]) (incoming.trans incoming')
            (profile'.trans profile)
      | failed after log logged' frame mem refused =>
          exact .failed _ (frames ++ log) (by rw [logged', logged, List.append_assoc]) frame
            (List.mem_append_right _ mem) refused

theorem when {condition : Prop} [Decidable condition]
    (sends : condition → Sent world frames (program world)) :
    Sent world (if condition then frames else []) (Prog.when condition program world) := by
  by_cases holds : condition
  · rw [if_pos holds, Prog.when_pos holds]
    exact sends holds
  · rw [if_neg holds, Prog.when_neg holds]
    exact nothing

theorem sendFrame (host : Host) (packetId : Int) (payload : Buffer) (world : World) :
    Sent world [⟨packetId, payload.content, true⟩]
      (McProtocol.sendFrame host packetId payload world) := by
  have written := (transmit_writing host packetId payload).moves world
  have incoming := sendFrame_unread host packetId payload world
  rw [sendFrame_run] at incoming ⊢
  rcases transmitted : transmit host packetId payload world with ⟨_ | u, after⟩
  · exact .failed _ [⟨packetId, payload.content, false⟩] rfl _ (List.mem_singleton_self _) rfl
  · rw [transmitted] at written incoming
    refine .sent _ rfl incoming ?_
    change after.client.profile = world.client.profile
    rw [written.client]

/-- A builder with room for what it writes is sent whole. -/
theorem sendBuilder (host : Host) {build : WriteM Unit} {bytes : List UInt8}
    (writes : Writes build bytes) {capacity : Nat} (room : bytes.length ≤ capacity)
    (packetId : Int) (world : World) :
    Sent world [⟨packetId, bytes, true⟩]
      (McProtocol.sendBuilder host packetId (buildPacket capacity build).2 world) := by
  obtain ⟨packet, built, clean, body⟩ := writes.build room
  have unrefused : ¬ packet.failed = true := by simp [clean]
  have run : McProtocol.sendBuilder host packetId (buildPacket capacity build).2 world =
      McProtocol.sendFrame host packetId packet.body world := by
    rw [built]
    exact Prog.bind_some (refuseIf_neg unrefused)
  have sent := sendFrame host packetId packet.body world
  rw [run]
  rwa [body] at sent ⊢

end Sent

/-- What the writer of the client information asks of it. -/
structure McClientInformation.Valid (information : McClientInformation) (protocol : Int) : Prop where
  present : ¬ (mcProtocolSupported protocol = false ∨ information.locale = none)
  ranges : ¬ ((information.locale.getD []).length = 0 ∨ 16 < (information.locale.getD []).length
    ∨ information.viewDistance < 2 ∨ 32 < information.viewDistance
    ∨ information.chatMode < 0 ∨ 2 < information.chatMode
    ∨ protocol ≤ 5 ∧ 3 < information.difficulty
    ∨ 107 ≤ protocol ∧ (information.mainHand < 0 ∨ 1 < information.mainHand)
    ∨ 768 ≤ protocol ∧ (information.particleStatus < 0 ∨ 2 < information.particleStatus))

/-- Whatever the storage, only such information is written. -/
theorem McClientInformation.valid_of_accepted {protocol : Int} {information : McClientInformation}
    {capacity : Nat}
    (accepted : (buildPacket capacity (mcPacketClientInformation protocol information)).1 =
      some ()) : information.Valid protocol := by
  rcases run : buildPacket capacity (mcPacketClientInformation protocol information) with
    ⟨_ | u, packet⟩
  · rw [run] at accepted
    cases accepted
  obtain ⟨_, checked, present, afterPresent⟩ := Prog.bind_eq_some run
  obtain ⟨_, ranged, ranges, _⟩ := Prog.bind_eq_some afterPresent
  exact ⟨(refuseWhen_eq_some present).1, (refuseWhen_eq_some ranges).1⟩

/-- Such information fits into the storage it is built in. -/
theorem McClientInformation.Valid.writes {protocol : Int} {information : McClientInformation}
    (valid : information.Valid protocol) :
    WritesWithin (mcPacketClientInformation protocol information) 41 := by
  obtain ⟨present, ranges⟩ := valid
  have short : (information.locale.getD []).length ≤ 16 := by omega
  have locale : WritesWithin (mcPacketStringN (information.locale.getD [])) 21 := by
    refine .of_writes (.stringN (short.trans (by decide))) ?_
    have header := (encodeVarint_length (information.locale.getD []).length).2
    rw [List.length_append]
    omega
  have flags : WritesWithin (do
      mcPacketU8 information.skinParts
      .when (107 ≤ protocol) (mcPacketVarint information.mainHand)
      .when (755 ≤ protocol) (mcPacketBool information.textFiltering)
      .when (757 ≤ protocol) (mcPacketBool information.serverListing)
      .when (768 ≤ protocol) (mcPacketVarint information.particleStatus)) 13 := by
    refine .bind (.u8 _) (by decide) ?_
    refine .bind (.when (.varint _)) (by decide) ?_
    refine .bind (.when (.bool _)) (by decide) ?_
    refine .bind (.when (.bool _)) (by decide) ?_
    exact .when (.varint _)
  have oldFlags : WritesWithin (do
      mcPacketU8 information.difficulty
      mcPacketBool information.showCape) 13 := by
    refine .bind (.u8 _) (by decide) ?_
    exact (WritesWithin.bool _).mono (by decide)
  have tail : WritesWithin (do
      mcPacketBool information.chatColors
      if protocol ≤ 5 then do
        mcPacketU8 information.difficulty
        mcPacketBool information.showCape
      else do
        mcPacketU8 information.skinParts
        .when (107 ≤ protocol) (mcPacketVarint information.mainHand)
        .when (755 ≤ protocol) (mcPacketBool information.textFiltering)
        .when (757 ≤ protocol) (mcPacketBool information.serverListing)
        .when (768 ≤ protocol) (mcPacketVarint information.particleStatus)) 14 :=
    .bind (.bool _) (by decide) (.either oldFlags flags)
  unfold mcPacketClientInformation
  refine .bind (.refuseWhen present) (by decide) ?_
  refine .bind (.refuseWhen ranges) (by decide) ?_
  refine .bind locale (by decide) ?_
  refine .bind (.i8 _) (by decide) ?_
  refine .either ?_ ?_
  · refine .bind (.i8 _) (by decide) ?_
    exact tail.mono (by decide)
  · exact .bind (.varint _) (by decide) tail

theorem informationFor_valid {protocol : Int} {requested : Option McClientInformation}
    (supported : mcProtocolSupported protocol = true)
    (valid : ∀ information ∈ requested, information.Valid protocol) :
    (informationFor protocol requested).Valid protocol := by
  cases requested with
  | some information => exact valid information rfl
  | none =>
      have present : ¬ (mcProtocolSupported protocol = false ∨
          (some "en_us".toUTF8.toList : Option (List UInt8)) = none) := by
        rw [supported]
        decide
      have locale : "en_us".toUTF8.toList = [101, 110, 95, 117, 115] := by decide +kernel
      unfold informationFor defaultClientInformation
      dsimp only [Option.getD_none]
      rw [locale] at present ⊢
      split_ifs
      · exact ⟨present, by simp⟩
      · exact ⟨present, by simp⟩

theorem selectKnownPacks_writes (protocol : Int) (body : McReader) :
    Writes (selectKnownPacks protocol body)
      (if 776 ≤ protocol then body.data.drop body.offset else [0]) := by
  unfold selectKnownPacks
  split_ifs
  · exact .data _
  · exact (Writes.varint 0).of_eq encodeVarint_zero

/-- An echo that does not fit is not sent. -/
theorem sendBuilder_oversized (host : Host) (packetId : Int) (world : World) {protocol : Int}
    {body : McReader} (modern : 776 ≤ protocol)
    (large : 1024 < (body.data.drop body.offset).length) :
    ∃ after, sendBuilder host packetId (buildPacket 1024 (selectKnownPacks protocol body)).2 world =
      (none, after) ∧ after.frames = world.frames := by
  have unfit : ¬ (mcPacketInit (.bytes (List.replicate 1024 0))).Fits
      (body.data.drop body.offset).length := by
    intro fits
    have room := fits.room
    simp only [mcPacketInit, McPacket.capacity, Buffer.content, List.length_replicate] at room
    omega
  have failed : (buildPacket 1024 (selectKnownPacks protocol body)).2.failed = true := by
    rw [selectKnownPacks, if_pos modern, buildPacket, mcPacketBytes_refused unfit]
    rfl
  exact ⟨_, Prog.bind_none (refuseIf_pos failed), rfl⟩

theorem resourcePackAnswer_writes : Writes resourcePackAnswer (List.replicate 16 0 ++ [0]) :=
  .bind (.data _) ((Writes.varint 0).of_eq encodeVarint_zero)

theorem Exchange.completes_cons (exchange : Exchange) (packet : ServerPacket)
    (packets : List ServerPacket) :
    exchange.Completes (packet :: packets) ↔
      ¬ exchange.Oversized packet ∧ (exchange.Finishes packet ∨ exchange.Completes packets) := by
  unfold Completes
  by_cases finishes : exchange.Finishes packet
  · simp [untilFinish, finishes]
  · simp [untilFinish, finishes]
    tauto

/-- What follows frames that were sent. -/
theorem Exchanged.behind {world : World} {program : ClientM Unit} {rest : Unit → ClientM Unit}
    {frames more : List SentFrame} {complete : Prop} (first : Sent world frames (program world))
    (second : ∀ after, after.frames = world.frames ++ frames → SameIncoming world after →
      after.client.profile = world.client.profile →
      Exchanged after more complete (rest () after)) :
    Exchanged world (frames ++ more) complete ((program >>= rest) world) := by
  rcases run : program world with ⟨result, reached⟩
  rw [run] at first
  cases first with
  | failed after log logged frame mem refused =>
      rw [Prog.bind_none run]
      exact .failed _ log logged frame mem refused
  | sent after logged incoming profile =>
      rw [Prog.bind_some run]
      have further := second reached logged incoming profile
      rcases run' : rest () reached with ⟨result, last⟩
      rw [run'] at further
      cases further with
      | sent after logged' completes =>
          exact .sent _ (by rw [logged', logged, List.append_assoc]) completes
      | stopped after logged' stops =>
          exact .stopped _ (by rw [logged', logged, List.append_assoc]) stops
      | failed after log logged' frame mem refused =>
          exact .failed _ (frames ++ log) (by rw [logged', logged, List.append_assoc]) frame
            (List.mem_append_right _ mem) refused

theorem Exchanged.of_frames {world other : World} {frames : List SentFrame} {complete : Prop}
    {ended : Option Unit × World} (exchanged : Exchanged other frames complete ended)
    (same : other.frames = world.frames) : Exchanged world frames complete ended := by
  cases exchanged with
  | sent after logged completes => exact .sent after (same ▸ logged) completes
  | stopped after logged stops => exact .stopped after (same ▸ logged) stops
  | failed after log logged frame mem refused =>
      exact .failed after log (same ▸ logged) frame mem refused

theorem Exchanged.of_sent {world : World} {frames : List SentFrame} {complete : Prop}
    {ended : Option Unit × World} (sent : Sent world frames ended) (completes : complete) :
    Exchanged world frames complete ended := by
  cases sent with
  | sent after logged => exact .sent after logged completes
  | failed after log logged frame mem refused => exact .failed after log logged frame mem refused

section Following

variable {host : Host} {app : App} {exchange : Exchange} {requested : Option McClientInformation}

theorem sendInformation_sent {world : World} {information : McClientInformation}
    (writes : Writes (mcPacketClientInformation exchange.protocol information) exchange.settings)
    (small : exchange.settings.length ≤ 128)
    (protocol : world.client.profile.protocol = exchange.protocol) :
    Sent world [exchange.information] (sendInformation host information world) := by
  have run : sendInformation host information world = sendBuilder host 0x00
      (buildPacket 128 (mcPacketClientInformation exchange.protocol information)).2 world := by
    rw [← protocol]
    exact Prog.bind_some rfl
  rw [run]
  exact Sent.sendBuilder host writes small 0x00 world

/-- What ends the exchange. -/
theorem finishConfiguration_sent {world : World}
    (writes : Writes (mcPacketClientInformation exchange.protocol
      (informationFor exchange.protocol requested)) exchange.settings)
    (small : exchange.settings.length ≤ 128)
    (protocol : world.client.profile.protocol = exchange.protocol) :
    Sent world (exchange.late ++ [exchange.finish])
      (finishConfiguration host exchange.protocol requested (decide (776 ≤ exchange.protocol))
        world) := by
  unfold finishConfiguration Exchange.late
  rw [List.append_assoc]
  have informed : Sent world (if exchange.protocol < 776 then [exchange.information] else [])
      (Prog.when (decide (776 ≤ exchange.protocol) = false)
        (sendInformation host (requested.getD defaultClientInformation)) world) := by
    by_cases modern : 776 ≤ exchange.protocol
    · rw [if_neg (by omega), Prog.when_neg (by simp [modern])]
      exact .nothing
    · rw [if_pos (by omega), Prog.when_pos (by simp [modern])]
      rw [informationFor, if_neg modern] at writes
      exact sendInformation_sent writes small protocol
  refine informed.bind fun between _ profile => ?_
  refine (Sent.when fun _ => ?_).bind fun last _ _ => ?_
  · exact Sent.sendBuilder host resourcePackAnswer_writes (by decide) _ between
  · have finished := Sent.sendFrame host (finishId exchange.protocol) (.null 0) last
    exact finished

/-- The client information, where it is early. -/
theorem early_sent {world : World} (first : Bool)
    (writes : Writes (mcPacketClientInformation exchange.protocol
      (informationFor exchange.protocol requested)) exchange.settings)
    (small : exchange.settings.length ≤ 128)
    (protocol : world.client.profile.protocol = exchange.protocol) :
    Sent world (exchange.early first)
      (Prog.when (776 ≤ exchange.protocol ∧ (decide (776 ≤ exchange.protocol) && !first) = false)
        (sendInformation host
          (requested.getD { defaultClientInformation with serverListing := false })) world) := by
  by_cases early : 776 ≤ exchange.protocol ∧ first = true
  · rw [Exchange.early, if_pos early, Prog.when_pos (by simp [early])]
    rw [informationFor, if_pos early.1] at writes
    exact sendInformation_sent writes small protocol
  · have skipped : ¬ (776 ≤ exchange.protocol ∧
        (decide (776 ≤ exchange.protocol) && !first) = false) := by
      rintro ⟨modern, informed⟩
      exact early ⟨modern, by simpa [modern] using informed⟩
    rw [Exchange.early, if_neg early, Prog.when_neg skipped]
    exact .nothing

/-- One turn of the loop behind its read; `rest` are the turns that follow. -/
theorem turn_exchanged (host : Host) {world : World} (first : Bool) {packet : ServerPacket} {body : McReader}
    {rest : ClientM Unit} {more : List SentFrame} {complete : Prop}
    (writes : Writes (mcPacketClientInformation exchange.protocol
      (informationFor exchange.protocol requested)) exchange.settings)
    (small : exchange.settings.length ≤ 128)
    (protocol : world.client.profile.protocol = exchange.protocol)
    (shown : body.data.drop body.offset = packet.body)
    (goesOn : ¬ exchange.Last packet → ∀ after,
      after.frames = world.frames ++ exchange.answers first packet → SameIncoming world after →
      after.client.profile = world.client.profile → Exchanged after more complete (rest after)) :
    Exchanged world (exchange.answers first packet ++ if exchange.Last packet then [] else more)
      (¬ exchange.Oversized packet ∧ (exchange.Finishes packet ∨ complete))
      ((do
        .when (776 ≤ exchange.protocol ∧ (decide (776 ≤ exchange.protocol) && !first) = false)
          (sendInformation host
            (requested.getD { defaultClientInformation with serverListing := false }))
        .when (exchange.Selects packet) (sendBuilder host 0x07
          (buildPacket 1024 (selectKnownPacks exchange.protocol body)).2)
        if packet.packetId = finishId exchange.protocol then
          finishConfiguration host exchange.protocol requested (decide (776 ≤ exchange.protocol))
        else rest : ClientM Unit) world) := by
  rw [Exchange.answers, List.append_assoc]
  refine Exchanged.behind (early_sent first writes small protocol)
    fun between logged incoming profile => ?_
  by_cases oversized : exchange.Oversized packet
  · have last : exchange.Last packet := .inl oversized
    rw [if_pos oversized, if_pos last]
    obtain ⟨modern, selects, large⟩ := oversized
    rw [← shown] at large
    obtain ⟨stopped, refused, unsent⟩ := sendBuilder_oversized host 0x07 between modern large
    rw [Prog.bind_none ((Prog.when_pos selects).trans refused)]
    exact .stopped stopped (unsent.trans (List.append_nil _).symm)
      fun completes => completes.1 ⟨modern, selects, shown ▸ large⟩
  · rw [if_neg oversized, List.append_assoc]
    have selected : Sent between (exchange.selection packet)
        (Prog.when (exchange.Selects packet) (sendBuilder host 0x07
          (buildPacket 1024 (selectKnownPacks exchange.protocol body)).2) between) := by
      refine Sent.when fun selects => ?_
      have writesEcho := selectKnownPacks_writes exchange.protocol body
      rw [shown] at writesEcho
      refine Sent.sendBuilder host writesEcho ?_ 0x07 between
      split_ifs with modern
      · by_contra large
        exact oversized ⟨modern, selects, by omega⟩
      · decide
    refine Exchanged.behind selected fun last loggedLast incomingLast profileLast => ?_
    have protocolLast : last.client.profile.protocol = exchange.protocol := by
      rw [profileLast, profile, protocol]
    by_cases finishes : exchange.Finishes packet
    · have final : exchange.Last packet := .inr finishes
      have here : packet.packetId = finishId exchange.protocol := finishes
      rw [if_pos finishes, if_pos final, if_pos here, List.append_nil]
      exact .of_sent (finishConfiguration_sent writes small protocolLast)
        ⟨oversized, .inl finishes⟩
    · have goes : ¬ exchange.Last packet := by
        rintro (large | final)
        · exact oversized large
        · exact finishes final
      have elsewhere : ¬ packet.packetId = finishId exchange.protocol := finishes
      rw [if_neg finishes, if_neg goes, if_neg elsewhere, List.nil_append]
      have answered : last.frames = world.frames ++ exchange.answers first packet := by
        rw [loggedLast, logged, Exchange.answers, if_neg oversized, if_neg finishes,
          List.append_nil, List.append_assoc]
      have continued := goesOn goes last answered (incoming.trans incomingLast)
        (profileLast.trans profile)
      rcases run : rest last with ⟨result, ended⟩
      rw [run] at continued
      cases continued with
      | sent after more completes => exact .sent _ more ⟨oversized, .inr completes⟩
      | stopped after more stops =>
          exact .stopped _ more fun completes => completes.2.elim finishes stops
      | failed after log more frame mem refused => exact .failed _ log more frame mem refused

/-- The loop sends what the exchange is, for as many packets as it has left. -/
theorem configurationLoop_exchanged (listens : app.Listens)
    (known : exchange.knownPacksId = host.catalog.mcPacketId exchange.protocol .configuration
      .clientbound "select_known_packs")
    (writes : Writes (mcPacketClientInformation exchange.protocol
      (informationFor exchange.protocol requested)) exchange.settings)
    (small : exchange.settings.length ≤ 128) (left : Nat) (first : Bool)
    {base world : World} {packets : List ServerPacket} (same : SameIncoming base world)
    (protocol : world.client.profile.protocol = exchange.protocol)
    (served : Serves host exchange left first base world.frames packets) :
    Exchanged world (exchange.trace first (packets.take left))
      (exchange.Completes (packets.take left))
      (configurationLoop host app exchange.protocol requested left
        (decide (776 ≤ exchange.protocol) && !first) world) := by
  induction left generalizing first base world packets with
  | zero =>
      refine .stopped _ (List.append_nil _).symm fun completes => ?_
      simp [Exchange.Completes] at completes
  | succ left ih =>
      cases packets with
      | nil =>
          have nothing := served world same rfl
          have unlogged := (nextPacket_unlogged host world).1
          rcases read : nextPacket host world with ⟨_ | packet, after⟩
          · rw [read] at unlogged
            rw [configurationLoop, Prog.bind_none (readProtocolPacket_none app _ read)]
            refine .stopped after ?_ fun completes => ?_
            · exact unlogged.trans (List.append_nil _).symm
            · simp [Exchange.Completes] at completes
          · rw [read] at nothing
            cases nothing
      | cons packet packets =>
          obtain ⟨after, received, further⟩ := served world same rfl
          obtain ⟨unlogged, kept⟩ := nextPacket_unlogged host world
          rw [received] at unlogged kept
          obtain ⟨body, events, told, shown⟩ := readProtocolPacket_some listens .configuration received
          rw [configurationLoop, Prog.bind_some told, List.take_succ_cons, Exchange.trace]
          let now : World := { after with events := events }
          have protocolNow : now.client.profile.protocol = exchange.protocol :=
            (congrArg McProfile.protocol kept).trans protocol
          have goesOn : ¬ exchange.Last packet → ∀ last,
              last.frames = now.frames ++ exchange.answers first packet → SameIncoming now last →
              last.client.profile = now.client.profile →
              Exchanged last (exchange.trace false (packets.take left))
                (exchange.Completes (packets.take left))
                (configurationLoop host app exchange.protocol requested left
                  (decide (776 ≤ exchange.protocol) && !false) last) := by
            intro goes last logged incoming profile
            have rest := further.resolve_left goes
            have log : last.frames = world.frames ++ exchange.answers first packet :=
              logged.trans (congrArg (· ++ _) unlogged)
            rw [← log] at rest
            have start : SameIncoming after now := ⟨rfl, rfl, rfl, rfl, rfl, rfl⟩
            exact ih false (start.trans incoming)
              ((congrArg McProfile.protocol profile).trans protocolNow) rest
          have turn := turn_exchanged host first writes small protocolNow shown goesOn
          rw [← exchange.completes_cons] at turn
          have informed : ((decide (776 ≤ exchange.protocol) && !first) ||
              decide (776 ≤ exchange.protocol ∧
                (decide (776 ≤ exchange.protocol) && !first) = false)) =
              decide (776 ≤ exchange.protocol) := by
            by_cases modern : 776 ≤ exchange.protocol
            · simp [modern]
            · simp [modern]
          rw [Bool.not_false, Bool.and_true] at turn
          dsimp only
          rw [informed, ← known]
          exact turn.of_frames unlogged

end Following

namespace Exchange

variable (exchange : Exchange)

/-- An exchange that completes sends the information once, an answer for each of the known
packs, and the finish behind everything. -/
theorem trace_completes (first : Bool) {packets : List ServerPacket}
    (completes : exchange.Completes packets) :
    exchange.trace first packets = exchange.early first ++
      (exchange.untilFinish packets).flatMap exchange.selection ++
        exchange.late ++ [exchange.finish] := by
  induction packets generalizing first with
  | nil => simp [Completes] at completes
  | cons packet packets ih =>
      obtain ⟨fits, ends⟩ := (exchange.completes_cons packet packets).mp completes
      rw [trace, answers, if_neg fits, untilFinish]
      by_cases finishes : exchange.Finishes packet
      · have last : exchange.Last packet := .inr finishes
        simp [finishes, last]
      · have goes : ¬ exchange.Last packet := by
          rintro (large | final)
          · exact fits large
          · exact finishes final
        have rest := ih false (ends.resolve_left finishes)
        simp [finishes, goes, rest, early]

/-- One that does not sends informations and answers only. -/
theorem trace_incomplete (first : Bool) {packets : List ServerPacket}
    (incomplete : ¬ exchange.Completes packets) :
    ∀ frame ∈ exchange.trace first packets, frame.packetId = 0x00 ∨ frame.packetId = 0x07 := by
  have earlyIds (first : Bool) : ∀ frame ∈ exchange.early first, frame.packetId = 0x00 := by
    intro frame mem
    unfold early at mem
    split_ifs at mem
    · rw [List.mem_singleton.mp mem, information]
    · cases mem
  induction packets generalizing first with
  | nil => nofun
  | cons packet packets ih =>
      intro frame mem
      have ends := (exchange.completes_cons packet packets).not.mp incomplete
      rw [trace, answers] at mem
      by_cases oversized : exchange.Oversized packet
      · have last : exchange.Last packet := .inl oversized
        rw [if_pos oversized, if_pos last, List.append_nil, List.append_nil] at mem
        exact .inl (earlyIds first frame mem)
      · have open' : ¬ exchange.Finishes packet ∧ ¬ exchange.Completes packets := by
          by_contra other
          exact ends ⟨oversized, by tauto⟩
        have goes : ¬ exchange.Last packet := by
          rintro (large | final)
          · exact oversized large
          · exact open'.1 final
        rw [if_neg oversized, if_neg open'.1, if_neg goes, List.append_nil] at mem
        rcases List.mem_append.mp mem with answered | later
        · rcases List.mem_append.mp answered with settings | selected
          · exact .inl (earlyIds first frame settings)
          · unfold selection at selected
            by_cases selects : exchange.Selects packet
            · rw [if_pos selects] at selected
              rw [List.mem_singleton.mp selected]
              exact .inr rfl
            · rw [if_neg selects] at selected
              cases selected
        · exact ih false open'.2 frame later

end Exchange

theorem configurationExchange_exchanged {host : Host} {app : App}
    {requested : Option McClientInformation} {world : World} {packets : List ServerPacket}
    (genuine : world.client.profile.Genuine)
    (accepted : ∀ information ∈ requested, ∃ capacity,
      (buildPacket capacity
        (mcPacketClientInformation world.client.profile.protocol information)).1 = some ())
    (listens : app.Listens)
    (served : Serves host (world.exchange host requested) mcConfigPackets true world
      (world.frames ++ [Exchange.acknowledgement]) packets) :
    Exchanged world ([Exchange.acknowledgement] ++
        (world.exchange host requested).trace true (packets.take mcConfigPackets))
      ((world.exchange host requested).Completes (packets.take mcConfigPackets))
      (configurationExchange host app requested world) := by
  have valid := @informationFor_valid _ requested genuine.supported
    fun information mem => by
      obtain ⟨capacity, wrote⟩ := accepted information mem
      exact McClientInformation.valid_of_accepted wrote
  obtain ⟨bytes, writes, short⟩ := valid.writes
  obtain ⟨packet, built, -, body⟩ := writes.build (short.trans (by decide : 41 ≤ 128))
  have settings : (world.exchange host requested).settings = bytes := by
    rw [World.exchange, built]
    exact body
  obtain ⟨events, entered⟩ := changeState_listens listens host .configuration world
  rw [configurationExchange, Prog.bind_some entered]
  let start : World :=
    { world with client := { world.client with state := .configuration }, events := events }
  have acknowledged : Sent start [Exchange.acknowledgement] (sendFrame host 0x03 (.null 0) start) :=
    Sent.sendFrame host 0x03 (.null 0) start
  have same : SameIncoming world start := ⟨rfl, rfl, rfl, rfl, rfl, rfl⟩
  refine Exchanged.of_frames (Exchanged.behind acknowledged fun after logged incoming profile => ?_)
    (show start.frames = world.frames from rfl)
  have protocol : after.client.profile.protocol = world.client.profile.protocol :=
    congrArg McProfile.protocol profile
  have looped := @configurationLoop_exchanged _ _ (world.exchange host requested) _ listens
    rfl (settings ▸ writes) (settings ▸ short.trans (by decide : 41 ≤ 128)) mcConfigPackets true
    world after packets (same.trans incoming) protocol (by
      rw [logged]
      exact served)
  rw [Bool.not_true, Bool.and_false] at looped
  refine (Prog.bind_some rfl : _ = configurationLoop host app after.client.profile.protocol
    requested mcConfigPackets false after) ▸ ?_
  rw [protocol]
  exact looped

/-- With all sends succeeding and callbacks that only listen, the configuration exchange
sends exactly the trace of the server's first packets, each answer before the next packet is
asked for. It returns `0`, in PLAY, if and only if the finish is among them and every echo
fits until then; the trace then is the acknowledgement, the information, the selections and
the finish, each where its release has it, and otherwise has no finish. -/
theorem configuration_trace (host : Host) (app : App) (requested : Option McClientInformation)
    (world : World) (packets : List ServerPacket) (genuine : world.client.profile.Genuine)
    (accepted : ∀ information ∈ requested, ∃ capacity,
      (buildPacket capacity
        (mcPacketClientInformation world.client.profile.protocol information)).1 = some ())
    (listens : app.Listens)
    (served : Serves host (world.exchange host requested) mcConfigPackets true world
      (world.frames ++ [Exchange.acknowledgement]) packets)
    (sends : ∀ frame ∈ (configuration host app requested world).2.frames.drop world.frames.length,
      frame.succeeded = true) :
    let exchange := world.exchange host requested
    let seen := packets.take mcConfigPackets
    let ended := configuration host app requested world
    ended.2.frames = world.frames ++ Exchange.acknowledgement :: exchange.trace true seen ∧
    (ended.1 = some () ↔ exchange.Completes seen) ∧
    (ended.1 = some () → ended.2.client.state = .play ∧
      exchange.trace true seen = exchange.early true ++
        (exchange.untilFinish seen).flatMap exchange.selection ++
          exchange.late ++ [exchange.finish]) ∧
    (ended.1 = none → ∀ frame ∈ exchange.trace true seen,
      frame.packetId = 0x00 ∨ frame.packetId = 0x07) := by
  have exchanged := configurationExchange_exchanged genuine accepted listens served
  intro exchange seen ended
  rcases run : configurationExchange host app requested world with ⟨result, reached⟩
  rw [run] at exchanged
  have failing {log : List SentFrame} (logged : ended.2.frames = world.frames ++ log)
      {frame : SentFrame} (mem : frame ∈ log) (refused : frame.succeeded = false) : False := by
    have succeeded := sends frame (by rw [logged, List.drop_left]; exact mem)
    rw [refused] at succeeded
    cases succeeded
  cases exchanged with
  | sent after logged completes =>
      obtain ⟨events, entered⟩ := changeState_listens listens host .play reached
      have final : ended = (some (), { reached with
          client := { reached.client with state := .play }, events := events }) :=
        (Prog.bind_some run).trans entered
      rw [final]
      exact ⟨logged, ⟨fun _ => completes, fun _ => rfl⟩,
        fun _ => ⟨rfl, exchange.trace_completes true completes⟩, nofun⟩
  | stopped after logged stops =>
      have final : ended = (none, reached) := Prog.bind_none run
      rw [final]
      exact ⟨logged, ⟨nofun, fun completes => absurd completes stops⟩, nofun,
        fun _ => exchange.trace_incomplete true stops⟩
  | failed after log logged frame mem refused =>
      have final : ended = (none, reached) := Prog.bind_none run
      exact (failing (by rw [final]; exact logged) mem refused).elim

/-- Whether memory is granted does not depend on what was asked for before. -/
def Heap.Steady (heap : Heap) : Prop :=
  ∀ serial other size, heap.grant serial size = heap.grant other size

/-- One read after the other gives these packets. -/
def GivesPackets (host : Host) (exchange : Exchange) : Nat → World → List ServerPacket → Prop
  | 0, _, _ => True
  | _ + 1, world, [] => (nextPacket host world).1 = none
  | left + 1, world, packet :: packets =>
      (nextPacket host world).1 = some packet ∧
        (exchange.Last packet ∨ GivesPackets host exchange left (nextPacket host world).2 packets)

section Reading

variable {host : Host} (steady : host.heap.Steady)

theorem setError_agrees {α : Type} (message : String) :
    Prog.Agrees SameIncoming (setError message : ClientM α) :=
  fun _ _ same => ⟨rfl, ⟨same.socketFd, same.decoder, same.transforms, same.arrivals, same.waits,
    same.decrypted⟩⟩

theorem feedOne_agrees (host : Host) (data : Buffer) :
    Prog.Agrees SameIncoming (feedOne host data) := by
  intro world other same
  unfold feedOne
  rw [same.decoder]
  dsimp only
  split_ifs
  · exact ⟨rfl, ⟨same.socketFd, rfl, same.transforms, same.arrivals, same.waits, same.decrypted⟩⟩
  · exact ⟨rfl, ⟨same.socketFd, rfl, same.transforms, same.arrivals, same.waits, same.decrypted⟩⟩

theorem receiveSome_agrees (capacity : Nat) : Prog.Agrees SameIncoming (receiveSome capacity) := by
  intro world other same
  unfold receiveSome
  rw [same.socketFd, same.arrivals, same.waits, same.decrypted]
  split_ifs with closed
  · exact setError_agrees _ _ _ same
  · rcases receiveLoop capacity world.network.arrivals world.network.waits with
      ⟨message | data, arrivals, waits⟩
    · exact ⟨rfl, ⟨same.socketFd, same.decoder, same.transforms, rfl, rfl, rfl⟩⟩
    · dsimp only
      have shared := same.transforms
      cases there : world.client.transforms with
      | none =>
          rw [there] at shared
          rw [shared]
          exact ⟨rfl, ⟨same.socketFd, same.decoder, rfl, rfl, rfl, rfl⟩⟩
      | some transforms =>
          rw [there] at shared
          rw [shared]
          dsimp only
          cases transforms.decrypt world.decrypted data with
          | none => exact ⟨rfl, ⟨same.socketFd, same.decoder, rfl, rfl, rfl, rfl⟩⟩
          | some plain => exact ⟨rfl, ⟨same.socketFd, same.decoder, rfl, rfl, rfl, rfl⟩⟩

include steady

theorem copyDecodedFrame_agrees (decoded : StreamPacket) :
    Prog.Agrees SameIncoming (copyDecodedFrame host decoded) := by
  unfold copyDecodedFrame
  refine .bind ?_ fun _ => .bind ?_ fun _ => .pure _
  · unfold refuseIf
    split_ifs
    · exact setError_agrees _
    · exact .pure ()
  · intro world other same
    unfold allocate
    rw [steady other.allocated world.allocated]
    split_ifs
    · exact ⟨rfl, ⟨same.socketFd, same.decoder, same.transforms, same.arrivals, same.waits,
        same.decrypted⟩⟩
    · exact ⟨rfl, ⟨same.socketFd, same.decoder, same.transforms, same.arrivals, same.waits,
        same.decrypted⟩⟩

theorem readFrameTurn_agrees : Prog.Agrees SameIncoming (readFrameTurn host) := by
  refine .bind (feedOne_agrees host _) fun found => ?_
  cases found with
  | some decoded => exact .bind (copyDecodedFrame_agrees steady decoded) fun _ => .pure _
  | none =>
      refine .bind (receiveSome_agrees _) fun received => .bind (feedOne_agrees host _) fun found => ?_
      cases found with
      | some decoded => exact .bind (copyDecodedFrame_agrees steady decoded) fun _ => .pure _
      | none => exact .pure _

theorem readFrame_agrees : Prog.Agrees SameIncoming (readFrame host) := by
  have loops (fuel : Nat) : Prog.Agrees SameIncoming (readFrameLoop host fuel) := by
    induction fuel with
    | zero => exact .refuse
    | succ fuel ih =>
        refine .bind (readFrameTurn_agrees steady) fun frame => ?_
        cases frame with
        | some frame => exact .pure _
        | none => exact ih
  intro world other same
  unfold readFrame
  rw [same.arrivals]
  exact loops _ world other same

/-- What is read does not depend on what was sent. -/
theorem nextPacket_agrees : Prog.Agrees SameIncoming (nextPacket host) := by
  refine .bind (readFrame_agrees steady) fun frame => ?_
  rcases mcReaderVarint.run (mcReaderInit frame) with ⟨_ | packetId, body⟩
  · exact setError_agrees _
  · exact .pure _

/-- Where memory is steady, a server serves what can be read from it. -/
theorem serves_of_reads {exchange : Exchange} {left : Nat} {first : Bool} {world : World}
    {log : List SentFrame} {packets : List ServerPacket}
    (reads : GivesPackets host exchange left world packets) :
    Serves host exchange left first world log packets := by
  have moved {left : Nat} {first : Bool} {world other : World} {log : List SentFrame}
      {packets : List ServerPacket} (same : SameIncoming world other)
      (serves : Serves host exchange left first world log packets) :
      Serves host exchange left first other log packets := by
    cases left with
    | zero => trivial
    | succ left =>
        cases packets with
        | nil => exact fun next alike => serves next (same.trans alike)
        | cons packet packets => exact fun next alike => serves next (same.trans alike)
  induction left generalizing first world log packets with
  | zero => trivial
  | succ left ih =>
      cases packets with
      | nil =>
          intro other same _
          rw [← (nextPacket_agrees steady world other same).1]
          exact reads
      | cons packet packets =>
          intro other same _
          obtain ⟨value, after⟩ := nextPacket_agrees steady world other same
          obtain ⟨received, further⟩ := reads
          refine ⟨(nextPacket host other).2, Prod.ext (value ▸ received) rfl, ?_⟩
          exact further.imp_right fun rest => moved after (ih rest)

end Reading

theorem Heap.ample_steady : Heap.ample.Steady := fun _ _ _ => rfl

/-- Known packs and the finish of release 776, to a client without information: it sends its
information behind the first, and echoes that. -/
theorem configuration_trace_selected :
    let host := { Host.ample (.knowing [] []) with
      catalog := ⟨fun _ _ _ => ["a", "b", "c", "finish_configuration", "select_known_packs"]⟩ }
    let client := (mcClientCreate 776 true true).toOption.get (by decide)
    let quiet := World.around { client with socketFd := 3, state := .login }
    let world := { quiet with network := { quiet.network with arrivals := [.bytes [2, 4, 9, 1, 3]] } }
    let ended := configuration host ⟨none, none, 0⟩ none world
    ended.1 = some () ∧ ended.2.frames =
      [⟨3, [], true⟩,
        ⟨0, [5, 101, 110, 95, 117, 115, 2, 0, 1, 127, 1, 0, 0, 0], true⟩,
        ⟨7, [9], true⟩, ⟨3, [], true⟩] := by
  intro host client quiet world ended
  let packets : List ServerPacket := [⟨4, [9]⟩, ⟨3, []⟩]
  have first : (nextPacket host world).1 = some ⟨4, [9]⟩ := by decide +kernel
  have second : (nextPacket host (nextPacket host world).2).1 = some ⟨3, []⟩ := by decide +kernel
  have last : (world.exchange host none).Last ⟨3, []⟩ := .inr (by decide +kernel)
  have reads : GivesPackets host (world.exchange host none) mcConfigPackets world packets :=
    ⟨first, .inr ⟨second, .inl last⟩⟩
  have sends : ∀ frame ∈ ended.2.frames.drop world.frames.length, frame.succeeded = true := by
    decide +kernel
  obtain ⟨frames, result, -, -⟩ := configuration_trace host ⟨none, none, 0⟩ none world packets
    (show findProfile world.client.profile.protocol = _ by decide +kernel) nofun ⟨nofun, nofun⟩
    (serves_of_reads Heap.ample_steady reads) sends
  exact ⟨result.mpr (by decide +kernel), frames.trans (by decide +kernel)⟩

end McProtocol
