import McProtocol.Client.AutomaticReplies
import McProtocol.Client.Receiving
import McProtocol.Client.Runs

/-! # What the application is told

An application that leaves framing alone is told of the packets of the stream one after the
other: none is lost, none comes twice, and none overtakes another, however the bytes arrive,
whatever the application does in between, and wherever the connection ends.
-/

namespace McProtocol

open Incremental

/-- A call that touches neither compression nor the transforms. -/
def AppCall.Plain : AppCall → Prop
  | .setCompression _ => False
  | .setStreamTransforms _ => False
  | _ => True

def AppProgram.Plain : AppProgram → Prop
  | .done => True
  | .call request next => request.Plain ∧ ∀ succeeded, (next succeeded).Plain

/-- The application has packets called back, and its callbacks make plain calls. -/
structure App.Plain (app : App) : Prop where
  hears : app.onPacket.isSome = true
  onState : ∀ callback ∈ app.onState, ∀ events, (callback events).Plain
  onPacket : ∀ callback ∈ app.onPacket, ∀ events, (callback events).Plain

def ConnectionCall.Plain : ConnectionCall → Prop
  | .poll _ => True
  | .request call => call.Plain

/-- The packets among the events: id and body. -/
def toldPackets (events : List McEvent) : List (Int × List UInt8) :=
  events.filterMap fun
    | .packet _ packetId payload => some (packetId, payload)
    | _ => none

def StreamPacket.told (packet : StreamPacket) : Int × List UInt8 := (packet.packetId, packet.payload)

theorem toldPackets_append (events more : List McEvent) :
    toldPackets (events ++ more) = toldPackets events ++ toldPackets more :=
  List.filterMap_append

/-- Nothing is read and no packet told; a client without a socket gets none. -/
structure Aside (before after : World) : Prop where
  decoder : after.client.streamDecoder = before.client.streamDecoder
  transforms : after.client.transforms = before.client.transforms
  arrivals : after.network.arrivals = before.network.arrivals
  told : toldPackets after.events = toldPackets before.events
  detached : before.client.socketFd < 0 → after.client.socketFd < 0

theorem Aside.refl (world : World) : Aside world world := ⟨rfl, rfl, rfl, rfl, id⟩

theorem Aside.trans {first second third : World} (left : Aside first second)
    (right : Aside second third) : Aside first third :=
  ⟨right.decoder.trans left.decoder, right.transforms.trans left.transforms,
    right.arrivals.trans left.arrivals, right.told.trans left.told,
    right.detached ∘ left.detached⟩

def aside : Discipline World := .moving Aside .refl fun _ _ _ => .trans

theorem Aside.of_sending {before after : World} (same : SameButSending before after)
    (incoming : SameIncoming before after) : Aside before after where
  decoder := incoming.decoder
  transforms := incoming.transforms
  arrivals := incoming.arrivals
  told := by rw [same.events]
  detached := by
    intro detached
    rw [incoming.socketFd]
    exact detached

theorem Listening.of_aside {threshold : Int} {stream : List UInt8} {world after : World}
    (listening : Listening threshold stream world) (moved : Aside world after) :
    Listening threshold stream after where
  untransformed := moved.transforms.trans listening.untransformed
  holds := by
    obtain ⟨buffer, holds, front⟩ := listening.holds
    rw [← moved.decoder] at holds
    rw [← moved.arrivals] at front
    exact ⟨buffer, holds, front⟩

theorem aside_of_memoryOnly {α : Type} {program : ClientM α} (lawful : memoryOnly.Lawful program) :
    aside.Lawful program :=
  .of_steps fun world =>
    .of_sending ((sending_of_memoryOnly lawful).moves world) ((unread_of_memoryOnly lawful).moves world)

theorem aside_covers : CoversMemory aside := ⟨aside_of_memoryOnly⟩

/-- A change of the client that a read does not see. -/
theorem aside_modify {change : McClient → McClient}
    (decoder : ∀ client, (change client).streamDecoder = client.streamDecoder)
    (transforms : ∀ client, (change client).transforms = client.transforms)
    (detached : ∀ client, client.socketFd < 0 → (change client).socketFd < 0) :
    aside.Lawful (modifyClient change) :=
  .of_steps fun world =>
    ⟨decoder world.client, transforms world.client, rfl, rfl, detached world.client⟩

section Moving

variable (host : Host)

theorem aside_sendFrame (packetId : Int) (payload : Buffer) :
    aside.Lawful (sendFrame host packetId payload) :=
  .of_steps fun world => .of_sending ((sendFrame_sending host packetId payload).moves world)
    (sendFrame_unread host packetId payload world)

theorem aside_sendAll (data : List UInt8) : aside.Lawful (sendAll host data) :=
  .of_steps fun world => .of_sending ((sendAll_sending host data).moves world)
    ((Discipline.Lawful.bind (encryptStream_unread host data) writeSocket_unread :
      unread.Lawful (sendAll host data)).moves world)

theorem aside_refuseUnconnected : aside.Lawful refuseUnconnected :=
  .bind (aside_covers.observe_lawful _) fun _ => aside_covers.refuseIf_lawful _ _

theorem aside_send (packetId : Int) (payload : Buffer) :
    aside.Lawful (mcClientSend host packetId payload) :=
  .bind aside_refuseUnconnected fun _ => aside_sendFrame host packetId payload

theorem aside_sendNamed (packetName : String) (payload : Buffer) :
    aside.Lawful (mcClientSendNamed host packetName payload) :=
  .bind aside_refuseUnconnected fun _ => .bind (aside_covers.observe_lawful _) fun _ =>
    .bind (aside_covers.refuseIf_lawful _ _) fun _ => aside_send host _ payload

theorem aside_sendBatch (batch : Batch) : aside.Lawful (mcClientSendBatch host batch) := by
  refine .bind aside_refuseUnconnected fun _ => ?_
  cases batch with
  | null count => exact aside_covers.refuseIf_lawful _ _
  | packets packets =>
      refine .bind (aside_of_memoryOnly (batchLoop_memoryOnly host packets 0 [])) fun batch => ?_
      split_ifs
      · exact .pure ()
      · exact aside_sendAll host batch

theorem aside_trackPosition (position : McPlayerPosition) : aside.Lawful (trackPosition position) :=
  aside_modify (fun _ => rfl) (fun _ => rfl) fun _ => id

theorem aside_sendPlayerPosition (position : McPlayerPosition) :
    aside.Lawful (mcClientSendPlayerPosition host position) :=
  .bind (aside_covers.observe_lawful _) fun _ => .bind (aside_covers.refuseIf_lawful _ _) fun _ =>
    .bind (aside_covers.refuseIf_lawful _ _) fun _ =>
      .bind (aside_sendNamed host _ _) fun _ => aside_trackPosition position

theorem aside_tell {event : McEvent} (other : toldPackets [event] = []) : aside.Lawful (tell event) :=
  .of_steps fun world => by
    refine ⟨rfl, rfl, rfl, ?_, id⟩
    change toldPackets (world.events ++ [event]) = toldPackets world.events
    rw [toldPackets_append, other, List.append_nil]

theorem aside_answered {call : ClientM Unit} (lawful : aside.Lawful call) :
    aside.Lawful (answered call) :=
  .of_steps lawful.moves

section Changing

variable {change : McState → ClientM Unit} (changes : ∀ state, aside.Lawful (change state))
include changes

theorem aside_performAppCall {request : AppCall} (plain : request.Plain) :
    aside.Lawful (performAppCall host change request) := by
  cases request with
  | disconnect =>
      exact .bind (aside_modify (fun _ => rfl) (fun _ => rfl) fun _ _ => (by decide : (-1 : Int) < 0))
        fun _ => changes _
  | setState state =>
      exact .bind (aside_covers.observe_lawful _) fun _ => .bind (aside_covers.refuseIf_lawful _ _)
        fun _ => .bind (aside_covers.refuseIf_lawful _ _) fun _ => changes state
  | setCompression threshold => exact plain.elim
  | setReadTimeout timeoutMs =>
      exact .bind (aside_covers.refuseIf_lawful _ _) fun _ =>
        aside_modify (fun _ => rfl) (fun _ => rfl) fun _ => id
  | setStreamTransforms transforms => exact plain.elim
  | send packetId payload => exact aside_send host packetId payload
  | sendNamed packetName payload => exact aside_sendNamed host packetName payload
  | sendBatch batch => exact aside_sendBatch host batch
  | sendPlayerPosition position => exact aside_sendPlayerPosition host position

theorem aside_runProgram {program : AppProgram} (plain : program.Plain) :
    aside.Lawful (runProgram host change program) := by
  induction program with
  | done => exact .pure ()
  | call request next ih =>
      refine .bind (aside_answered (aside_performAppCall host changes plain.1)) fun succeeded => ?_
      exact .bind (aside_tell rfl) fun _ => ih succeeded (plain.2 succeeded)

theorem aside_runCallback {callback : List McEvent → AppProgram}
    (plain : ∀ events, (callback events).Plain) :
    aside.Lawful (runCallback host change callback) :=
  .bind (aside_covers.observe_lawful _) fun events => aside_runProgram host changes (plain events)

end Changing

variable {app : App}

theorem aside_changeStateAt (plain : app.Plain) (depth : Nat) (state : McState) :
    aside.Lawful (changeStateAt host app depth state) := by
  have enters : aside.Lawful (modifyClient fun client => { client with state := state }) :=
    aside_modify (fun _ => rfl) (fun _ => rfl) fun _ => id
  induction depth generalizing state with
  | zero =>
      unfold changeStateAt
      refine .bind (aside_covers.observe_lawful _) fun previous => ?_
      split_ifs
      · exact .pure ()
      · refine .bind enters fun _ => ?_
        cases app.onState with
        | none => exact .pure ()
        | some callback => exact .bind (aside_tell rfl) fun _ => .pure ()
  | succ depth ih =>
      unfold changeStateAt
      refine .bind (aside_covers.observe_lawful _) fun previous => ?_
      split_ifs
      · exact .pure ()
      · refine .bind enters fun _ => ?_
        cases called : app.onState with
        | none => exact .pure ()
        | some callback =>
            have below (state : McState) : aside.Lawful (changeStateAt host app depth state) :=
              ih state (aside_modify (fun _ => rfl) (fun _ => rfl) fun _ => id)
            exact .bind (aside_tell rfl) fun _ =>
              aside_runCallback host below (plain.onState callback called)

theorem aside_changeState (plain : app.Plain) (state : McState) :
    aside.Lawful (changeState host app state) := aside_changeStateAt host plain _ state

theorem aside_disconnect (plain : app.Plain) : aside.Lawful (mcClientDisconnect host app) :=
  .bind (aside_modify (fun _ => rfl) (fun _ => rfl) fun _ _ => (by decide : (-1 : Int) < 0))
    fun _ => aside_changeState host plain _

theorem aside_answers : CoversAnswers host aside where
  remembers := aside_of_memoryOnly
  sendsFrame := aside_sendFrame host
  tracks := aside_trackPosition
  loads := aside_modify (fun _ => rfl) (fun _ => rfl) fun _ => id

theorem aside_pollAnswer (received : Received) : aside.Lawful (pollAnswer host received) :=
  .bind (aside_covers.observe_lawful _) fun _ =>
    .when ((aside_answers host).handlePlay_lawful received.packetId received.body)

end Moving

/-- Reading tells nothing. -/
def untold : Discipline World :=
  .moving (fun before after => after.events = before.events) (fun _ => rfl)
    fun _ _ _ left right => right.trans left

theorem untold_of_memoryOnly {α : Type} {program : ClientM α} (lawful : memoryOnly.Lawful program) :
    untold.Lawful program :=
  .of_steps fun world => (lawful.steps world trivial).events

theorem untold_frames (host : Host) : CoversFrames host untold where
  remembers := untold_of_memoryOnly
  feeds data := by
    apply Discipline.Lawful.of_steps
    intro world
    obtain ⟨error, same⟩ := feedOne_after host data world
    rw [same]
  receives capacity := by
    apply Discipline.Lawful.of_steps
    intro world
    obtain ⟨arrivals, waits, received, error, decrypted, same, -⟩ := receiveSome_after capacity world
    rw [same]

theorem readFrame_untold (host : Host) : untold.Lawful (readFrame host) :=
  .of_steps fun world => ((untold_frames host).readFrameLoop_lawful _).moves world

section Hearing

variable {host : Host} {app : App} {threshold : Int} {stream : List UInt8} {world after : World}

/-- The client has that before it, or reads no more. -/
def Left (threshold : Int) (stream : List UInt8) (world : World) : Prop :=
  Listening threshold stream world ∨ world.client.socketFd < 0

theorem Left.of_aside (left : Left threshold stream world) (moved : Aside world after) :
    Left threshold stream after := left.imp (·.of_aside moved) moved.detached

theorem emitPacket_tells (plain : app.Plain) (state : McState) (packetId : Int)
    (payload : List UInt8) (world : World) :
    ∃ after, emitPacket host app state packetId payload world = (some (), after) ∧
      Aside { world with events := world.events ++ [.packet state packetId payload] } after := by
  obtain ⟨callback, called⟩ := Option.isSome_iff_exists.mp plain.hears
  let told : World := { world with events := world.events ++ [.packet state packetId payload] }
  have run : emitPacket host app state packetId payload world =
      runCallback host (changeState host app) callback told := by
    unfold emitPacket
    rw [called]
    exact Prog.bind_some rfl
  obtain ⟨⟨⟩, after, returns⟩ := @runCallback_total host (changeState host app) callback told
  have moved := (aside_runCallback host (aside_changeState host plain)
    (plain.onPacket callback called)).moves told
  rw [returns] at moved
  exact ⟨after, run.trans returns, moved⟩

/-- The packet that is read is the first of the stream, and the application is told of it. -/
theorem readProtocolPacket_tells (plain : app.Plain) (listening : Listening threshold stream world)
    {state : McState} {result : Option (Int × McReader)}
    (run : readProtocolPacket host app state world = (result, after)) :
    result = none ∧ toldPackets after.events = toldPackets world.events ∨
      ∃ packet, TakesFirst host threshold stream packet after ∧
        toldPackets after.events = toldPackets world.events ++ [packet.told] := by
  have untold := (readFrame_untold host).moves world
  rcases reads : readFrame host world with ⟨_ | frame, read⟩
  · rw [reads] at untold
    rw [show readProtocolPacket host app state world = _ from Prog.bind_none reads] at run
    cases run
    exact .inl ⟨rfl, congrArg toldPackets untold⟩
  · rw [reads] at untold
    obtain ⟨packet, rfl, size, verdict, behind⟩ := readFrame_takes listening reads
    have start : (mcReaderInit packet.plain).Before
        (encodeVarint packet.packetId ++ packet.payload) := mcReaderInit_before packet.plain
    obtain ⟨after', emits, moved⟩ := @emitPacket_tells host app plain state packet.packetId
      packet.payload read
    have advanced := start.advance
    have whole : readProtocolPacket host app state world =
        (some (packet.packetId, (mcReaderInit packet.plain).advance
          (encodeVarint packet.packetId).length), after') := by
      refine (Prog.bind_some reads).trans ?_
      rw [mcReaderVarint_run (emitted_id verdict).1 start]
      dsimp only
      rw [advanced.drop_eq]
      exact Prog.bind_some emits
    rw [whole] at run
    cases run
    have listening' : Listening threshold (stream.drop size)
        { read with
          events := read.events ++ [.packet state packet.packetId packet.payload] } :=
      ⟨behind.untransformed, behind.holds⟩
    refine .inr ⟨packet, ⟨size, verdict, listening'.of_aside moved⟩, ?_⟩
    · rw [moved.told, toldPackets_append, untold]
      rfl

theorem pollReady_aside : aside.Lawful pollReady := by
  have waits : aside.Lawful backendWait := by
    apply Discipline.Lawful.of_steps
    intro world
    unfold backendWait
    cases world.network.waits with
    | nil => exact .refl world
    | cons wait waits => exact ⟨rfl, rfl, rfl, rfl, id⟩
  refine .bind (aside_covers.observe_lawful _) fun client => ?_
  split_ifs
  · exact .pure _
  · refine .bind waits fun wait => ?_
    cases wait with
    | ready => exact .pure _
    | timeout => exact .pure _
    | failed reason => exact aside_covers.setError_lawful _

/-- Nothing is told and nothing taken, or the first packet of the stream is both. -/
def Hears (host : Host) (threshold : Int) (stream : List UInt8) (before after : World) : Prop :=
  toldPackets after.events = toldPackets before.events ∧ Left threshold stream after ∨
    ∃ packet size, frameVerdict host.zlib mcStreamDecoderConfigInit threshold stream =
        .emit packet size ∧
      toldPackets after.events = toldPackets before.events ++ [packet.told] ∧
        Left threshold (stream.drop size) after

theorem Hears.of_aside {last : World} (hears : Hears host threshold stream world after)
    (moved : Aside after last) : Hears host threshold stream world last := by
  obtain ⟨told, left⟩ | ⟨packet, size, verdict, told, left⟩ := hears
  · exact .inl ⟨moved.told.trans told, left.of_aside moved⟩
  · exact .inr ⟨packet, size, verdict, moved.told.trans told, left.of_aside moved⟩

variable {timeoutMs : Nat}

/-- Where the read fails nothing is told, and the connection ends. -/
theorem pollPacket_hears (plain : app.Plain) (listening : Listening threshold stream world)
    {result : Option (Option Received)} (run : pollPacket host app timeoutMs world = (result, after)) :
    result = none ∧ toldPackets after.events = toldPackets world.events ∨
      Hears host threshold stream world after := by
  have moved := pollReady_aside.moves world
  rcases waited : pollReady world with ⟨_ | _ | _, ready⟩
  · rw [waited] at moved
    rw [show pollPacket host app timeoutMs world = _ from Prog.bind_none waited] at run
    cases run
    exact .inl ⟨rfl, moved.told⟩
  · rw [waited] at moved
    rw [show pollPacket host app timeoutMs world = _ from Prog.bind_some waited] at run
    cases run
    exact .inr (.inl ⟨moved.told, .inl (listening.of_aside moved)⟩)
  · rw [waited] at moved
    rw [show pollPacket host app timeoutMs world = _ from Prog.bind_some waited] at run
    have listening := listening.of_aside moved
    let start : World := { ready with client := { ready.client with readTimeoutMs := timeoutMs } }
    have before : Listening threshold stream start := ⟨listening.untransformed, listening.holds⟩
    rcases reads : readProtocolPacket host app ready.client.state start with ⟨found, read⟩
    let last : World :=
      { read with client := { read.client with readTimeoutMs := ready.client.readTimeoutMs } }
    have polled : pollRead host app timeoutMs ready =
        (found.map fun packet => ⟨ready.client.state, packet.1, packet.2⟩, last) := by
      unfold pollRead
      dsimp only
      rw [reads]
    obtain ⟨rfl, told⟩ | ⟨packet, ⟨size, verdict, behind⟩, told⟩ :=
      readProtocolPacket_tells plain before reads
    · rw [show (if true = true then _ else _ : ClientM (Option Received)) ready = _ from
        Prog.bind_none polled] at run
      have same : last = after := congrArg Prod.snd run
      rw [← same]
      exact .inl ⟨(congrArg Prod.fst run).symm, told.trans moved.told⟩
    · have same : after = last := by
        cases found with
        | none => exact (congrArg Prod.snd ((Prog.bind_none polled).symm.trans run)).symm
        | some packet => exact (congrArg Prod.snd ((Prog.bind_some polled).symm.trans run)).symm
      rw [same]
      refine .inr (.inr ⟨packet, size, verdict, ?_, .inl ⟨behind.untransformed, behind.holds⟩⟩)
      rw [← moved.told]
      exact told

/-- A poll that is refused, or of a client that is to stop. -/
theorem mcClientPoll_idle (idle : world.client.socketFd < 0 ∨ world.client.state = .disconnected ∨
      world.client.stop = true) : Aside world (mcClientPoll host app timeoutMs world).2 := by
  by_cases refused : world.client.socketFd < 0 ∨ world.client.state = .disconnected
  · have run : mcClientPoll host app timeoutMs world = setError "Client non connesso" world :=
      Prog.bind_none ((Prog.bind_some rfl).trans (refuseIf_pos refused))
    rw [run]
    exact ⟨rfl, rfl, rfl, rfl, id⟩
  · have stop : world.client.stop = true := by
      rw [← or_assoc] at idle
      exact idle.resolve_left refused
    have run : mcClientPoll host app timeoutMs world = (some false, world) := by
      refine (Prog.bind_some ((Prog.bind_some rfl).trans (refuseIf_neg refused))).trans ?_
      refine (Prog.bind_some rfl).trans ?_
      rw [if_pos stop]
      rfl
    rw [run]
    exact .refl world

theorem mcClientPoll_hears (plain : app.Plain) (listening : Listening threshold stream world) :
    Hears host threshold stream world (mcClientPoll host app timeoutMs world).2 := by
  by_cases connected : world.client.socketFd < 0 ∨ world.client.state = .disconnected ∨
      world.client.stop = true
  · have idle := @mcClientPoll_idle host app world timeoutMs connected
    exact .inl ⟨idle.told, .inl (listening.of_aside idle)⟩
  · rw [mcClientPoll_connected connected]
    have closes := (aside_disconnect host plain).moves
    have closed (world : World) : (mcClientDisconnect host app world).2.client.socketFd < 0 := by
      rw [(mcClientDisconnect_closed host app world).socket]
      decide
    rcases run : pollPacket host app timeoutMs world with ⟨_ | _ | received, called⟩
    · have failed : pollConnected host app timeoutMs world = (none, called) := Prog.bind_none run
      rw [orDisconnect_failed host app failed]
      obtain ⟨-, told⟩ | hears := pollPacket_hears plain listening run
      · exact .inl ⟨(closes called).told.trans told, .inr (closed called)⟩
      · exact hears.of_aside (closes called)
    · have nothing : pollConnected host app timeoutMs world = (some false, called) :=
        Prog.bind_some run
      rw [orDisconnect_some host app nothing]
      exact (pollPacket_hears plain listening run).resolve_left fun failed => by cases failed.1
    · have hears := (pollPacket_hears plain listening run).resolve_left fun failed => by
        cases failed.1
      have answering := (aside_pollAnswer host received).moves called
      rcases answers : pollAnswer host received called with ⟨_ | u, answered⟩
      · rw [answers] at answering
        have failed : pollConnected host app timeoutMs world = (none, answered) :=
          (Prog.bind_some run).trans (Prog.bind_none answers)
        rw [orDisconnect_failed host app failed]
        exact (hears.of_aside answering).of_aside (closes answered)
      · rw [answers] at answering
        have done : pollConnected host app timeoutMs world = (some true, answered) :=
          (Prog.bind_some run).trans (Prog.bind_some answers)
        rw [orDisconnect_some host app done]
        exact hears.of_aside answering

end Hearing

section Running

variable (host : Host) (app : App)

def ConnectionCall.after : ConnectionCall → World → World
  | .poll timeoutMs, world => (mcClientPoll host app timeoutMs world).2
  | .request call, world => (performAppCall host (changeState host app) call world).2

def afterCalls : List ConnectionCall → World → World
  | [], world => world
  | call :: calls, world => afterCalls calls (call.after host app world)

/-- `mc_client_run`, `turns` turns of its loop: whether it has returned `0`. -/
def mcClientRun : Nat → ClientM Bool
  | 0 => pure false
  | turns + 1 => do
      let client ← Prog.observe World.client
      if client.stop then pure true
      else do
        let _ ← mcClientPoll host app 1000
        mcClientRun turns

/-- What was told is what the scanner finds first in the stream, packet by packet, and what is
behind it is still there. -/
def HeardInOrder (host : Host) (threshold : Int) (stream : List UInt8) (before after : World) : Prop :=
  ∃ count,
    let outcome := (frameScanner host.zlib mcStreamDecoderConfigInit threshold).take count stream
    outcome.error = none ∧ outcome.frames.length = count ∧
      toldPackets after.events = toldPackets before.events ++ outcome.frames.map StreamPacket.told ∧
      Left threshold (stream.drop outcome.taken) after

variable {host : Host} {app : App} {threshold : Int} {stream : List UInt8} {world : World}

theorem ConnectionCall.after_hears (plain : app.Plain) {call : ConnectionCall}
    (harmless : call.Plain) (left : Left threshold stream world) :
    Hears host threshold stream world (call.after host app world) := by
  cases call with
  | request call =>
      have moved := (aside_performAppCall host (aside_changeState host plain) harmless).moves world
      exact .inl ⟨moved.told, left.of_aside moved⟩
  | poll timeoutMs =>
      cases left with
      | inl listening => exact mcClientPoll_hears plain listening
      | inr detached =>
          have idle := @mcClientPoll_idle host app world timeoutMs (.inl detached)
          exact .inl ⟨idle.told, .inr (idle.detached detached)⟩

theorem afterCalls_delivers (plain : app.Plain) {calls : List ConnectionCall}
    (harmless : ∀ call ∈ calls, call.Plain) (left : Left threshold stream world) :
    HeardInOrder host threshold stream world (afterCalls host app calls world) := by
  induction calls generalizing world stream with
  | nil => exact ⟨0, rfl, rfl, (List.append_nil _).symm, left⟩
  | cons call calls ih =>
      have others := fun later mem => harmless later (List.mem_cons_of_mem call mem)
      obtain ⟨told, left⟩ | ⟨packet, size, verdict, told, left⟩ :=
        ConnectionCall.after_hears plain (harmless call List.mem_cons_self) left
      · obtain ⟨count, clean, length, heard, rest⟩ := ih others left
        rw [told] at heard
        exact ⟨count, clean, length, heard, rest⟩
      · obtain ⟨count, clean, length, heard, rest⟩ := ih others left
        refine ⟨count + 1, ?_⟩
        intro outcome
        have split : outcome = _ :=
          (frameScanner host.zlib mcStreamDecoderConfigInit threshold).take_emit verdict
        rw [split]
        rw [told, List.append_assoc] at heard
        rw [List.drop_drop] at rest
        exact ⟨clean, congrArg (· + 1) length, heard, rest⟩

theorem mcClientRun_polls (turns : Nat) (world : World) :
    ∃ count, (mcClientRun host app turns world).2 =
      afterCalls host app (List.replicate count (.poll 1000)) world := by
  induction turns generalizing world with
  | zero => exact ⟨0, rfl⟩
  | succ turns ih =>
      have turn : mcClientRun host app (turns + 1) world =
          (if world.client.stop = true then pure true else do
            let _ ← mcClientPoll host app 1000
            mcClientRun host app turns : ClientM Bool) world := Prog.bind_some rfl
      by_cases stops : world.client.stop = true
      · rw [turn, if_pos stops]
        exact ⟨0, rfl⟩
      · rw [turn, if_neg stops]
        rcases polled : mcClientPoll host app 1000 world with ⟨_ | handled, after⟩
        · rw [Prog.bind_none polled]
          refine ⟨1, ?_⟩
          exact (congrArg Prod.snd polled).symm
        · rw [Prog.bind_some polled]
          obtain ⟨count, same⟩ := ih after
          refine ⟨count + 1, same.trans ?_⟩
          rw [← show (mcClientPoll host app 1000 world).2 = after from congrArg Prod.snd polled]
          rfl

theorem afterCalls_append (first second : List ConnectionCall) (world : World) :
    afterCalls host app (first ++ second) world =
      afterCalls host app second (afterCalls host app first world) := by
  induction first generalizing world with
  | nil => rfl
  | cons call first ih => exact ih _

end Running

/-- The application is told of the packets of the stream in their order, each of them once, and of
none behind one it was not told of: whatever it calls in between, from its callbacks too, however
the bytes arrive and whatever stops the client on the way, and for as long as the loop that serves
it goes on. -/
theorem deliveries_in_order (host : Host) (app : App) (plain : app.Plain)
    (calls : List ConnectionCall) (harmless : ∀ call ∈ calls, call.Plain) {threshold : Int}
    {stream : List UInt8} {world : World} (listening : Listening threshold stream world)
    (turns : Nat) :
    HeardInOrder host threshold stream world
      (mcClientRun host app turns (afterCalls host app calls world)).2 := by
  obtain ⟨count, polls⟩ := @mcClientRun_polls host app turns (afterCalls host app calls world)
  rw [polls, ← afterCalls_append]
  refine afterCalls_delivers plain (fun call mem => ?_) (.inl listening)
  rcases List.mem_append.mp mem with early | late
  · exact harmless call early
  · rw [List.eq_of_mem_replicate late]
    trivial

/-- Two packets in three chunks, with an interruption, under an application that answers each. -/
theorem deliveries_in_order_answering :
    let host := Host.ample (.knowing [] [])
    let app : App := ⟨none, some fun _ => .call (.send 7 (.bytes [1])) fun _ => .done, 0⟩
    let client := (mcClientCreate 772 true true).toOption.get (by decide)
    let quiet := World.around
      { client with
        socketFd := 3, state := .play, streamDecoder := mcStreamDecoderReset client.streamDecoder }
    let world := { quiet with network := { quiet.network with
      arrivals := [.bytes [2, 5], .interrupted, .bytes [1, 3], .bytes [6, 8, 9, 4]]
      waits := [.ready, .ready, .ready] } }
    let after := (mcClientRun host app 2 world).2
    HeardInOrder host (-1) [2, 5, 1, 3, 6, 8, 9, 4] world after ∧
      toldPackets after.events = [(5, [1]), (6, [8, 9])] := by
  intro host app client quiet world after
  have plain : app.Plain := by
    refine ⟨rfl, (fun _ called => by cases called), fun callback called events => ?_⟩
    cases called
    exact ⟨trivial, fun _ => trivial⟩
  have opened : world.Opened := ⟨by decide, rfl, client.streamDecoder, rfl, by decide, rfl⟩
  exact ⟨deliveries_in_order host app plain [] (fun _ mem => absurd mem List.not_mem_nil)
    opened.listening 2, by decide +kernel⟩

end McProtocol
