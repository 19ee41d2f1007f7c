import McProtocol.Client.Receiving
import McProtocol.RoundTrip
import McProtocol.Server.Handshake
import McProtocol.StickyWriter

/-! # The status ping

A client of its own, which says hello, asks for the status, and measures how long a number takes to
come back. What it reports is what the server has said, and it says no more than it has to.
-/

namespace McProtocol

open Incremental

/-- The arguments of `mc_status_ping_nonce`. A host that is not there is empty, and a buffer that is
not there has no room. -/
structure StatusRequest where
  protocol : Int
  address : List UInt8
  port : UInt16
  timeoutMs : Nat
  nonce : Int
  jsonCapacity : Nat
  deriving Repr, DecidableEq

structure McStatus where
  latencyMs : Nat
  jsonSize : Nat
  deriving Repr, DecidableEq

/-- Whether the client and its decoder can be allocated, and what the clock says before and after
the ping. -/
structure StatusConditions where
  granted : Bool
  decoderGranted : Bool
  started : Nat
  finished : Nat

/-- What the caller finds: whether the call returned `0`, and the buffer and the status, if they
were touched. -/
structure StatusOutcome where
  succeeded : Bool
  report : Option (List UInt8 × McStatus)

section Calling

variable (host : Host)

/-- `status_read_packet`: as `read_protocol_packet`, but it waits first, and nobody is told. -/
def statusReadPacket : ClientM (Int × McReader) := do
  let client ← Prog.observe World.client
  .when (streamDecoderFrameReady client.streamDecoder = false) do
    match ← backendWait with
    | .ready => pure ()
    | .timeout => setError "Timeout status Minecraft"
    | .failed reason => setError ("Attesa status fallita: " ++ reason)
  let frame ← readFrame host
  match mcReaderVarint.run (mcReaderInit frame) with
  | (none, _) => setError "Packet ID status non valido"
  | (some packetId, body) => pure (packetId, body)

variable (request : StatusRequest)

/-- The connection of the client that was just made. -/
def statusConnect : ClientM Unit := do
  let socketFd ← connectTcp
  modifyClient fun client => { client with socketFd := socketFd }
  backendInit

/-- The handshake and the request, in storage for 512 bytes, and the response to them. -/
def requestStatus : ClientM (List UInt8) := do
  sendBuilder host 0x00
    (buildPacket 512 (handshakePacket request.protocol request.address request.port .status)).2
  sendFrame host 0x00 (.null 0)
  let (packetId, body) ← statusReadPacket host
  match if packetId = 0x00 then mcReaderString.run body else (none, body) with
  | (none, _) => setError "Risposta status non valida"
  | (some response, rest) => do
      refuseIf (request.jsonCapacity ≤ response.length) "Buffer JSON status troppo piccolo"
      refuseIf (mcReaderRemaining rest ≠ 0) "Risposta status non valida"
      pure response

/-- The ping, and the same number back. -/
def pingStatus : ClientM Unit := do
  sendBuilder host 0x01 (buildPacket 512 (mcPacketI64 request.nonce)).2
  let (packetId, body) ← statusReadPacket host
  match if packetId = 0x01 then mcReaderI64.run body else (none, body) with
  | (none, _) => setError "Pong status non valido"
  | (some echoed, rest) =>
      refuseIf (echoed ≠ request.nonce ∨ mcReaderRemaining rest ≠ 0) "Pong status non valido"

/-- An application that is not called back. -/
def App.none : App := ⟨.none, .none, 0⟩

/-- The exchange of a client that was made for it, and is destroyed behind it. -/
def statusExchange (conditions : StatusConditions) (client : McClient) (world : World) :
    StatusOutcome × World :=
  let destroy (world : World) : World := (mcClientDisconnect host .none world).2
  match (do statusConnect; requestStatus host request)
      { world with client := { client with readTimeoutMs := request.timeoutMs } } with
  | (none, world) => (⟨false, some ([], ⟨0, 0⟩)⟩, destroy world)
  | (some response, world) =>
      match pingStatus host request world with
      | (none, world) => (⟨false, some (response, ⟨0, response.length⟩)⟩, destroy world)
      | (some (), world) =>
          let latency := if conditions.started ≤ conditions.finished then
            conditions.finished - conditions.started else 0
          (⟨true, some (response, ⟨latency, response.length⟩)⟩, destroy world)

def mcStatusPingNonce (conditions : StatusConditions) (world : World) : StatusOutcome × World :=
  if mcProtocolSupported request.protocol = false ∨ request.address = [] ∨ request.timeoutMs = 0
      ∨ request.jsonCapacity = 0 then
    (⟨false, none⟩, { world with error := "Parametri status non validi" })
  else
    match mcClientCreate request.protocol conditions.granted conditions.decoderGranted with
    | .error message => (⟨false, some ([], ⟨0, 0⟩)⟩, { world with error := message })
    | .ok client => statusExchange host request conditions client world

/-- `mc_status_ping`, whose number is the time it is called at. -/
def mcStatusPing (called : Nat) (conditions : StatusConditions) (world : World) :
    StatusOutcome × World :=
  mcStatusPingNonce host { request with nonce := toSigned 64 called } conditions world

end Calling

/-- A frame that is to be sent: its packet, and the body of it. -/
def SentFrame.told (frame : SentFrame) : Int × List UInt8 := (frame.packetId, frame.payload)

/-- The program sends these frames, one after the other, and none behind the one it refuses at. -/
def Plans {α : Type} (program : ClientM α) (planned : List (Int × List UInt8)) : Prop :=
  ∀ world, ∃ sent, (program world).2.frames = world.frames ++ sent ∧
    sent.map SentFrame.told <+: planned ∧
    ((program world).1 ≠ none →
      sent.map SentFrame.told = planned ∧ ∀ frame ∈ sent, frame.succeeded = true)

namespace Plans

variable {α β : Type} {program : ClientM α} {planned more : List (Int × List UInt8)}

theorem of_unlogged (lawful : unlogged.Lawful program) : Plans program [] := by
  intro world
  refine ⟨[], ?_, List.prefix_rfl, fun _ => ⟨rfl, nofun⟩⟩
  rw [List.append_nil]
  exact (lawful.moves world).1

theorem bind {rest : α → ClientM β} (first : Plans program planned)
    (then_ : ∀ a, Plans (rest a) more) : Plans (program >>= rest) (planned ++ more) := by
  intro world
  obtain ⟨sent, logged, inside, whole⟩ := first world
  rcases run : program world with ⟨_ | a, middle⟩
  · rw [run] at logged
    rw [Prog.bind_none run]
    exact ⟨sent, logged, inside.trans (List.prefix_append _ _), fun returned => absurd rfl returned⟩
  · rw [run] at logged whole
    obtain ⟨told, succeeded⟩ := whole (Option.some_ne_none a)
    obtain ⟨others, logged', inside', whole'⟩ := then_ a middle
    rw [Prog.bind_some run]
    refine ⟨sent ++ others, ?_, ?_, fun returned => ?_⟩
    · rw [logged', logged, List.append_assoc]
    · rw [List.map_append, told]
      exact (List.prefix_append_right_inj planned).mpr inside'
    · obtain ⟨told', succeeded'⟩ := whole' returned
      rw [List.map_append, told, told']
      exact ⟨rfl, fun frame mem => (List.mem_append.mp mem).elim (succeeded frame) (succeeded' frame)⟩

theorem sendFrame (host : Host) (packetId : Int) (payload : Buffer) :
    Plans (McProtocol.sendFrame host packetId payload) [(packetId, payload.content)] := by
  intro world
  rw [sendFrame_run]
  refine ⟨_, rfl, List.prefix_rfl, fun returned => ⟨rfl, fun frame mem => ?_⟩⟩
  obtain rfl := List.mem_singleton.mp mem
  exact Option.isSome_iff_ne_none.mpr returned

/-- A builder that has failed is not sent. -/
theorem sendBuilder (host : Host) {build : WriteM Unit} {W : List UInt8 → Prop}
    (emits : Emits build W) (marks : Marks build) {bytes : List UInt8}
    (only : ∀ other, W other → other = bytes) (capacity : Nat) (packetId : Int) :
    Plans (McProtocol.sendBuilder host packetId (buildPacket capacity build).2)
      [(packetId, bytes)] := by
  intro world
  rcases built : buildPacket capacity build with ⟨_ | u, packet⟩
  · have failed := marks (mcPacketInit (.bytes (List.replicate capacity 0)))
    rw [show build.run _ = _ from built] at failed
    have run : McProtocol.sendBuilder host packetId packet world =
        setError "Packet builder pieno" world :=
      Prog.bind_none (refuseIf_pos (failed rfl))
    rw [run]
    exact ⟨[], (List.append_nil _).symm, List.nil_prefix, fun returned => absurd rfl returned⟩
  · have body := only _ (emits.body built)
    by_cases failed : packet.failed = true
    · have run : McProtocol.sendBuilder host packetId packet world =
          setError "Packet builder pieno" world :=
        Prog.bind_none (refuseIf_pos failed)
      rw [run]
      exact ⟨[], (List.append_nil _).symm, List.nil_prefix, fun returned => absurd rfl returned⟩
    · have run : McProtocol.sendBuilder host packetId packet world =
          McProtocol.sendFrame host packetId packet.body world :=
        Prog.bind_some (refuseIf_neg failed)
      rw [run]
      have sends := sendFrame host packetId packet.body world
      rwa [show (packet.body : Buffer).content = bytes from body] at sends

end Plans

section Sending

variable {host : Host} {request : StatusRequest}

/-- The body of the handshake. -/
def StatusRequest.hello (request : StatusRequest) : List UInt8 :=
  encodeVarint request.protocol ++ ((encodeVarint request.address.length ++ request.address) ++
    (BigEndian.bytes 2 (effectivePort request.port) ++ encodeVarint 1))

def StatusRequest.number (request : StatusRequest) : List UInt8 :=
  BigEndian.bytes 8 (toUnsigned 64 request.nonce)

theorem emits_hello : Emits (handshakePacket request.protocol request.address request.port .status)
    fun bytes => request.address.length ≤ int32Max ∧ bytes = request.hello := by
  refine (Emits.bind (.varint _) (.bind (.stringN _) (.bind (.u16 _) (.varint _)))).congr
    fun bytes => ⟨?_, ?_⟩
  · rintro ⟨_, _, rfl, rfl, _, _, rfl, ⟨short, rfl⟩, _, _, rfl, rfl, rfl⟩
    exact ⟨short, rfl⟩
  · rintro ⟨short, rfl⟩
    exact ⟨_, _, rfl, rfl, _, _, rfl, ⟨short, rfl⟩, _, _, rfl, rfl, rfl⟩

theorem marks_hello :
    Marks (handshakePacket request.protocol request.address request.port .status) :=
  .bind (Sticky.varint _).marks fun _ => .bind (Sticky.stringN _).marks fun _ =>
    .bind (Sticky.u16 _).marks fun _ => (Sticky.varint _).marks

theorem statusReadPacket_unlogged (host : Host) : unlogged.Lawful (statusReadPacket host) := by
  have covers := unlogged_frames host
  refine .bind (covers.observe_lawful _) fun client => .bind (.when ?_) fun _ =>
    .bind (.of_steps fun world => (covers.readFrameLoop_lawful _).moves world) fun frame => ?_
  · refine .bind (.of_steps fun world => ?_) fun wait => ?_
    · unfold backendWait
      cases world.network.waits with
      | nil => exact ⟨rfl, rfl⟩
      | cons wait waits => exact ⟨rfl, rfl⟩
    · cases wait with
      | ready => exact .pure ()
      | timeout => exact covers.setError_lawful _
      | failed reason => exact covers.setError_lawful _
  · rcases mcReaderVarint.run (mcReaderInit frame) with ⟨_ | packetId, body⟩
    · exact covers.setError_lawful _
    · exact .pure _

theorem statusConnect_unlogged : unlogged.Lawful statusConnect := by
  refine .bind (.of_steps fun world => ?_) fun socketFd => .bind (.of_steps fun world => ⟨rfl, rfl⟩)
    fun _ => .of_steps fun world => ?_
  · unfold connectTcp
    split <;> exact ⟨rfl, rfl⟩
  · unfold backendInit
    split <;> exact ⟨rfl, rfl⟩

theorem plans_requestStatus :
    Plans (requestStatus host request) [(0x00, request.hello), (0x00, [])] := by
  have covers := unlogged_frames host
  refine .bind (.sendBuilder host emits_hello marks_hello (fun _ => And.right) 512 0x00) fun _ =>
    .bind (.sendFrame host 0x00 (.null 0)) fun _ => .of_unlogged ?_
  refine .bind (statusReadPacket_unlogged host) fun received => ?_
  rcases received with ⟨packetId, body⟩
  dsimp only
  split
  · exact covers.setError_lawful _
  · exact .bind (covers.refuseIf_lawful _ _) fun _ => .bind (covers.refuseIf_lawful _ _) fun _ =>
      .pure _

theorem plans_pingStatus : Plans (pingStatus host request) [(0x01, request.number)] := by
  have covers := unlogged_frames host
  refine .bind (.sendBuilder host (.i64 request.nonce) (Sticky.i64 _).marks (fun _ => id) 512 0x01)
    fun _ => .of_unlogged (.bind (statusReadPacket_unlogged host) fun received => ?_)
  rcases received with ⟨packetId, body⟩
  dsimp only
  split
  · exact covers.setError_lawful _
  · exact covers.refuseIf_lawful _ _

end Sending

/-- The response of a server: a string, and nothing else. -/
def IsStatusResponse (json : List UInt8) (packet : StreamPacket) : Prop :=
  packet.packetId = 0x00 ∧ json.length ≤ mcDefaultMaxStringBytes ∧
    ∃ size, IsVarint .vanillaCompat json.length size ∧ packet.payload = size ++ json

/-- The number that comes back. -/
def StatusRequest.IsPong (request : StatusRequest) (packet : StreamPacket) : Prop :=
  packet.packetId = 0x01 ∧ packet.payload = request.number

section Receiving

variable {host : Host} {request : StatusRequest} {world after : World} {stream : List UInt8}

/-- A packet that is returned is the first one of the stream. -/
theorem statusReadPacket_takes {packetId : Int} {body : McReader}
    (listening : Listening (-1) stream world)
    (run : statusReadPacket host world = (some (packetId, body), after)) :
    ∃ packet, TakesFirst host (-1) stream packet after ∧ packet.packetId = packetId ∧
      body.mode = .vanillaCompat ∧ body.Before packet.payload := by
  obtain ⟨client, _, observed, waiting⟩ := Prog.bind_eq_some run
  cases observed
  obtain ⟨_, ready, waited, reading⟩ := Prog.bind_eq_some waiting
  have listening : Listening (-1) stream ready := by
    by_cases buffered : streamDecoderFrameReady world.client.streamDecoder = false
    · rw [Prog.when_pos buffered] at waited
      obtain ⟨wait, polled, poll, passed⟩ := Prog.bind_eq_some waited
      have listening := backendWait_incoming listening poll
      cases wait with
      | ready =>
          cases passed
          exact listening
      | timeout => cases passed
      | failed reason => cases passed
    · rw [Prog.when_neg buffered] at waited
      cases waited
      exact listening
  obtain ⟨frame, read, reads, telling⟩ := Prog.bind_eq_some reading
  obtain ⟨packet, rfl, size, verdict, behind⟩ := readFrame_takes listening reads
  obtain ⟨id, -⟩ := emitted_id verdict
  have start : (mcReaderInit packet.plain).Before (encodeVarint packet.packetId ++ packet.payload) :=
    mcReaderInit_before packet.plain
  rw [mcReaderVarint_run id start] at telling
  cases telling
  exact ⟨packet, ⟨size, verdict, behind⟩, rfl, rfl, start.advance⟩

/-- What a reader takes to its end is the whole body. -/
theorem whole_body {α : Type} {program : Prog McReader α} {G : α → List UInt8 → Prop} {a : α}
    {body rest : McReader} {payload : List UInt8} (accepts : Accepts .vanillaCompat program G)
    (mode : body.mode = .vanillaCompat) (before : body.Before payload)
    (run : program body = (some a, rest)) (whole : mcReaderRemaining rest = 0) : G a payload := by
  obtain ⟨bytes, behind, rfl, derived, rfl⟩ := accepts.sound mode before run
  have left := before.advance.remaining
  rw [whole] at left
  rw [List.length_eq_zero_iff.mp left.symm, List.append_nil]
  exact derived

theorem sendBuilder_unread (host : Host) (packetId : Int) (packet : McPacket) (world : World) :
    SameIncoming world (sendBuilder host packetId packet world).2 := by
  by_cases failed : packet.failed = true
  · have run : sendBuilder host packetId packet world = setError "Packet builder pieno" world :=
      Prog.bind_none (refuseIf_pos failed)
    rw [run]
    exact ⟨rfl, rfl, rfl, rfl, rfl, rfl⟩
  · have run : sendBuilder host packetId packet world = sendFrame host packetId packet.body world :=
      Prog.bind_some (refuseIf_neg failed)
    rw [run]
    exact sendFrame_unread host packetId packet.body world

theorem requestStatus_takes {json : List UInt8} (listening : Listening (-1) stream world)
    (run : requestStatus host request world = (some json, after)) :
    json.length < request.jsonCapacity ∧ ∃ response, TakesFirst host (-1) stream response after ∧
      IsStatusResponse json response := by
  obtain ⟨_, greeted, greeting, asking⟩ := Prog.bind_eq_some run
  have same := sendBuilder_unread host 0x00
    (buildPacket 512 (handshakePacket request.protocol request.address request.port .status)).2 world
  rw [greeting] at same
  obtain ⟨_, asked, ask, reading⟩ := Prog.bind_eq_some asking
  have same' := sendFrame_unread host 0x00 (.null 0) greeted
  rw [ask] at same'
  obtain ⟨⟨packetId, body⟩, read, reads, answering⟩ := Prog.bind_eq_some reading
  obtain ⟨response, takes, rfl, mode, before⟩ :=
    statusReadPacket_takes ((listening.of_incoming same).of_incoming same') reads
  dsimp only at answering
  split_ifs at answering with known
  · rcases parsed : mcReaderString.run body with ⟨_ | text, rest⟩
    · rw [parsed] at answering
      cases answering
    · rw [parsed] at answering
      obtain ⟨_, fitted, fits, ending⟩ := Prog.bind_eq_some answering
      obtain ⟨room, rfl⟩ := refuseIf_eq_some fits
      obtain ⟨_, ended, ends, returned⟩ := Prog.bind_eq_some ending
      obtain ⟨whole, rfl⟩ := refuseIf_eq_some ends
      cases returned
      exact ⟨not_le.mp room, response, takes, known,
        whole_body accepts_string mode before parsed (not_not.mp whole)⟩
  · cases answering

theorem pingStatus_takes {u : Unit} (listening : Listening (-1) stream world)
    (run : pingStatus host request world = (some u, after)) :
    ∃ pong, TakesFirst host (-1) stream pong after ∧ request.IsPong pong := by
  unfold pingStatus at run
  obtain ⟨_, pinged, ping, reading⟩ := Prog.bind_eq_some run
  have same := sendBuilder_unread host 0x01 (buildPacket 512 (mcPacketI64 request.nonce)).2 world
  rw [ping] at same
  obtain ⟨⟨packetId, body⟩, read, reads, answering⟩ := Prog.bind_eq_some reading
  obtain ⟨pong, takes, rfl, mode, before⟩ :=
    statusReadPacket_takes (listening.of_incoming same) reads
  dsimp only at answering
  split_ifs at answering with known
  · rcases parsed : mcReaderI64.run body with ⟨_ | echoed, rest⟩
    · rw [parsed] at answering
      cases answering
    · rw [parsed] at answering
      obtain ⟨good, rfl⟩ := refuseIf_eq_some answering
      rw [not_or, not_not, not_not] at good
      obtain ⟨-, payload⟩ := whole_body accepts_i64 mode before parsed good.2
      rw [good.1] at payload
      exact ⟨pong, takes, known, payload⟩
  · cases answering

theorem statusConnect_takes {u : Unit} (listening : Listening (-1) stream world)
    (run : statusConnect world = (some u, after)) : Listening (-1) stream after := by
  obtain ⟨socketFd, dialled, dial, attaching⟩ := Prog.bind_eq_some run
  obtain ⟨_, attached, attach, starting⟩ := Prog.bind_eq_some attaching
  cases attach
  have dialled' : Listening (-1) stream dialled := by
    unfold connectTcp at dial
    split at dial
    · cases dial
    · cases dial
    · cases dial
      exact ⟨listening.untransformed, listening.holds⟩
  unfold backendInit at starting
  split at starting
  · cases starting
    exact ⟨dialled'.untransformed, dialled'.holds⟩
  · cases starting
  · cases starting
    exact ⟨dialled'.untransformed, dialled'.holds⟩

end Receiving

section Exchange

variable {host : Host} {request : StatusRequest}

theorem created_decoder {granted : Bool} {decoder : McStreamDecoder}
    (created : mcStreamDecoderCreate none granted = .ok decoder) : decoder.Holds (-1) [] := by
  have usable : ¬ ((none : Option McStreamDecoderConfig).getD mcStreamDecoderConfigInit).Refused := by
    decide
  simp only [mcStreamDecoderCreate, if_neg usable] at created
  split_ifs at created
  cases created
  exact ⟨0, rfl, rfl, rfl, rfl, rfl, Nat.zero_le _⟩

theorem created_listening {protocol : Int} {granted decoderGranted : Bool} {client : McClient}
    (created : mcClientCreate protocol granted decoderGranted = .ok client) (world : World)
    (timeoutMs : Nat) :
    Listening (-1) (arrivalBytes world.network.arrivals)
      { world with client := { client with readTimeoutMs := timeoutMs } } := by
  unfold mcClientCreate at created
  split at created
  · cases created
  · split_ifs at created
    split at created
    · cases created
    · rename_i fresh
      cases created
      exact ⟨rfl, [], created_decoder fresh, rfl⟩

theorem disconnect_frames (host : Host) (world : World) :
    (mcClientDisconnect host .none world).2.frames = world.frames := by
  have listens : App.none.Listens := ⟨nofun, nofun⟩
  obtain ⟨events, run⟩ := changeState_listens listens host .disconnected
    { world with client := { world.client with stop := true, socketFd := -1 } }
  have closed : mcClientDisconnect host .none world = _ := (Prog.bind_some rfl).trans run
  rw [closed]

/-- The packets at the front of what arrives. -/
def frontPackets (host : Host) (world : World) (count : Nat) : List StreamPacket :=
  ((frameScanner host.zlib mcStreamDecoderConfigInit (-1)).take count
    (arrivalBytes world.network.arrivals)).frames

/-- What a status ping may say and report, given what arrives. -/
structure StatusHonest (host : Host) (request : StatusRequest) (world : World)
    (outcome : StatusOutcome) (sent : List SentFrame) : Prop where
  planned : sent.map SentFrame.told <+:
    [(0x00, request.hello), (0x00, []), (0x01, request.number)]
  pinged : sent.length = 3 → outcome.report ≠ none
  reported : ∀ json status, outcome.report = some (json, status) →
    status.jsonSize = json.length ∧ json.length < request.jsonCapacity ∧
      (json ≠ [] ∨ sent.length = 3 → ∃ response, frontPackets host world 1 = [response] ∧
        IsStatusResponse json response)
  succeeded : outcome.succeeded = true →
    sent.map SentFrame.told = [(0x00, request.hello), (0x00, []), (0x01, request.number)] ∧
      (∀ frame ∈ sent, frame.succeeded = true) ∧
        ∃ response pong, frontPackets host world 2 = [response, pong] ∧ request.IsPong pong

theorem front_one {stream : List UInt8} {packet : StreamPacket} {after : World}
    (takes : TakesFirst host (-1) stream packet after) :
    ((frameScanner host.zlib mcStreamDecoderConfigInit (-1)).take 1 stream).frames = [packet] := by
  obtain ⟨size, verdict, -⟩ := takes
  rw [(frameScanner host.zlib mcStreamDecoderConfigInit (-1)).take_emit verdict]
  rfl

theorem statusExchange_honest (conditions : StatusConditions) {client : McClient} (world : World)
    (listening : Listening (-1) (arrivalBytes world.network.arrivals)
      { world with client := { client with readTimeoutMs := request.timeoutMs } })
    (room : 0 < request.jsonCapacity) :
    ∃ sent, (statusExchange host request conditions client world).2.frames = world.frames ++ sent ∧
      StatusHonest host request world (statusExchange host request conditions client world).1
        sent := by
  have plans : Plans (do statusConnect; requestStatus host request)
      ([] ++ [(0x00, request.hello), (0x00, [])]) :=
    .bind (.of_unlogged statusConnect_unlogged) fun _ => plans_requestStatus
  obtain ⟨sent, logged, inside, whole⟩ := plans
    { world with client := { client with readTimeoutMs := request.timeoutMs } }
  have early {sent : List SentFrame}
      (inside : sent.map SentFrame.told <+: [(0x00, request.hello), (0x00, [])]) :
      sent.length ≠ 3 := by
    have short := inside.length_le
    simp only [List.length_map, List.length_cons, List.length_nil] at short
    omega
  have further {sent : List SentFrame}
      (inside : sent.map SentFrame.told <+: [(0x00, request.hello), (0x00, [])]) :
      sent.map SentFrame.told <+: [(0x00, request.hello), (0x00, []), (0x01, request.number)] :=
    inside.trans (List.prefix_append _ [(0x01, request.number)])
  rcases asked : (do statusConnect; requestStatus host request)
    { world with client := { client with readTimeoutMs := request.timeoutMs } } with ⟨_ | json, middle⟩
  · have run : statusExchange host request conditions client world =
        (⟨false, some ([], ⟨0, 0⟩)⟩, (mcClientDisconnect host .none middle).2) := by
      simp only [statusExchange, asked]
    rw [asked] at logged
    rw [run]
    refine ⟨sent, ?_, further inside, fun _ => Option.some_ne_none _, fun json status reported => ?_,
      fun succeeded => (by cases succeeded)⟩
    · rw [disconnect_frames]
      exact logged
    · cases reported
      refine ⟨rfl, room, fun claimed => ?_⟩
      exact claimed.elim (absurd rfl) fun three => absurd three (early inside)
  · rw [asked] at logged whole
    obtain ⟨told, succeeded⟩ := whole (Option.some_ne_none _)
    obtain ⟨_, connected, connect, asking⟩ := Prog.bind_eq_some asked
    obtain ⟨fits, response, takes, isResponse⟩ :=
      requestStatus_takes (statusConnect_takes listening connect) asking
    have first := front_one takes
    obtain ⟨size, verdict, behind⟩ := takes
    obtain ⟨more, logged', inside', whole'⟩ := @plans_pingStatus host request middle
    have all : (sent ++ more).map SentFrame.told <+:
        [(0x00, request.hello), (0x00, []), (0x01, request.number)] := by
      rw [List.map_append, told]
      exact (List.prefix_append_right_inj [(0x00, request.hello), (0x00, [])]).mpr inside'
    have answered {status : McStatus} (same : status.jsonSize = json.length)
        (found : List UInt8) (other : McStatus) (reported : some (json, status) = some (found, other)) :
        other.jsonSize = found.length ∧ found.length < request.jsonCapacity ∧
          (found ≠ [] ∨ (sent ++ more).length = 3 → ∃ response,
            frontPackets host world 1 = [response] ∧ IsStatusResponse found response) := by
      cases reported
      exact ⟨same, fits, fun _ => ⟨response, first, isResponse⟩⟩
    rcases pinged : pingStatus host request middle with ⟨_ | u, last⟩
    · have run : statusExchange host request conditions client world =
          (⟨false, some (json, ⟨0, json.length⟩)⟩, (mcClientDisconnect host .none last).2) := by
        simp only [statusExchange, asked, pinged]
      rw [pinged] at logged'
      rw [run]
      refine ⟨sent ++ more, ?_, all, fun _ => Option.some_ne_none _, answered rfl,
        fun succeeded => (by cases succeeded)⟩
      rw [disconnect_frames, ← List.append_assoc, ← logged]
      exact logged'
    · have run : statusExchange host request conditions client world =
          (⟨true, some (json, ⟨if conditions.started ≤ conditions.finished then
            conditions.finished - conditions.started else 0, json.length⟩)⟩,
            (mcClientDisconnect host .none last).2) := by
        simp only [statusExchange, asked, pinged]
      rw [pinged] at logged' whole'
      obtain ⟨told', succeeded'⟩ := whole' (Option.some_ne_none _)
      obtain ⟨pong, ⟨size', verdict', -⟩, isPong⟩ := pingStatus_takes behind pinged
      rw [run]
      refine ⟨sent ++ more, ?_, all, fun _ => Option.some_ne_none _, answered rfl,
        fun _ => ⟨?_, fun frame mem => ?_, response, pong, ?_, isPong⟩⟩
      · rw [disconnect_frames, ← List.append_assoc, ← logged]
        exact logged'
      · rw [List.map_append, told, told']
        rfl
      · exact (List.mem_append.mp mem).elim (succeeded frame) (succeeded' frame)
      · rw [frontPackets, (frameScanner host.zlib mcStreamDecoderConfigInit (-1)).take_emit verdict,
          (frameScanner host.zlib mcStreamDecoderConfigInit (-1)).take_emit verdict']
        rfl

end Exchange

/-- Whatever the network does and whoever answers: the call says hello, asks and pings in this order
and says nothing else, it pings only behind a response, the JSON that it reports is that response,
and it only succeeds when its own number comes back in the next packet. -/
theorem status_ping_honest (host : Host) (request : StatusRequest) (conditions : StatusConditions)
    (world : World) :
    ∃ sent, (mcStatusPingNonce host request conditions world).2.frames = world.frames ++ sent ∧
      StatusHonest host request world (mcStatusPingNonce host request conditions world).1 sent := by
  unfold mcStatusPingNonce
  split_ifs with invalid
  · refine ⟨[], (List.append_nil _).symm, List.nil_prefix, fun three => (by cases three),
      fun json status reported => (by cases reported), fun succeeded => (by cases succeeded)⟩
  · simp only [not_or] at invalid
    have room : 0 < request.jsonCapacity := Nat.pos_of_ne_zero invalid.2.2.2
    rcases created : mcClientCreate request.protocol conditions.granted conditions.decoderGranted with
      message | client
    · refine ⟨[], (List.append_nil _).symm, List.nil_prefix, fun three => (by cases three),
        fun json status reported => ?_, fun succeeded => (by cases succeeded)⟩
      cases reported
      exact ⟨rfl, room, fun claimed => claimed.elim (absurd rfl) fun three => (by cases three)⟩
    · exact statusExchange_honest conditions world
        (created_listening created world request.timeoutMs) room

end McProtocol
