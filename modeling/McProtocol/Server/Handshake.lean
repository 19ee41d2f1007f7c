import McProtocol.Grammar
import McProtocol.Writing
import McProtocol.Client.Connect
import McProtocol.Client.PeerRoundTrip

/-! # The handshake

The first frame of a connection. A server reads it byte by byte, before there is a
client and its stream decoder; a client writes it as every other frame. The grammar
below is what the two have in common.
-/

namespace McProtocol

/-- `MC_HANDSHAKE_HOST_SIZE`, which counts the terminator. -/
def mcHandshakeHostSize : Nat := 256

/-- The room for a frame in `mc_server_accept`. -/
def mcHandshakeFrameSize : Nat := 512

structure McHandshake where
  protocol : Int
  host : List UInt8
  port : Nat
  nextState : McState
  deriving Repr, DecidableEq

/-- The frame of `mc_server_accept`; `ending` is what `accepted_receive` says when the
bytes run out. -/
def acceptedFrame (ending : String) (socket : AcceptedSocket) :
    Except String (List UInt8 × AcceptedSocket) :=
  match acceptedVarint socket with
  | (none, _) => .error "Dimensione handshake client non valida"
  | (some frameSize, socket) =>
      if frameSize ≤ 0 ∨ mcHandshakeFrameSize < frameSize then
        .error "Dimensione handshake client non valida"
      else
        match acceptedReceive frameSize.toNat socket with
        | (none, _) => .error ending
        | (some frame, socket) => .ok (frame, socket)

def readHandshake : ReadM McHandshake := do
  let packetId ← mcReaderVarint
  require (packetId = 0)
  let protocol ← mcReaderVarint
  let host ← mcReaderString
  require (host.length ≠ 0 ∧ host.length < mcHandshakeHostSize)
  let requestedPort ← mcReaderU16
  let nextState ← mcReaderVarint
  require (nextState = 1 ∨ nextState = 2)
  pure ⟨protocol, host, requestedPort, if nextState = 1 then .status else .login⟩

/-- The handshake of a frame, with nothing behind it. -/
def parseHandshake (frame : List UInt8) : Option McHandshake :=
  match readHandshake.run (mcReaderInit frame) with
  | (none, _) => none
  | (some handshake, reader) => if mcReaderRemaining reader ≠ 0 then none else some handshake

/-- A connection to a server: what arrives on it, and what ends the wait for more. -/
structure Incoming where
  socketFd : Nat
  bytes : List UInt8
  ending : String

/-- What a call of `mc_server_accept` meets: the server's descriptor, the outcomes of
`poll`, `accept` and `backend_init`, and whether the allocations of a client succeed. -/
structure Accepting where
  socketFd : Int
  polled : Except String Bool
  connection : Except String Incoming
  backend : Except String Unit
  granted : Bool
  decoderGranted : Bool

inductive Acceptance where
  | idle
  | refused (error : String)
  | accepted (handshake : McHandshake) (world : World)

/-- The client of an accepted connection, the unread bytes in front of it. -/
def World.accepted (client : McClient) (socketFd : Nat) (socket : AcceptedSocket) : World :=
  let quiet := World.around
    { client with
      serverSide := true
      automaticReplies := 0
      receivedBytes := socket.wireSize % 2 ^ 64
      socketFd := socketFd }
  { quiet with network := { quiet.network with arrivals := [.bytes socket.incoming] } }

def mcServerAccept (host : Host) (app : App) (accepting : Accepting) : Acceptance :=
  if accepting.socketFd < 0 then .refused "Parametri accept non validi"
  else
    match accepting.polled with
    | .ok false => .idle
    | .error reason => .refused ("Attesa accept fallita: " ++ reason)
    | .ok true =>
        match accepting.connection with
        | .error reason => .refused ("Accept fallita: " ++ reason)
        | .ok incoming =>
            match acceptedFrame incoming.ending ⟨incoming.bytes, 0⟩ with
            | .error error => .refused error
            | .ok (frame, socket) =>
                match parseHandshake frame with
                | none => .refused "Handshake Minecraft non valido"
                | some handshake =>
                    match mcClientCreate handshake.protocol accepting.granted
                      accepting.decoderGranted with
                    | .error error => .refused error
                    | .ok client =>
                        match accepting.backend with
                        | .error reason =>
                            .refused ("Backend client accettato non inizializzabile: " ++ reason)
                        | .ok () =>
                            let world := World.accepted client incoming.socketFd socket
                            .accepted handshake (changeState host app handshake.nextState world).2

/-- What follows the length of the frame. -/
def IsHandshakeBody (mode : McDecodeMode) (handshake : McHandshake) (body : List UInt8) : Prop :=
  ∃ packetId protocol hostSize nextState,
    IsVarint mode 0 packetId ∧
    IsVarint mode handshake.protocol protocol ∧
    IsVarint mode handshake.host.length hostSize ∧
    IsVarint mode (if handshake.nextState = .status then 1 else 2) nextState ∧
    body = packetId ++ protocol ++ hostSize ++ handshake.host ++
      BigEndian.bytes 2 handshake.port ++ nextState

/-- A handshake that a frame can announce. -/
structure McHandshake.Valid (handshake : McHandshake) : Prop where
  host_pos : 0 < handshake.host.length
  host_lt : handshake.host.length < mcHandshakeHostSize
  port_lt : handshake.port < 2 ^ 16
  next : handshake.nextState = .status ∨ handshake.nextState = .login

/-- The frames of a handshake: one in strict mode, in compat mode also those with
over-long VarInts, as long as there is room for the body. -/
def IsHandshakeFrame (mode : McDecodeMode) (handshake : McHandshake) (frame : List UInt8) : Prop :=
  handshake.Valid ∧ ∃ size body,
    IsVarint mode body.length size ∧ body.length ≤ mcHandshakeFrameSize ∧
    IsHandshakeBody mode handshake body ∧ frame = size ++ body

section Grammar

variable {mode : McDecodeMode} {handshake : McHandshake} {frame bytes : List UInt8}

theorem accepts_handshake :
    Accepts mode readHandshake.run fun handshake body =>
      handshake.Valid ∧ IsHandshakeBody mode handshake body := by
  refine Accepts.congr (accepts_varint.bind fun _ => accepts_require.bind fun _ =>
    accepts_varint.bind fun _ => accepts_string.bind fun _ => accepts_require.bind fun _ =>
      accepts_u16.bind fun _ => accepts_varint.bind fun _ => accepts_require.bind fun _ =>
        .pure _) fun handshake body => ⟨?_, ?_⟩
  · rintro ⟨_, packetId, _, rfl, idIs, _, _, _, rfl, ⟨rfl, rfl⟩, version, protocol, _, rfl,
      protocolIs, host, _, _, rfl, ⟨_, hostSize, sizeIs, rfl⟩, _, _, _, rfl, ⟨⟨some, short⟩, rfl⟩,
      port, _, _, rfl, ⟨word, rfl⟩, next, nextState, _, rfl, nextIs, _, _, _, rfl, ⟨known, rfl⟩,
      rfl, rfl⟩
    refine ⟨⟨Nat.pos_of_ne_zero some, short, word, ?_⟩, packetId, protocol, hostSize, nextState,
      idIs, protocolIs, sizeIs, ?_, by simp⟩
    · cases known with
      | inl status => rw [status]; exact .inl rfl
      | inr login => rw [login]; exact .inr rfl
    · cases known with
      | inl status => rw [status] at nextIs ⊢; exact nextIs
      | inr login => rw [login] at nextIs ⊢; exact nextIs
  · rintro ⟨valid, packetId, protocol, hostSize, nextState, idIs, protocolIs, sizeIs, nextIs, rfl⟩
    have some := valid.host_pos
    have short := valid.host_lt
    have inside : handshake.host.length ≤ mcDefaultMaxStringBytes := by
      simp only [mcHandshakeHostSize, mcDefaultMaxStringBytes] at short ⊢
      omega
    refine ⟨0, packetId, _, ?_, idIs, (), [], _, rfl, ⟨rfl, rfl⟩, handshake.protocol, protocol, _,
      rfl, protocolIs, handshake.host, hostSize ++ handshake.host, _, rfl,
      ⟨inside, hostSize, sizeIs, rfl⟩, (), [], _, rfl, ⟨⟨by omega, short⟩, rfl⟩,
      handshake.port, _, _, rfl, ⟨valid.port_lt, rfl⟩, _, nextState, _, rfl, nextIs, (), [], _,
      rfl, ⟨?_, rfl⟩, ?_, rfl⟩
    · simp only [List.append_assoc, List.nil_append, List.append_nil]
    · split_ifs
      · exact .inl rfl
      · exact .inr rfl
    · obtain ⟨version, host, port, next⟩ := handshake
      cases valid.next with
      | inl status => cases status; rfl
      | inr login => cases login; rfl

theorem parseHandshake_iff :
    parseHandshake frame = some handshake ↔
      handshake.Valid ∧ IsHandshakeBody .vanillaCompat handshake frame := by
  have before := mcReaderInit_before frame
  constructor
  · intro parsed
    unfold parseHandshake at parsed
    rcases run : readHandshake.run (mcReaderInit frame) with ⟨_ | read, reader⟩
    · rw [run] at parsed
      cases parsed
    · rw [run] at parsed
      dsimp only at parsed
      split_ifs at parsed with more
      cases parsed
      obtain ⟨body, rest, split, derived, rfl⟩ := accepts_handshake.sound rfl before run
      have nothing : rest = [] := by
        have size : ((mcReaderInit frame).advance body.length).size = (body ++ rest).length :=
          congrArg List.length split
        have offset : ((mcReaderInit frame).advance body.length).offset = body.length :=
          Nat.zero_add _
        have clean : ((mcReaderInit frame).advance body.length).failed = false := rfl
        rw [List.length_append] at size
        simp only [mcReaderRemaining, clean, size, offset, Bool.false_eq_true, false_or] at more
        rw [if_neg (by omega)] at more
        exact List.length_eq_zero_iff.mp (by omega)
      rw [split, nothing, List.append_nil]
      exact derived
  · intro derived
    have run := accepts_handshake.complete derived (mcReaderInit frame) [] rfl (by
      rw [List.append_nil]
      exact before)
    have ended : mcReaderRemaining ((mcReaderInit frame).advance frame.length) = 0 := by
      have size : ((mcReaderInit frame).advance frame.length).size = frame.length := rfl
      have offset : ((mcReaderInit frame).advance frame.length).offset = frame.length :=
        Nat.zero_add _
      simp only [mcReaderRemaining, size, offset, Nat.sub_self, ite_self]
    unfold parseHandshake
    rw [run]
    dsimp only
    rw [if_neg (not_not.mpr ended)]

theorem acceptedFrame_iff {ending : String} {wireSize : Nat} {socket : AcceptedSocket} :
    acceptedFrame ending ⟨bytes, wireSize⟩ = .ok (frame, socket) ↔
      ∃ size rest, IsVarint .vanillaCompat frame.length size ∧ 0 < frame.length ∧
        frame.length ≤ mcHandshakeFrameSize ∧ bytes = size ++ frame ++ rest ∧
        socket = ⟨rest, wireSize + (size ++ frame).length⟩ := by
  have total : 16 * 128 ^ (5 - 1) = 2 ^ 32 := by norm_num
  constructor
  · intro accepted
    unfold acceptedFrame at accepted
    rcases sized : acceptedVarint ⟨bytes, wireSize⟩ with ⟨_ | frameSize, behind⟩
    · rw [sized] at accepted
      cases accepted
    · rw [sized] at accepted
      dsimp only at accepted
      split_ifs at accepted with refused
      obtain ⟨word, taken, done, signed, rfl⟩ := acceptedVarint_iff.mp sized
      obtain ⟨size, _, _, ⟨rest, rfl⟩, _, rfl, _, _⟩ := groupsAt_done_iff.mp done
      rw [List.drop_left, acceptedReceive] at accepted
      by_cases enough : frameSize.toNat ≤ rest.length
      · rw [if_pos enough] at accepted
        cases accepted
        have length : (rest.take frameSize.toNat).length = frameSize.toNat :=
          List.length_take_of_le enough
        have natural : ((rest.take frameSize.toNat).length : Int) = frameSize := by omega
        refine ⟨size, rest.drop frameSize.toNat, ?_, ?_, ?_, ?_, ?_⟩
        · rw [natural]
          exact (isWord_iff total).mpr ⟨word, done, signed⟩
        · change 0 < (rest.take frameSize.toNat).length
          omega
        · change (rest.take frameSize.toNat).length ≤ mcHandshakeFrameSize
          omega
        · rw [List.append_assoc, List.take_append_drop]
        · rw [List.length_append, length, Nat.add_assoc]
      · rw [if_neg enough] at accepted
        cases accepted
  · rintro ⟨size, rest, isVarint, some, fits, rfl, rfl⟩
    obtain ⟨word, done, signed⟩ := (isWord_iff total).mp isVarint
    have sized : acceptedVarint ⟨size ++ frame ++ rest, wireSize⟩ =
        (Option.some (frame.length : Int), ⟨frame ++ rest, wireSize + size.length⟩) :=
      acceptedVarint_iff.mpr ⟨word, size.length, by rw [List.append_assoc]; exact done, signed,
        by rw [List.append_assoc, List.drop_left]⟩
    unfold acceptedFrame
    rw [sized]
    dsimp only
    rw [if_neg (by omega), Int.toNat_natCast, acceptedReceive,
      if_pos (by rw [List.length_append]; omega), List.take_left, List.drop_left,
      List.length_append, Nat.add_assoc]

end Grammar

/-- A server with a connection to accept and the memory for a client. -/
structure Accepting.Serves (accepting : Accepting) (incoming : Incoming) : Prop where
  listening : 0 ≤ accepting.socketFd
  polled : accepting.polled = .ok true
  connection : accepting.connection = .ok incoming
  backend : accepting.backend = .ok ()
  granted : accepting.granted = true
  decoderGranted : accepting.decoderGranted = true

theorem mcStreamDecoderCreate_refused :
    ∃ error, mcStreamDecoderCreate none false = .error error :=
  ⟨_, rfl⟩

theorem mcClientCreate_ok {protocol : Int} {granted decoderGranted : Bool} {client : McClient}
    (created : mcClientCreate protocol granted decoderGranted = .ok client) :
    mcProtocolSupported protocol = true ∧ granted = true ∧ decoderGranted = true := by
  unfold mcClientCreate at created
  cases found : findProfile protocol with
  | none =>
      rw [found] at created
      cases created
  | some profile =>
      rw [found] at created
      cases granted with
      | false => cases created
      | true =>
          cases decoderGranted with
          | false =>
              obtain ⟨error, refused⟩ := mcStreamDecoderCreate_refused
              dsimp only at created
              rw [refused] at created
              cases created
          | true => exact ⟨by rw [mcProtocolSupported, found]; rfl, rfl, rfl⟩

theorem mcClientCreate_supported {protocol : Int} (supported : mcProtocolSupported protocol = true) :
    ∃ client, mcClientCreate protocol true true = .ok client := by
  obtain ⟨profile, found⟩ := Option.isSome_iff_exists.mp supported
  unfold mcClientCreate
  rw [found]
  exact ⟨_, rfl⟩

section Server

variable {host : Host} {app : App} {accepting : Accepting} {incoming : Incoming}
variable {handshake : McHandshake} {frame rest : List UInt8} {world : World}

theorem isHandshakeFrame_iff (ending : String) {bytes : List UInt8} {socket : AcceptedSocket} :
    (∃ body, acceptedFrame ending ⟨bytes, 0⟩ = .ok (body, socket) ∧
        parseHandshake body = some handshake) ↔
      ∃ frame rest, IsHandshakeFrame .vanillaCompat handshake frame ∧ bytes = frame ++ rest ∧
        socket = ⟨rest, frame.length⟩ := by
  constructor
  · rintro ⟨body, accepted, parsed⟩
    obtain ⟨size, rest, sizeIs, _, fits, rfl, rfl⟩ := acceptedFrame_iff.mp accepted
    obtain ⟨valid, bodyIs⟩ := parseHandshake_iff.mp parsed
    exact ⟨size ++ body, rest, ⟨valid, size, body, sizeIs, fits, bodyIs, rfl⟩, rfl, by
      rw [Nat.zero_add]⟩
  · rintro ⟨frame, rest, ⟨valid, size, body, sizeIs, fits, bodyIs, rfl⟩, rfl, rfl⟩
    have some : 0 < body.length := by
      obtain ⟨packetId, protocol, hostSize, nextState, idIs, _, _, _, rfl⟩ := bodyIs
      have first := idIs.isCode.length_pos
      simp only [List.length_append]
      omega
    exact ⟨body, acceptedFrame_iff.mpr ⟨size, rest, sizeIs, some, fits, rfl, by
      rw [Nat.zero_add]⟩, parseHandshake_iff.mpr ⟨valid, bodyIs⟩⟩

theorem mcServerAccept_iff :
    mcServerAccept host app accepting = .accepted handshake world ↔
      ∃ incoming frame rest client, accepting.Serves incoming ∧
        incoming.bytes = frame ++ rest ∧ IsHandshakeFrame .vanillaCompat handshake frame ∧
        mcClientCreate handshake.protocol true true = .ok client ∧
        world = (changeState host app handshake.nextState
          (World.accepted client incoming.socketFd ⟨rest, frame.length⟩)).2 := by
  constructor
  · intro accepted
    unfold mcServerAccept at accepted
    split_ifs at accepted with closed
    rcases polled : accepting.polled with reason | _ | _ <;> rw [polled] at accepted
    · cases accepted
    · cases accepted
    rcases connection : accepting.connection with reason | incoming <;>
      rw [connection] at accepted
    · cases accepted
    dsimp only at accepted
    rcases framed : acceptedFrame incoming.ending ⟨incoming.bytes, 0⟩ with error | ⟨body, socket⟩ <;>
      rw [framed] at accepted
    · cases accepted
    dsimp only at accepted
    rcases parsed : parseHandshake body with _ | read <;> rw [parsed] at accepted
    · cases accepted
    dsimp only at accepted
    rcases created : mcClientCreate read.protocol accepting.granted accepting.decoderGranted
      with error | client <;> rw [created] at accepted
    · cases accepted
    dsimp only at accepted
    rcases backend : accepting.backend with reason | u <;> rw [backend] at accepted
    · cases accepted
    cases accepted
    obtain ⟨frame, rest, frameIs, bytes, rfl⟩ :=
      (isHandshakeFrame_iff _).mp ⟨body, framed, parsed⟩
    obtain ⟨-, granted, decoderGranted⟩ := mcClientCreate_ok created
    rw [granted, decoderGranted] at created
    exact ⟨incoming, frame, rest, client,
      ⟨not_lt.mp closed, polled, connection, backend, granted, decoderGranted⟩, bytes, frameIs,
      created, rfl⟩
  · rintro ⟨incoming, frame, rest, client, serves, bytes, frameIs, created, rfl⟩
    obtain ⟨body, framed, parsed⟩ := (isHandshakeFrame_iff _).mpr ⟨frame, rest, frameIs, bytes, rfl⟩
    unfold mcServerAccept
    rw [if_neg (not_lt.mpr serves.listening), serves.polled, serves.connection]
    dsimp only
    rw [framed]
    dsimp only
    rw [parsed]
    dsimp only
    rw [serves.granted, serves.decoderGranted, created, serves.backend]

/-- A frame is not the beginning of another one. -/
theorem IsHandshakeFrame.unique {other : McHandshake} {frame' rest' : List UInt8}
    (left : IsHandshakeFrame .vanillaCompat handshake frame)
    (right : IsHandshakeFrame .vanillaCompat other frame')
    (same : frame ++ rest = frame' ++ rest') : rest = rest' := by
  obtain ⟨body, framed, _⟩ := (isHandshakeFrame_iff "").mpr ⟨frame, rest, left, rfl, rfl⟩
  obtain ⟨body', framed', _⟩ := (isHandshakeFrame_iff "").mpr ⟨frame', rest', right, rfl, rfl⟩
  rw [same] at framed
  have results := Except.ok.inj (framed.symm.trans framed' : Except.ok (body, _) = .ok (body', _))
  exact congrArg (fun result => result.2.incoming) results

end Server

/-- The port `mc_client_open` connects to. -/
def effectivePort (port : UInt16) : Nat := if port = 0 then mcDefaultPort else port.toNat

theorem effectivePort_lt (port : UInt16) : effectivePort port < 2 ^ 16 := by
  unfold effectivePort
  split_ifs
  · decide
  · exact port.toNat_lt

/-- The frame of a handshake as it is written. -/
def handshakeFrame (handshake : McHandshake) : List UInt8 :=
  framed (encodeVarint 0 ++ (encodeVarint handshake.protocol ++
    (encodeVarint handshake.host.length ++ handshake.host) ++
    BigEndian.bytes 2 handshake.port ++
    encodeVarint (if handshake.nextState = .status then 1 else 2)))

theorem isHandshakeFrame_written {mode : McDecodeMode} {handshake : McHandshake}
    (protocol : IsInt32 handshake.protocol) (valid : handshake.Valid) :
    IsHandshakeFrame mode handshake (handshakeFrame handshake) := by
  have short := valid.host_lt
  simp only [mcHandshakeHostSize] at short
  have next : IsInt32 (if handshake.nextState = .status then 1 else 2) := by
    split_ifs <;> decide
  have idLength := (encodeVarint_length 0).2
  have protocolLength := (encodeVarint_length handshake.protocol).2
  have sizeLength := (encodeVarint_length handshake.host.length).2
  have nextLength := (encodeVarint_length
    (if handshake.nextState = .status then 1 else 2)).2
  refine ⟨valid, _, _, isVarint_encode ?_, ?_, ⟨encodeVarint 0, encodeVarint handshake.protocol,
    encodeVarint handshake.host.length, _, isVarint_encode (by decide), isVarint_encode protocol,
    isVarint_encode ?_, isVarint_encode next, rfl⟩, ?_⟩
  · apply isInt32_length
    simp only [List.length_append, BigEndian.length_bytes, int32Max]
    omega
  · simp only [List.length_append, BigEndian.length_bytes, mcHandshakeFrameSize]
    omega
  · apply isInt32_length
    simp only [int32Max]
    omega
  · simp only [handshakeFrame, framed, List.append_assoc]

/-- In strict mode a handshake has no other frame. -/
theorem isHandshakeFrame_strict {handshake : McHandshake} {frame : List UInt8}
    (strict : IsHandshakeFrame .strict handshake frame) : frame = handshakeFrame handshake := by
  obtain ⟨_, size, body, sizeIs, _, ⟨packetId, protocol, hostSize, nextState, idIs, protocolIs,
    hostSizeIs, nextIs, rfl⟩, rfl⟩ := strict
  rw [sizeIs.strict, idIs.strict, protocolIs.strict, hostSizeIs.strict, nextIs.strict]
  simp only [handshakeFrame, framed, List.append_assoc]

theorem handshakePacket_writes {protocol : Int} {address : List UInt8} {port : UInt16}
    {next : McState} (short : address.length < mcHandshakeHostSize) :
    Writes (handshakePacket protocol address port next)
      (encodeVarint protocol ++ ((encodeVarint address.length ++ address) ++
        (BigEndian.bytes 2 (effectivePort port) ++
          encodeVarint (if next = .status then 1 else 2)))) := by
  have small : address.length ≤ int32Max := by
    simp only [mcHandshakeHostSize, int32Max] at short ⊢
    omega
  exact .bind (.varint _) (.bind (.stringN small) (.bind (.u16 _) (.varint _)))

theorem handshakePacket_body (protocol : Int) {address : List UInt8} (port : UInt16)
    (next : McState) (short : address.length < mcHandshakeHostSize) :
    (buildPacket 512 (handshakePacket protocol address port next)).2.body =
      encodeVarint protocol ++ (encodeVarint address.length ++ address) ++
        BigEndian.bytes 2 (effectivePort port) ++
        encodeVarint (if next = .status then 1 else 2) := by
  have room : (encodeVarint protocol ++ ((encodeVarint address.length ++ address) ++
      (BigEndian.bytes 2 (effectivePort port) ++
        encodeVarint (if next = .status then 1 else 2)))).length ≤ 512 := by
    have protocolLength := (encodeVarint_length protocol).2
    have sizeLength := (encodeVarint_length address.length).2
    have nextLength := (encodeVarint_length (if next = .status then 1 else 2)).2
    simp only [mcHandshakeHostSize] at short
    simp only [List.length_append, BigEndian.length_bytes]
    omega
  obtain ⟨packet, built, -, body⟩ := (handshakePacket_writes short).build room
  rw [built, body]
  simp only [List.append_assoc]

section Open

variable {host : Host} {app : App} {world after : World}

theorem mcClientOpen_eq_some {address : List UInt8} {port : UInt16} {next : McState}
    (short : address.length < mcHandshakeHostSize)
    (run : mcClientOpen host app address port next world = (some (), after)) :
    address ≠ [] ∧ (next = .status ∨ next = .login) ∧ ∃ greeted,
      greeted.events = world.events ∧
      greeted.network.wire = world.network.wire ++ handshakeFrame
        ⟨world.client.profile.protocol, address, effectivePort port, next⟩ ∧
      changeState host app next greeted = (some (), after) := by
  obtain ⟨_, start, checked, afterCheck⟩ := Prog.bind_eq_some run
  obtain ⟨valid, same⟩ := refuseIf_eq_some checked
  obtain rfl : world = start := same.symm
  obtain ⟨client, seen, observed, afterSeen⟩ := Prog.bind_eq_some afterCheck
  cases observed
  obtain ⟨_, free, unconnected, afterFree⟩ := Prog.bind_eq_some afterSeen
  obtain ⟨-, same⟩ := refuseIf_eq_some unconnected
  obtain rfl : world = free := same.symm
  obtain ⟨_, reset, modified, afterReset⟩ := Prog.bind_eq_some afterFree
  cases modified
  obtain ⟨socketFd, connected, dialled, afterConnect⟩ := Prog.bind_eq_some afterReset
  have dialling := connectTcp_eq_some dialled
  obtain ⟨_, attached, modified, afterAttach⟩ := Prog.bind_eq_some afterConnect
  cases modified
  obtain ⟨_, greeted, greeting, changed⟩ := Prog.bind_eq_some afterAttach
  obtain ⟨_, initialised, readied, built⟩ :=
    Prog.bind_eq_some (orDisconnect_eq_some host app greeting)
  have readying := backendInit_eq_some readied
  obtain ⟨_, start, complete, sent⟩ := Prog.bind_eq_some built
  obtain ⟨-, same⟩ := refuseIf_eq_some complete
  obtain rfl : initialised = start := same.symm
  have client : initialised.client = { world.client.reopened with socketFd := socketFd } := by
    rw [readying.client]
    change { connected.client with socketFd := (socketFd : Int) } = _
    rw [dialling.client]
  have told := (sendBuilder_sending host 0x00 (buildPacket 512
    (handshakePacket world.client.profile.protocol address port next)).2).moves initialised
  rw [built] at told
  obtain ⟨content, written, -, -, encoded⟩ := sendFrame_eq_some (by rw [client]; rfl) sent
  have bare : initialised.client.compressionThreshold < 0 := by
    rw [client]
    exact (by decide : (-1 : Int) < 0)
  rw [encodedContent, if_pos bare] at encoded
  have body := handshakePacket_body world.client.profile.protocol port next short
  refine ⟨fun empty => valid (.inl empty), ?_, greeted, ?_, ?_, changed⟩
  · by_cases status : next = .status
    · exact .inl status
    · exact .inr (not_not.mp fun login => valid (.inr ⟨login, status⟩))
  · rw [told.events, readying.events]
    exact dialling.events
  · rw [written, readying.wire, ← Option.some.inj encoded]
    change connected.network.wire ++ _ = _
    rw [dialling.wire]
    exact congrArg (fun bytes => world.network.wire ++ framed (encodeVarint 0 ++ bytes)) body

end Open

/-- The handshake an accepted connection reports. -/
def Acceptance.reported : Acceptance → Option McHandshake
  | .accepted handshake _ => some handshake
  | _ => none

/-- What `mc_client_open` writes, `mc_server_accept` reports, with the port that is
connected to and with not a byte of what follows the frame. Whatever it accepts begins
with a frame of the grammar, of which one cut short is refused; of these only the written
one is free of over-long VarInts. -/
theorem handshake_round_trip (host peer : Host) (app peerApp : App) :
    (∀ world address port next after, mcProtocolSupported world.client.profile.protocol = true →
      address.length < mcHandshakeHostSize →
      mcClientOpen host app address port next world = (some (), after) →
        let handshake : McHandshake :=
          ⟨world.client.profile.protocol, address, effectivePort port, next⟩
        (∃ greeted, greeted.events = world.events ∧
          greeted.network.wire = world.network.wire ++ handshakeFrame handshake ∧
          changeState host app next greeted = (some (), after)) ∧
        ∀ accepting incoming rest, accepting.Serves incoming →
          incoming.bytes = handshakeFrame handshake ++ rest → ∃ client,
            mcServerAccept peer peerApp accepting = .accepted handshake
              (changeState peer peerApp next (World.accepted client incoming.socketFd
                ⟨rest, (handshakeFrame handshake).length⟩)).2) ∧
    (∀ accepting handshake world,
      mcServerAccept peer peerApp accepting = .accepted handshake world →
        mcProtocolSupported handshake.protocol = true ∧ ∃ incoming frame rest client,
          accepting.connection = .ok incoming ∧ incoming.bytes = frame ++ rest ∧
          IsHandshakeFrame .vanillaCompat handshake frame ∧
          world = (changeState peer peerApp handshake.nextState
            (World.accepted client incoming.socketFd ⟨rest, frame.length⟩)).2) ∧
    (∀ handshake start more, IsHandshakeFrame .vanillaCompat handshake (start ++ more) →
      more ≠ [] → ∀ accepting incoming, accepting.connection = .ok incoming →
        incoming.bytes = start → (mcServerAccept peer peerApp accepting).reported = none) ∧
    ∀ handshake frame, IsHandshakeFrame .strict handshake frame →
      frame = handshakeFrame handshake := by
  refine ⟨?_, ?_, ?_, fun _ _ => isHandshakeFrame_strict⟩
  · intro world address port next after supported short opened handshake
    obtain ⟨some, known, written⟩ := mcClientOpen_eq_some short opened
    have valid : handshake.Valid :=
      ⟨List.length_pos_of_ne_nil some, short, effectivePort_lt port, known⟩
    have frameIs : IsHandshakeFrame .vanillaCompat handshake (handshakeFrame handshake) :=
      isHandshakeFrame_written (mcProtocolSupported_int32 supported) valid
    obtain ⟨client, created⟩ := mcClientCreate_supported supported
    refine ⟨written, fun accepting incoming rest serves bytes => ⟨client, ?_⟩⟩
    exact mcServerAccept_iff.mpr
      ⟨incoming, handshakeFrame handshake, rest, client, serves, bytes, frameIs, created, rfl⟩
  · intro accepting handshake world accepted
    obtain ⟨incoming, frame, rest, client, serves, bytes, frameIs, created, after⟩ :=
      mcServerAccept_iff.mp accepted
    exact ⟨(mcClientCreate_ok created).1, incoming, frame, rest, client, serves.connection, bytes,
      frameIs, after⟩
  · intro handshake start more frameIs missing accepting incoming connection bytes
    cases accepted : mcServerAccept peer peerApp accepting with
    | idle => rfl
    | refused error => rfl
    | accepted other world =>
        obtain ⟨found, frame, rest, client, serves, split, otherIs, created, after⟩ :=
          mcServerAccept_iff.mp accepted
        obtain rfl : incoming = found := by
          have same := connection.symm.trans serves.connection
          cases same
          rfl
        have whole : start ++ more ++ [] = frame ++ (rest ++ more) := by
          rw [List.append_nil, ← bytes, split, List.append_assoc]
        have nothing := IsHandshakeFrame.unique frameIs otherIs whole
        exact absurd (List.append_eq_nil_iff.mp nothing.symm).2 missing

/-- A server that meets `bytes` on its next connection. -/
def Accepting.of (bytes : List UInt8) : Accepting where
  socketFd := 3
  polled := .ok true
  connection := .ok ⟨4, bytes, "Timeout handshake client"⟩
  backend := .ok ()
  granted := true
  decoderGranted := true

/-- A login handshake, and the first byte of the frame behind it. -/
theorem handshake_round_trip_login :
    let client := (mcClientCreate 772 true true).toOption.get (by decide)
    let world := World.serving client []
    let handshake : McHandshake := ⟨772, [97], 25566, .login⟩
    (mcClientOpen (.ample (.knowing [] [])) ⟨none, none, 0⟩ [97] 25566 .login world).1 =
        some () ∧
      (mcServerAccept (.ample (.knowing [] [])) ⟨none, none, 0⟩
        (.of (handshakeFrame handshake ++ [7]))).reported = some handshake ∧
      (mcServerAccept (.ample (.knowing [] [])) ⟨none, none, 0⟩
        (.of ((handshakeFrame handshake).take 4))).reported = none := by
  intro client world handshake
  have opened : (mcClientOpen (.ample (.knowing [] [])) ⟨none, none, 0⟩ [97] 25566 .login
      world).1 = some () := by decide +kernel
  have laws := handshake_round_trip (.ample (.knowing [] [])) (.ample (.knowing [] []))
    ⟨none, none, 0⟩ ⟨none, none, 0⟩
  have serves (bytes : List UInt8) :
      (Accepting.of bytes).Serves ⟨4, bytes, "Timeout handshake client"⟩ :=
    ⟨(by decide : (0 : Int) ≤ 3), rfl, rfl, rfl, rfl, rfl⟩
  obtain ⟨_, reports⟩ := laws.1 world [97] 25566 .login _ (by decide) (by decide)
    (Prod.ext opened rfl)
  obtain ⟨accepted, same⟩ := reports (.of (handshakeFrame handshake ++ [7])) _ [7] (serves _) rfl
  have frameIs : IsHandshakeFrame .vanillaCompat handshake (handshakeFrame handshake) :=
    isHandshakeFrame_written (by decide) ⟨by decide, by decide, by decide, .inr rfl⟩
  have cut := laws.2.2.1 handshake ((handshakeFrame handshake).take 4)
    ((handshakeFrame handshake).drop 4) (by rw [List.take_append_drop]; exact frameIs)
    (by decide +kernel) (.of _) _ rfl rfl
  exact ⟨opened, by rw [same]; rfl, cut⟩

/-- Port 0 is connected to, and reported, as 25565. -/
theorem handshake_round_trip_zero :
    let client := (mcClientCreate 772 true true).toOption.get (by decide)
    let opened := mcClientOpen (.ample (.knowing [] [])) ⟨none, none, 0⟩ [97] 0 .login
      (World.serving client [])
    opened.1 = some () ∧
      (mcServerAccept (.ample (.knowing [] [])) ⟨none, none, 0⟩
        (.of opened.2.network.wire)).reported = some ⟨772, [97], 25565, .login⟩ := by
  decide +kernel

end McProtocol
