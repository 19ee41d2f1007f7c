import McProtocol.Registry
import McProtocol.PlayerPosition
import McProtocol.Stream

/-! # A client and its surroundings

`McClient` with the sockets, the memory and the application around it. What the
network and the allocator do is scripted: a run of the client is a function of the
script, and the world records what was written and what was called back.
-/

namespace McProtocol

def mcErrorName : McErrorCode → String
  | .none => "MC_ERROR_NONE"
  | .invalidArgument => "MC_ERROR_INVALID_ARGUMENT"
  | .unsupportedProtocol => "MC_ERROR_UNSUPPORTED_PROTOCOL"
  | .invalidState => "MC_ERROR_INVALID_STATE"
  | .invalidDirection => "MC_ERROR_INVALID_DIRECTION"
  | .unknownPacket => "MC_ERROR_UNKNOWN_PACKET"
  | .partialInput => "MC_ERROR_PARTIAL_INPUT"
  | .varintOverflow => "MC_ERROR_VARINT_OVERFLOW"
  | .varintNonCanonical => "MC_ERROR_VARINT_NON_CANONICAL"
  | .frameTooLarge => "MC_ERROR_FRAME_TOO_LARGE"
  | .bufferLimit => "MC_ERROR_BUFFER_LIMIT"
  | .decompressedTooLarge => "MC_ERROR_DECOMPRESSED_TOO_LARGE"
  | .compressionHeader => "MC_ERROR_COMPRESSION_HEADER"
  | .compressionThreshold => "MC_ERROR_COMPRESSION_THRESHOLD"
  | .zlib => "MC_ERROR_ZLIB"
  | .trailingBytes => "MC_ERROR_TRAILING_BYTES"
  | .invalidBoolean => "MC_ERROR_INVALID_BOOLEAN"
  | .stringTooLarge => "MC_ERROR_STRING_TOO_LARGE"
  | .nbtDepth => "MC_ERROR_NBT_DEPTH"
  | .nbtLength => "MC_ERROR_NBT_LENGTH"
  | .invalidLength => "MC_ERROR_INVALID_LENGTH"
  | .integerOverflow => "MC_ERROR_INTEGER_OVERFLOW"
  | .invalidPacketBody => "MC_ERROR_INVALID_PACKET_BODY"
  | .outOfMemory => "MC_ERROR_OUT_OF_MEMORY"
  | .io => "MC_ERROR_IO"
  | .timeout => "MC_ERROR_TIMEOUT"
  | .internal => "MC_ERROR_INTERNAL"

/-- Transforms of the whole stream, in place. Their state is what they were given so
far; `none` is a failure. -/
structure McStreamTransforms where
  encrypt : List (List UInt8) → List UInt8 → Option (List UInt8)
  decrypt : List (List UInt8) → List UInt8 → Option (List UInt8)
  encrypt_length : ∀ given data wire, encrypt given data = some wire → wire.length = data.length
  decrypt_length : ∀ given wire data, decrypt given wire = some data → data.length = wire.length

structure McClient where
  socketFd : Int
  stop : Bool
  profile : McProfile
  state : McState
  compressionThreshold : Int
  sentBytes : Nat
  receivedBytes : Nat
  automaticReplies : Nat
  readTimeoutMs : Nat
  transforms : Option McStreamTransforms
  streamDecoder : McStreamDecoder
  trackedPosition : McPlayerPosition
  trackedPositionValid : Bool
  playerLoadedSent : Bool
  serverSide : Bool

/-- `MC_AUTOMATIC_ALL`. -/
def mcAutomaticAll : Nat := 15

/-- `mc_client_create`, told whether its two allocations succeed. -/
def mcClientCreate (protocol : Int) (granted decoderGranted : Bool) : Except String McClient :=
  match findProfile protocol with
  | none => .error ("Protocollo Minecraft " ++ toString protocol ++ " non supportato")
  | some profile =>
      if !granted then .error "Memoria insufficiente"
      else
        match mcStreamDecoderCreate none decoderGranted with
        | .error error => .error ("Decoder stream non allocabile: " ++ mcErrorName error.code)
        | .ok decoder =>
            .ok
              { socketFd := -1
                stop := false
                profile := profile
                state := .disconnected
                compressionThreshold := -1
                sentBytes := 0
                receivedBytes := 0
                automaticReplies := mcAutomaticAll
                readTimeoutMs := 30000
                transforms := none
                streamDecoder := decoder
                trackedPosition := ⟨⟨0⟩, ⟨0⟩, ⟨0⟩, ⟨0⟩, ⟨0⟩, false⟩
                trackedPositionValid := false
                playerLoadedSent := false
                serverSide := false }

/-- What one `recv` finds; no bytes is the end of the stream. -/
inductive Arrival where
  | bytes (chunk : List UInt8)
  | interrupted
  | wouldBlock
  | failed (reason : String)
  deriving Repr, DecidableEq

/-- What one `backend_wait` comes to. -/
inductive Wait where
  | ready
  | timeout
  | failed (reason : String)
  deriving Repr, DecidableEq

/-- What one `send` does: it takes one byte and up to `more` behind it. -/
inductive Departure where
  | accepted (more : Nat)
  | interrupted
  | failed (reason : String)
  deriving Repr, DecidableEq

/-- The outcomes to come, and the bytes sent so far. Behind the last outcome the
stream is at its end, nothing gets ready, and every byte is taken. -/
structure Network where
  connections : List (Except String Nat)
  backends : List (Except String Unit)
  arrivals : List Arrival
  waits : List Wait
  departures : List Departure
  wire : List UInt8

/-- What the application is told: by `on_state`, by `on_packet`, and by the calls it
makes from within these. -/
inductive McEvent where
  | state (previous current : McState)
  | packet (state : McState) (packetId : Int) (payload : List UInt8)
  | returned (succeeded : Bool)
  deriving Repr, DecidableEq

/-- A call of `send_frame`, and whether it returned `0`. -/
structure SentFrame where
  packetId : Int
  payload : List UInt8
  succeeded : Bool
  deriving Repr, DecidableEq

/-- `error` is the caller's buffer, `allocated` counts the allocations, `frames` are the
calls of `send_frame`, and the last two are the inputs of the stream transforms. -/
structure World where
  client : McClient
  network : Network
  allocated : Nat
  error : String
  events : List McEvent
  frames : List SentFrame
  encrypted : List (List UInt8)
  decrypted : List (List UInt8)

/-- A quiet world around a client. -/
def World.around (client : McClient) : World where
  client := client
  network :=
    { connections := [], backends := [], arrivals := [], waits := [], departures := [], wire := [] }
  allocated := 0
  error := ""
  events := []
  frames := []
  encrypted := []
  decrypted := []

/-- What a client is linked against: zlib, the two allocators in use, and the generated
packet names. -/
structure Host where
  zlib : Zlib
  heap : Heap
  streamHeap : Heap
  catalog : McPacketCatalog

/-- A host whose memory never runs out, and a catalog nobody looks into. -/
def Host.ample (zlib : Zlib) : Host := ⟨zlib, .ample, .ample, ⟨fun _ _ _ => []⟩⟩

/-- A client call; refusing is returning `-1`. -/
abbrev ClientM := Prog World

/-- `set_error` and `return -1`. -/
def setError {α : Type} (message : String) : ClientM α := fun world =>
  (none, { world with error := message })

def refuseIf (condition : Prop) [Decidable condition] (message : String) : ClientM Unit :=
  if condition then setError message else pure ()

def modifyClient (change : McClient → McClient) : ClientM Unit := fun world =>
  (some (), { world with client := change world.client })

/-- A `malloc` whose failure ends the call. -/
def allocate (host : Host) (size : Nat) (message : String) : ClientM Unit := fun world =>
  if host.heap.grant world.allocated size then
    (some (), { world with allocated := world.allocated + 1 })
  else (none, { world with allocated := world.allocated + 1, error := message })

def badDescriptor : String := "Bad file descriptor"

/-- The `while` loop of `send_all`: why it stopped short, what it wrote, and the
outcomes left. -/
def sendLoop : List Departure → List UInt8 → Option String × List UInt8 × List Departure
  | departures, [] => (none, [], departures)
  | [], data => (none, data, [])
  | .interrupted :: departures, data => sendLoop departures data
  | .failed reason :: departures, _ => (some reason, [], departures)
  | .accepted more :: departures, data =>
      let (stopped, written, departures) := sendLoop departures (data.drop (more + 1))
      (stopped, data.take (more + 1) ++ written, departures)

/-- What `encrypt` makes of the data, in a copy of its own. -/
def encryptStream (host : Host) (data : List UInt8) : ClientM (List UInt8) := fun world =>
  match world.client.transforms with
  | none => (some data, world)
  | some transforms =>
      if data.length = 0 then (some data, world)
      else
        match allocate host data.length "Memoria insufficiente per la cifratura stream" world with
        | (none, world) => (none, world)
        | (some (), world) =>
            let told := { world with encrypted := world.encrypted ++ [data] }
            match transforms.encrypt world.encrypted data with
            | none => setError "Cifratura stream fallita" told
            | some transformed => (some transformed, told)

/-- `send` until everything is written; an invalid descriptor is refused at once. -/
def writeSocket (wire : List UInt8) : ClientM Unit := fun world =>
  if wire.length = 0 then (some (), world)
  else if world.client.socketFd < 0 then
    setError ("Invio socket fallito: " ++ badDescriptor) world
  else
    let (stopped, written, departures) := sendLoop world.network.departures wire
    let world :=
      { world with
        client := { world.client with
          sentBytes := (world.client.sentBytes + written.length) % 2 ^ 64 }
        network := { world.network with
          departures := departures
          wire := world.network.wire ++ written } }
    match stopped with
    | none => (some (), world)
    | some reason => setError ("Invio socket fallito: " ++ reason) world

def sendAll (host : Host) (data : List UInt8) : ClientM Unit := do
  let wire ← encryptStream host data
  writeSocket wire

/-- The `for` loop of `receive_some`: the bytes or the error, and the outcomes left. -/
def receiveLoop (capacity : Nat) :
    List Arrival → List Wait → Except String (List UInt8) × List Arrival × List Wait
  | [], waits => (.error "Connessione chiusa dal server", [], waits)
  | .interrupted :: arrivals, waits => receiveLoop capacity arrivals waits
  | .failed reason :: arrivals, waits =>
      (.error ("Lettura socket fallita: " ++ reason), arrivals, waits)
  | .bytes [] :: arrivals, waits => (.error "Connessione chiusa dal server", arrivals, waits)
  | .bytes (byte :: chunk) :: arrivals, waits =>
      let rest := (byte :: chunk).drop capacity
      (.ok ((byte :: chunk).take capacity),
        if rest = [] then arrivals else .bytes rest :: arrivals, waits)
  | .wouldBlock :: arrivals, waits =>
      match waits with
      | [] => (.error "Timeout durante la ricezione del frame", arrivals, [])
      | .ready :: waits => receiveLoop capacity arrivals waits
      | .timeout :: waits => (.error "Timeout durante la ricezione del frame", arrivals, waits)
      | .failed reason :: waits => (.error ("Attesa frame fallita: " ++ reason), arrivals, waits)

def receiveSome (capacity : Nat) : ClientM (List UInt8) := fun world =>
  if world.client.socketFd < 0 then setError ("Lettura socket fallita: " ++ badDescriptor) world
  else
    let (result, arrivals, waits) :=
      receiveLoop capacity world.network.arrivals world.network.waits
    let world :=
      { world with network := { world.network with arrivals := arrivals, waits := waits } }
    match result with
    | .error message => setError message world
    | .ok data =>
        let world :=
          { world with client := { world.client with
              receivedBytes := (world.client.receivedBytes + data.length) % 2 ^ 64 } }
        match world.client.transforms with
        | none => (some data, world)
        | some transforms =>
            let told := { world with decrypted := world.decrypted ++ [data] }
            match transforms.decrypt world.decrypted data with
            | none => setError "Decifratura stream fallita" told
            | some plain => (some plain, told)

/-- `backend_wait` outside of a read. -/
def backendWait : ClientM Wait := fun world =>
  match world.network.waits with
  | [] => (some .timeout, world)
  | wait :: waits => (some wait, { world with network := { world.network with waits := waits } })

end McProtocol
