import McProtocol.Client.AutomaticReplies
import McProtocol.Client.Runs

/-! # The read timeout

`mc_client_poll` reads its packet with a timeout of its own and puts the client's back
behind it, callbacks included. What a callback sets in between is put back too.
-/

namespace McProtocol

/-- A call that returned: the argument, for `mc_client_set_read_timeout`, and the client's
timeout from then on. -/
structure Return where
  argument : Option Nat
  timeoutMs : Nat
  deriving Repr, DecidableEq

/-- The call was one of `mc_client_set_read_timeout`, and returned `0`. -/
def Return.Accepted (returned : Return) : Prop :=
  ∃ timeoutMs, returned.argument = some timeoutMs ∧ timeoutMs ≠ 0

/-- The argument of the most recent accepted call, which was `latest` before. -/
def Return.latest (latest : Nat) (returned : Return) : Nat :=
  match returned.argument with
  | none => latest
  | some timeoutMs => if timeoutMs = 0 then latest else timeoutMs

/-- The most recent accepted argument behind all these calls. -/
def latestOf (latest : Nat) (returns : List Return) : Nat :=
  returns.foldl Return.latest latest

/-- Every call leaves the most recent accepted argument as the client's timeout. -/
def Kept : Nat → List Return → Prop
  | _, [] => True
  | latest, returned :: returns =>
      returned.timeoutMs = returned.latest latest ∧ Kept (returned.latest latest) returns

section Returns

variable (host : Host)

/-- The calls of `mc_client_set_read_timeout` within a call of the application; `changes`
are those within a change of state. -/
def callReturns (changes : McState → World → List Return) : AppCall → World → List Return
  | .disconnect, world =>
      changes .disconnected { world with client := { world.client with stop := true, socketFd := -1 } }
  | .setState state, world =>
      if world.client.socketFd < 0 ∨ state = .disconnected then [] else changes state world
  | .setReadTimeout timeoutMs, world =>
      [⟨some timeoutMs, (mcClientSetReadTimeout timeoutMs world).2.client.readTimeoutMs⟩]
  | _, _ => []

def programReturns (change : McState → ClientM Unit) (changes : McState → World → List Return) :
    AppProgram → World → List Return
  | .done, _ => []
  | .call request next, world =>
      let (result, after) := performAppCall host change request world
      callReturns changes request world ++
        programReturns change changes (next result.isSome) (tell (.returned result.isSome) after).2

variable (app : App)

/-- Those within `change_state`. -/
def changeReturnsAt : Nat → McState → World → List Return
  | 0, _, _ => []
  | depth + 1, state, world =>
      if world.client.state = state then []
      else
        match app.onState with
        | none => []
        | some callback =>
            let told := (tell (.state world.client.state state)
              { world with client := { world.client with state := state } }).2
            programReturns host (changeStateAt host app depth) (changeReturnsAt depth)
              (callback told.events) told

def changeReturns : McState → World → List Return := changeReturnsAt host app app.nesting

/-- Those within the callback on a packet. -/
def packetReturns (state : McState) (packetId : Int) (payload : List UInt8) (world : World) :
    List Return :=
  match app.onPacket with
  | none => []
  | some callback =>
      let told := (tell (.packet state packetId payload) world).2
      programReturns host (changeState host app) (changeReturns host app) (callback told.events) told

def readReturns (state : McState) (world : World) : List Return :=
  match readFrame host world with
  | (none, _) => []
  | (some frame, world) =>
      match mcReaderVarint.run (mcReaderInit frame) with
      | (none, _) => []
      | (some packetId, body) =>
          packetReturns host app state packetId (body.data.drop body.offset) world

/-- Those of a poll while it reads with its own timeout. -/
def pollReadReturns (timeoutMs : Nat) (world : World) : List Return :=
  if world.client.socketFd < 0 ∨ world.client.state = .disconnected ∨ world.client.stop = true then
    []
  else
    match pollReady world with
    | (some true, world) =>
        readReturns host app world.client.state
          { world with client := { world.client with readTimeoutMs := timeoutMs } }
    | _ => []

/-- Those of a poll that fails, while it disconnects. -/
def pollCloseReturns (timeoutMs : Nat) (world : World) : List Return :=
  if world.client.socketFd < 0 ∨ world.client.state = .disconnected ∨ world.client.stop = true then
    []
  else
    match pollConnected host app timeoutMs world with
    | (none, world) => callReturns (changeReturns host app) .disconnect world
    | _ => []

/-- All returns of a run, those of its own calls included. -/
def runReturns : List ConnectionCall → World → List Return
  | [], _ => []
  | .poll timeoutMs :: calls, world =>
      let after := (mcClientPoll host app timeoutMs world).2
      pollReadReturns host app timeoutMs world ++ (pollCloseReturns host app timeoutMs world ++
        (⟨none, after.client.readTimeoutMs⟩ :: runReturns calls after))
  | .request call :: calls, world =>
      let after := (performAppCall host (changeState host app) call world).2
      callReturns (changeReturns host app) call world ++
        (⟨none, after.client.readTimeoutMs⟩ :: runReturns calls after)

/-- What a poll asks of the callbacks: those it makes while it reads do not call
`mc_client_set_read_timeout` in vain first, and set nothing new, unless the callback on
the disconnect that ends the poll sets the timeout before it does so in vain. -/
def PollSpares (timeoutMs : Nat) (world : World) : Prop :=
  let saved := world.client.readTimeoutMs
  let reading := pollReadReturns host app timeoutMs world
  let closing := pollCloseReturns host app timeoutMs world
  (timeoutMs = saved ∨ ∀ first ∈ reading.head?, first.Accepted) ∧
    (latestOf saved reading = saved ∨ ∃ first ∈ closing.head?, first.Accepted)

/-- Every poll of a run is spared. -/
def RunSpares : List ConnectionCall → World → Prop
  | [], _ => True
  | .poll timeoutMs :: calls, world =>
      PollSpares host app timeoutMs world ∧ RunSpares calls (mcClientPoll host app timeoutMs world).2
  | .request call :: calls, world =>
      RunSpares calls (performAppCall host (changeState host app) call world).2

end Returns

section Lists

variable {latest other : Nat} {left right : List Return}

theorem latestOf_append : latestOf latest (left ++ right) = latestOf (latestOf latest left) right :=
  List.foldl_append

theorem kept_append : Kept latest (left ++ right) ↔
    Kept latest left ∧ Kept (latestOf latest left) right := by
  induction left generalizing latest with
  | nil => exact (iff_of_eq (true_and _)).symm
  | cons returned left ih =>
      rw [List.cons_append, Kept, Kept, ih, and_assoc]
      rfl

/-- Behind an accepted call it does not matter what was the latest before. -/
theorem Return.latest_accepted {returned : Return} {latest other : Nat} (accepted : returned.Accepted) :
    returned.latest latest = returned.latest other := by
  obtain ⟨timeoutMs, argument, nonzero⟩ := accepted
  simp only [Return.latest, argument, if_neg nonzero]

theorem Return.latest_refused {returned : Return} (refused : ¬ returned.Accepted) :
    returned.latest latest = latest := by
  unfold Return.latest
  cases argument : returned.argument with
  | none => rfl
  | some timeoutMs =>
      dsimp only
      split_ifs with zero
      · rfl
      · exact absurd ⟨timeoutMs, argument, zero⟩ refused

/-- Calls that keep one timeout keep another just when they are none, or the first is
accepted, or it is the same timeout. -/
theorem kept_other (kept : Kept other left) :
    Kept latest left ↔ other = latest ∨ ∀ first ∈ left.head?, first.Accepted := by
  cases left with
  | nil => exact ⟨fun _ => .inr nofun, fun _ => trivial⟩
  | cons returned left =>
      obtain ⟨timeout, rest⟩ := kept
      by_cases accepted : returned.Accepted
      · have same : returned.latest other = returned.latest latest :=
          Return.latest_accepted accepted
        rw [same] at timeout rest
        refine ⟨fun _ => .inr fun first isFirst => ?_, fun _ => ⟨timeout, rest⟩⟩
        cases isFirst
        exact accepted
      · rw [returned.latest_refused accepted] at timeout rest
        constructor
        · intro keeps
          obtain ⟨other', -⟩ := keeps
          rw [returned.latest_refused accepted] at other'
          exact .inl (timeout.symm.trans other')
        · intro condition
          cases condition with
          | inl same =>
              rw [same] at timeout rest
              refine ⟨?_, ?_⟩
              · rw [returned.latest_refused accepted]
                exact timeout
              · rw [returned.latest_refused accepted]
                exact rest
          | inr first => exact absurd (first returned rfl) accepted

/-- Where the first of some calls is accepted, the latest argument behind them does not
depend on the one before. -/
theorem latestOf_other (accepted : ∃ first ∈ left.head?, first.Accepted) :
    latestOf latest left = latestOf other left := by
  obtain ⟨first, isFirst, accepted⟩ := accepted
  cases left with
  | nil => cases isFirst
  | cons returned left =>
      cases isFirst
      exact congrArg (fun latest => latestOf latest left) (Return.latest_accepted accepted)

end Lists

/-- Programs that leave the timeout alone. -/
def steady : Discipline World :=
  .moving (fun before after => after.client.readTimeoutMs = before.client.readTimeoutMs)
    (fun _ => rfl) fun _ _ _ left right => right.trans left

theorem steady_of_sending {α : Type} {program : ClientM α} (lawful : sending.Lawful program) :
    steady.Lawful program :=
  .of_steps fun world => by rw [(lawful.moves world).client]

theorem steady_of_client {α : Type} {program : ClientM α}
    (client : ∀ world, (program world).2.client = world.client) : steady.Lawful program :=
  .of_steps fun world => by rw [client]

theorem steady_frames (host : Host) : CoversFrames host steady where
  remembers lawful := steady_of_sending (sending_of_memoryOnly lawful)
  feeds data := by
    apply Discipline.Lawful.of_steps
    intro world
    obtain ⟨error, same⟩ := feedOne_after host data world
    rw [same]
  receives capacity := by
    apply Discipline.Lawful.of_steps
    intro world
    obtain ⟨arrivals, waits, received, error, decrypted, same, -⟩ := receiveSome_after capacity world
    rw [same]

theorem steady_answers (host : Host) : CoversAnswers host steady where
  toCoversMemory := (steady_frames host).toCoversMemory
  sendsFrame packetId payload := steady_of_sending (sendFrame_sending host packetId payload)
  tracks _ := .of_steps fun _ => rfl
  loads := .of_steps fun _ => rfl

theorem mcClientSetCompression_steady (threshold : Int) :
    steady.Lawful (mcClientSetCompression threshold) := by
  apply Discipline.Lawful.of_steps
  intro world
  unfold mcClientSetCompression
  split_ifs with closed low
  · rfl
  · rfl
  · rcases mcStreamDecoderSetCompression world.client.streamDecoder threshold with
      ⟨_ | error, decoder⟩
    · rfl
    · rfl

/-- The returns of a program keep its timeout, and it ends with the latest of them. -/
def Traces {α : Type} (returns : World → List Return) (program : ClientM α) : Prop :=
  ∀ world, Kept world.client.readTimeoutMs (returns world) ∧
    (program world).2.client.readTimeoutMs = latestOf world.client.readTimeoutMs (returns world)

theorem traces_steady {α : Type} {program : ClientM α} (lawful : steady.Lawful program) :
    Traces (fun _ => []) program :=
  fun world => ⟨trivial, lawful.moves world⟩

section Tracing

variable {host : Host} {app : App} {change : McState → ClientM Unit}
  {changes : McState → World → List Return}

theorem setStateWith_refused {state : McState} {world : World}
    (refused : world.client.socketFd < 0 ∨ state = .disconnected) :
    (setStateWith change state world).2.client = world.client := by
  by_cases closed : world.client.socketFd < 0
  · have run : setStateWith change state world = setError "Client non connesso" world :=
      (Prog.bind_some rfl).trans (Prog.bind_none (refuseIf_pos closed))
    rw [run]
    rfl
  · have run : setStateWith change state world = setError "Stato protocollo non valido" world :=
      (Prog.bind_some rfl).trans ((Prog.bind_some (refuseIf_neg closed)).trans
        (Prog.bind_none (refuseIf_pos (refused.resolve_left closed))))
    rw [run]
    rfl

theorem setStateWith_accepted {state : McState} {world : World}
    (accepted : ¬ (world.client.socketFd < 0 ∨ state = .disconnected)) :
    setStateWith change state world = change state world :=
  (Prog.bind_some rfl).trans ((Prog.bind_some (refuseIf_neg fun closed => accepted (.inl closed))).trans
    (Prog.bind_some (refuseIf_neg fun invalid => accepted (.inr invalid))))

theorem callReturns_traces (host : Host) (traced : ∀ state, Traces (changes state) (change state))
    (request : AppCall) : Traces (callReturns changes request) (performAppCall host change request) := by
  have covers := steady_frames host
  cases request with
  | disconnect =>
      intro world
      exact traced .disconnected
        { world with client := { world.client with stop := true, socketFd := -1 } }
  | setState state =>
      intro world
      by_cases refused : world.client.socketFd < 0 ∨ state = .disconnected
      · have same : (performAppCall host change (.setState state) world).2.client = world.client :=
          setStateWith_refused refused
        rw [same, callReturns, if_pos refused]
        exact ⟨trivial, rfl⟩
      · have same : performAppCall host change (.setState state) world = change state world :=
          setStateWith_accepted refused
        rw [same, callReturns, if_neg refused]
        exact traced state world
  | setCompression threshold => exact traces_steady (mcClientSetCompression_steady threshold)
  | setReadTimeout timeoutMs =>
      intro world
      have set : (mcClientSetReadTimeout timeoutMs world).2.client.readTimeoutMs =
          if timeoutMs = 0 then world.client.readTimeoutMs else timeoutMs := by
        split_ifs with zero
        · have run : mcClientSetReadTimeout timeoutMs world =
              setError "Timeout lettura non valido" world := Prog.bind_none (refuseIf_pos zero)
          rw [run]
          rfl
        · have run : mcClientSetReadTimeout timeoutMs world = (some (), { world with
              client := { world.client with readTimeoutMs := timeoutMs } }) :=
            Prog.bind_some (refuseIf_neg zero)
          rw [run]
      exact ⟨⟨set, trivial⟩, set⟩
  | setStreamTransforms transforms =>
      refine traces_steady (.bind (covers.observe_lawful _) fun _ => ?_)
      refine .bind (covers.refuseIf_lawful _ _) fun _ => ?_
      cases transforms with
      | null => exact .of_steps fun _ => rfl
      | incomplete => exact covers.setError_lawful _
      | given transforms => exact .of_steps fun _ => rfl
  | send packetId payload =>
      exact traces_steady (steady_of_sending (mcClientSend_sending host packetId payload))
  | sendNamed packetName payload =>
      exact traces_steady (steady_of_sending (mcClientSendNamed_sending host packetName payload))
  | sendBatch batch =>
      exact traces_steady (steady_of_sending (mcClientSendBatch_sending host batch))
  | sendPlayerPosition position =>
      refine traces_steady (.bind (covers.observe_lawful _) fun _ => ?_)
      refine .bind (covers.refuseIf_lawful _ _) fun _ => .bind (covers.refuseIf_lawful _ _) fun _ => ?_
      refine .bind (steady_of_sending (mcClientSendNamed_sending host _ _)) fun _ => ?_
      exact .of_steps fun _ => rfl

theorem programReturns_traces (traced : ∀ state, Traces (changes state) (change state))
    (program : AppProgram) :
    Traces (programReturns host change changes program) (runProgram host change program) := by
  induction program with
  | done => exact fun world => ⟨trivial, rfl⟩
  | call request next ih =>
      intro world
      rcases run : performAppCall host change request world with ⟨result, after⟩
      have called := callReturns_traces host traced request world
      have rest := ih result.isSome (tell (.returned result.isSome) after).2
      have going : runProgram host change (.call request next) world =
          runProgram host change (next result.isSome) (tell (.returned result.isSome) after).2 := by
        have answer : answered (performAppCall host change request) world =
            (some result.isSome, after) := by
          rw [answered, run]
        exact (Prog.bind_some answer).trans (Prog.bind_some rfl)
      rw [run] at called
      have told : (tell (.returned result.isSome) after).2.client.readTimeoutMs =
          latestOf world.client.readTimeoutMs (callReturns changes request world) := called.2
      rw [told] at rest
      simp only [programReturns, run]
      rw [going, kept_append, latestOf_append]
      exact ⟨⟨called.1, rest.1⟩, rest.2⟩

theorem changeReturnsAt_traces (host : Host) (app : App) (depth : Nat) (state : McState) :
    Traces (changeReturnsAt host app depth state) (changeStateAt host app depth state) := by
  induction depth generalizing state with
  | zero =>
      intro world
      by_cases same : world.client.state = state
      · rw [changeStateAt_same host app same]
        exact ⟨trivial, rfl⟩
      · rw [changeStateAt_other host app same, afterChange]
        cases app.onState with
        | none => exact ⟨trivial, rfl⟩
        | some callback => exact ⟨trivial, rfl⟩
  | succ depth ih =>
      intro world
      by_cases same : world.client.state = state
      · rw [changeStateAt_same host app same, changeReturnsAt, if_pos same]
        exact ⟨trivial, rfl⟩
      · rw [changeStateAt_other host app same, afterChange, changeReturnsAt, if_neg same]
        cases app.onState with
        | none => exact ⟨trivial, rfl⟩
        | some callback =>
            exact programReturns_traces ih _ (tell (.state world.client.state state)
              { world with client := { world.client with state := state } }).2

theorem changeReturns_traces (host : Host) (app : App) (state : McState) :
    Traces (changeReturns host app state) (changeState host app state) :=
  changeReturnsAt_traces host app app.nesting state

theorem packetReturns_traces (host : Host) (app : App) (state : McState) (packetId : Int)
    (payload : List UInt8) :
    Traces (packetReturns host app state packetId payload)
      (emitPacket host app state packetId payload) := by
  intro world
  rw [packetReturns, emitPacket]
  cases app.onPacket with
  | none => exact ⟨trivial, rfl⟩
  | some callback =>
      exact programReturns_traces (changeReturns_traces host app) _
        (tell (.packet state packetId payload) world).2

theorem readReturns_traces (host : Host) (app : App) (state : McState) :
    Traces (readReturns host app state) (readProtocolPacket host app state) := by
  intro world
  have same : (readFrame host world).2.client.readTimeoutMs = world.client.readTimeoutMs :=
    ((steady_frames host).readFrameLoop_lawful _).moves world
  rcases read : readFrame host world with ⟨_ | frame, after⟩
  · rw [read] at same
    have run : readProtocolPacket host app state world = (none, after) := Prog.bind_none read
    rw [run, readReturns, read]
    exact ⟨trivial, same⟩
  · rw [read] at same
    dsimp only at same
    rcases parsed : mcReaderVarint.run (mcReaderInit frame) with ⟨_ | packetId, body⟩
    · have run : readProtocolPacket host app state world =
          setError "Pacchetto senza ID VarInt" after := by
        rw [readProtocolPacket, Prog.bind_some read, parsed]
      rw [run, readReturns, read]
      simp only [parsed]
      exact ⟨trivial, same⟩
    · have run : readProtocolPacket host app state world =
          (emitPacket host app state packetId (body.data.drop body.offset) >>= fun _ =>
            pure (packetId, body)) after := by
        rw [readProtocolPacket, Prog.bind_some read, parsed]
      have traced := packetReturns_traces host app state packetId (body.data.drop body.offset) after
      rw [run, readReturns, read]
      simp only [parsed]
      rw [← same]
      rcases emitted : emitPacket host app state packetId (body.data.drop body.offset) after with
        ⟨_ | u, told⟩
      · rw [emitted] at traced
        rw [Prog.bind_none emitted]
        exact traced
      · rw [emitted] at traced
        rw [Prog.bind_some emitted]
        exact traced

variable {timeoutMs : Nat} {world : World}

/-- While it reads, a poll keeps its own timeout. -/
theorem pollReadReturns_kept (host : Host) (app : App) (timeoutMs : Nat) (world : World) :
    Kept timeoutMs (pollReadReturns host app timeoutMs world) := by
  unfold pollReadReturns
  split_ifs with unconnected
  · trivial
  · split
    · rename_i ready polled
      exact (readReturns_traces host app ready.client.state
        { ready with client := { ready.client with readTimeoutMs := timeoutMs } }).1
    · trivial

theorem pollPacket_steady : steady.Lawful (pollPacket host app timeoutMs) := by
  have covers := steady_frames host
  have ready : steady.Lawful pollReady := by
    refine .bind (covers.observe_lawful _) fun client => ?_
    split_ifs
    · exact .pure _
    · have polls : steady.Lawful backendWait := by
        refine steady_of_client fun world => ?_
        unfold backendWait
        cases world.network.waits with
        | nil => rfl
        | cons wait waits => rfl
      refine .bind polls fun wait => ?_
      cases wait with
      | ready => exact .pure _
      | timeout => exact .pure _
      | failed reason => exact covers.setError_lawful _
  refine .bind ready fun found => ?_
  cases found with
  | false => exact .pure _
  | true =>
      have restored : steady.Lawful (pollRead host app timeoutMs) := .of_steps fun _ => rfl
      exact .bind restored fun _ => .pure _

theorem pollConnected_steady : steady.Lawful (pollConnected host app timeoutMs) := by
  refine .bind pollPacket_steady fun received => ?_
  cases received with
  | none => exact .pure _
  | some received =>
      refine .bind ?_ fun _ => .pure _
      exact .bind ((steady_frames host).observe_lawful _) fun _ =>
        .when ((steady_answers host).handlePlay_lawful _ _)

/-- A poll of a client that is not connected or is stopped leaves it alone. -/
theorem mcClientPoll_unconnected (unconnected : world.client.socketFd < 0 ∨
      world.client.state = .disconnected ∨ world.client.stop = true) :
    (mcClientPoll host app timeoutMs world).2.client = world.client := by
  by_cases refused : world.client.socketFd < 0 ∨ world.client.state = .disconnected
  · have run : mcClientPoll host app timeoutMs world = setError "Client non connesso" world :=
      Prog.bind_none ((Prog.bind_some rfl).trans (refuseIf_pos refused))
    rw [run]
    rfl
  · have stop : world.client.stop = true := by
      obtain socket | state | stop := unconnected
      · exact absurd (.inl socket) refused
      · exact absurd (.inr state) refused
      · exact stop
    have run : mcClientPoll host app timeoutMs world = (some false, world) := by
      refine (Prog.bind_some ((Prog.bind_some rfl).trans (refuseIf_neg refused))).trans ?_
      refine (Prog.bind_some rfl).trans ?_
      rw [if_pos stop]
      rfl
    rw [run]

/-- Behind its reading, a poll starts from the timeout it found, and ends with the latest
its disconnect sets. -/
theorem pollCloseReturns_traces (host : Host) (app : App) (timeoutMs : Nat) (world : World) :
    Kept world.client.readTimeoutMs (pollCloseReturns host app timeoutMs world) ∧
      (mcClientPoll host app timeoutMs world).2.client.readTimeoutMs =
        latestOf world.client.readTimeoutMs (pollCloseReturns host app timeoutMs world) := by
  by_cases unconnected : world.client.socketFd < 0 ∨ world.client.state = .disconnected ∨
      world.client.stop = true
  · rw [pollCloseReturns, if_pos unconnected, mcClientPoll_unconnected unconnected]
    exact ⟨trivial, rfl⟩
  · have same : (pollConnected host app timeoutMs world).2.client.readTimeoutMs =
        world.client.readTimeoutMs := pollConnected_steady.moves world
    rw [pollCloseReturns, if_neg unconnected, mcClientPoll_connected unconnected]
    rcases run : pollConnected host app timeoutMs world with ⟨_ | found, after⟩
    · rw [run] at same
      rw [orDisconnect_failed host app run, ← same]
      exact callReturns_traces host (changeReturns_traces host app) .disconnect after
    · rw [run] at same
      rw [orDisconnect_some host app run]
      exact ⟨trivial, same⟩

/-- What a poll returns keeps the latest timeout just when the callbacks spare it. -/
theorem poll_kept_iff {rest : List Return} :
    Kept world.client.readTimeoutMs (pollReadReturns host app timeoutMs world ++
        (pollCloseReturns host app timeoutMs world ++
          (⟨none, (mcClientPoll host app timeoutMs world).2.client.readTimeoutMs⟩ :: rest))) ↔
      PollSpares host app timeoutMs world ∧
        Kept (mcClientPoll host app timeoutMs world).2.client.readTimeoutMs rest := by
  have reading := pollReadReturns_kept host app timeoutMs world
  obtain ⟨closing, ended⟩ := pollCloseReturns_traces host app timeoutMs world
  rw [PollSpares]
  generalize pollReadReturns host app timeoutMs world = read at reading ⊢
  generalize pollCloseReturns host app timeoutMs world = close at closing ended ⊢
  have behind (settled : latestOf world.client.readTimeoutMs read = world.client.readTimeoutMs ∨
      ∃ first ∈ close.head?, first.Accepted) :
      latestOf (latestOf world.client.readTimeoutMs read) close =
        latestOf world.client.readTimeoutMs close := by
    cases settled with
    | inl same => rw [same]
    | inr accepted => exact latestOf_other accepted
  rw [kept_append, kept_append, kept_other reading, kept_other closing, ended]
  constructor
  · rintro ⟨first, second, last, more⟩
    have settled : latestOf world.client.readTimeoutMs read = world.client.readTimeoutMs ∨
        ∃ first ∈ close.head?, first.Accepted := by
      cases second with
      | inl same => exact .inl same.symm
      | inr accepted =>
          cases close with
          | nil => exact .inl last.symm
          | cons returned close => exact .inr ⟨returned, rfl, accepted returned rfl⟩
    refine ⟨⟨first, settled⟩, ?_⟩
    rw [← behind settled]
    exact more
  · rintro ⟨⟨first, settled⟩, more⟩
    refine ⟨first, ?_, (behind settled).symm, ?_⟩
    · cases settled with
      | inl same => exact .inl same.symm
      | inr accepted =>
          obtain ⟨returned, isFirst, accepted⟩ := accepted
          refine .inr fun other isOther => ?_
          cases isFirst.symm.trans isOther
          exact accepted
    · have latest : Return.latest (latestOf (latestOf world.client.readTimeoutMs read) close)
          ⟨none, latestOf world.client.readTimeoutMs close⟩ =
            latestOf world.client.readTimeoutMs close := behind settled
      rw [latest]
      exact more

/-- After every call of a run the client's timeout is the most recent one that
`mc_client_set_read_timeout` accepted, or the one at the start, just when the callbacks
spare every poll. -/
theorem readTimeout_kept_iff (host : Host) (app : App) (calls : List ConnectionCall)
    (world : World) :
    Kept world.client.readTimeoutMs (runReturns host app calls world) ↔
      RunSpares host app calls world := by
  induction calls generalizing world with
  | nil => exact Iff.rfl
  | cons call calls ih =>
      cases call with
      | poll timeoutMs =>
          rw [runReturns, RunSpares, poll_kept_iff, ih]
      | request call =>
          have traced := callReturns_traces host (changeReturns_traces host app) call world
          rw [runReturns, RunSpares, kept_append, ← ih, traced.2]
          exact ⟨fun kept => kept.2.2, fun kept => ⟨traced.1, rfl, kept⟩⟩

end Tracing

/-- An application that sets the timeout on every packet. -/
def settingTimeout : App where
  onState := none
  onPacket := some fun _ => .call (.setReadTimeout 5000) fun _ => .done
  nesting := 0

instance : (latest : Nat) → (returns : List Return) → Decidable (Kept latest returns)
  | _, [] => inferInstanceAs (Decidable True)
  | latest, returned :: returns =>
      have := instDecidableKept (returned.latest latest) returns
      inferInstanceAs (Decidable (_ ∧ _))

/-- The callback's `5000` is accepted, and `30000` is put back. -/
theorem readTimeout_not_kept :
    let client := (mcClientCreate 47 true true).toOption.get (by decide)
    let world := World.playing client [1, 0x7f]
    let host := Host.ample (.knowing [] [])
    world.client.readTimeoutMs = 30000 ∧
      (mcClientPoll host settingTimeout 1000 world).1 = some true ∧
      ¬ Kept 30000 (runReturns host settingTimeout [.poll 1000] world) := by
  decide +kernel

end McProtocol
