import McProtocol.BuilderSizes
import McProtocol.Catalog
import McProtocol.Client.Application

/-! # Actions of a client

The helpers that send what a player does: each checks the state of the client, builds one packet
in an array of its own, and sends it under the name the release gives it.
-/

namespace McProtocol

section Helpers

variable (host : Host)

def refuseOutsidePlay : ClientM Unit := do
  let client ← Prog.observe World.client
  refuseIf (client.socketFd < 0 ∨ client.state ≠ .play) "Client non in stato PLAY"

/-- Build a packet in `capacity` bytes, and send what was built. -/
def sendBuilt (capacity : Nat) (build : WriteM Unit) (refusal packetName : String) :
    ClientM Unit := do
  let (built, body) := buildPacket capacity build
  refuseIf (built = none) refusal
  mcClientSendNamed host packetName body.body

/-- What most helpers do; the packet and its name depend on the release. -/
def sendAction (capacity : Nat) (build : Int → WriteM Unit) (refusal : String)
    (packetName : Int → String) : ClientM Unit := do
  refuseOutsidePlay
  let client ← Prog.observe World.client
  let protocol := client.profile.protocol
  sendBuilt host capacity (build protocol) refusal (packetName protocol)

def int64Max : Nat := 2 ^ 63 - 1

/-- The milliseconds of a clock that could be read, as seconds and nanoseconds. -/
def commandTimestamp (clock : Option (Int × Int)) : Option Int :=
  match clock with
  | none => none
  | some (seconds, nanoseconds) =>
      let fractionalMs := nanoseconds / 1000000
      if seconds < 0 ∨ nanoseconds < 0 ∨ 1000000000 ≤ nanoseconds
          ∨ (int64Max - fractionalMs) / 1000 < seconds then none
      else some (seconds * 1000 + fractionalMs)

def mcClientSendCommand (command : Option (List UInt8)) (clock : Option (Int × Int)) :
    ClientM Unit := do
  refuseOutsidePlay
  match commandTimestamp clock with
  | none => setError "Orologio comando non disponibile"
  | some timestampMs => do
      let client ← Prog.observe World.client
      let protocol := client.profile.protocol
      sendBuilt host 384 (given (fun text => mcPacketCommand protocol text timestampMs 0) command)
        "Comando Minecraft non valido" (if protocol ≤ 758 then "chat" else "chat_command")

/-- The one helper that may also be called in the configuration phase. -/
def mcClientSendClientInformation (information : Option McClientInformation) : ClientM Unit := do
  let client ← Prog.observe World.client
  refuseIf (client.socketFd < 0 ∨ client.state ≠ .play ∧ client.state ≠ .configuration)
    "Client non in stato PLAY o CONFIGURATION"
  sendBuilt host 64 (given (mcPacketClientInformation client.profile.protocol) information)
    "Client Information Minecraft non valida" "settings"

def mcClientSendEntityAction (action : Option McEntityAction) : ClientM Unit :=
  sendAction host 16 (fun protocol => given (mcPacketEntityAction protocol) action)
    "Entity Action Minecraft non valida" fun _ => "entity_action"

def mcClientSendPlayerInput (flags : UInt8) : ClientM Unit :=
  sendAction host 1 (fun protocol => mcPacketPlayerInput protocol flags)
    "Player Input Minecraft non valido" fun _ => "player_input"

def mcClientSwingArm (entityId hand : Int) : ClientM Unit :=
  sendAction host 5 (fun protocol => mcPacketArmAnimation protocol entityId hand)
    "Arm Animation Minecraft non valida"
    fun protocol => if 777 ≤ protocol then "punch" else "arm_animation"

def mcClientSendPlayerAbilities (abilities : Option McPlayerAbilities) : ClientM Unit :=
  sendAction host 9 (fun protocol => given (mcPacketPlayerAbilities protocol) abilities)
    "Abilities Minecraft non valide" fun _ => "abilities"

def mcClientDigBlock (dig : Option McBlockDig) : ClientM Unit :=
  sendAction host 16 (fun protocol => given (mcPacketBlockDig protocol) dig)
    "Azione block_dig Minecraft non valida" fun _ => "block_dig"

def mcClientCloseWindow (windowId : Int) : ClientM Unit :=
  sendAction host 5 (fun protocol => mcPacketCloseWindow protocol windowId)
    "Finestra Minecraft non valida" fun _ => "close_window"

def mcClientSetCreativeSlotDamage (slot itemId count damage : Int) : ClientM Unit :=
  sendAction host 32
    (fun protocol => mcPacketSetCreativeSlotDamage protocol slot itemId count damage)
    "Slot creativo Minecraft non valido" fun _ => "set_creative_slot"

def mcClientSetCreativeSlot (slot itemId count : Int) : ClientM Unit :=
  mcClientSetCreativeSlotDamage host slot itemId count 0

def mcClientSelectHotbarSlot (slot : Int) : ClientM Unit :=
  sendAction host 2 (fun protocol => mcPacketHeldItemSlot protocol slot)
    "Slot hotbar Minecraft non valido" fun _ => "held_item_slot"

def mcClientClickWindow (click : Option McWindowClick) : ClientM Unit :=
  sendAction host 32 (fun protocol => given (mcPacketWindowClick protocol) click)
    "Click finestra Minecraft non valido" fun _ => "window_click"

def mcClientClickContainerButton (windowId buttonId : Int) : ClientM Unit :=
  sendAction host 10 (fun protocol => mcPacketContainerButton protocol windowId buttonId)
    "Bottone container Minecraft non valido" fun _ => "enchant_item"

def mcClientAttackEntity (entityId : Int) : ClientM Unit :=
  sendAction host 16 (fun protocol => mcPacketAttackEntity protocol entityId)
    "Bersaglio attacco Minecraft non valido"
    fun protocol => if 775 ≤ protocol then "attack" else "use_entity"

def mcClientRequestRespawn : ClientM Unit :=
  sendAction host 5 mcPacketRespawnRequest "Richiesta respawn Minecraft non valida"
    fun _ => "client_command"

variable (compressor : Compressor)

/-- How much memory a packet with a held stack is given: a tag is written up to 47, compressed
up to 5. -/
def heldItemStorage (protocol : Int) (nbt : Buffer) : Option Nat :=
  if protocol ≤ 47 ∧ nbt.size ≠ 0 then
    let needed := if protocol ≤ 5 then compressor.compressBound nbt.size else nbt.size
    if mcMaxPacket - 64 < needed then none else some (needed + 64)
  else some 64

/-- What both helpers do in PLAY; they differ in `what` they name in their errors. -/
def sendHeld (what : String) (nbt : Buffer) (build : Int → WriteM Unit)
    (packetName : Int → String) : ClientM Unit := do
  let client ← Prog.observe World.client
  let protocol := client.profile.protocol
  match heldItemStorage compressor protocol nbt with
  | none => setError ("NBT " ++ what ++ " troppo grande")
  | some capacity => do
      allocate host capacity ("Allocazione " ++ what ++ " fallita")
      sendBuilt host capacity (build protocol) ("Azione " ++ what ++ " Minecraft non valida")
        (packetName protocol)

def mcClientPlaceBlock (place : McBlockPlace) : ClientM Unit := do
  refuseOutsidePlay
  sendHeld host compressor "block_place" place.heldItemNbt
    (fun protocol => mcPacketBlockPlace compressor protocol place) fun _ => "block_place"

def mcClientUseItem : Option McUseItem → ClientM Unit
  | none => setError "Client non in stato PLAY"
  | some use => do
      refuseOutsidePlay
      sendHeld host compressor "use_item" use.heldItemNbt
        (fun protocol => mcPacketUseItem compressor protocol use)
        fun protocol => if protocol ≤ 47 then "block_place" else "use_item"

end Helpers

inductive ClientAction where
  | command (command : Option (List UInt8)) (clock : Option (Int × Int))
  | clientInformation (information : Option McClientInformation)
  | entityAction (action : Option McEntityAction)
  | playerInput (flags : UInt8)
  | swingArm (entityId hand : Int)
  | playerPosition (position : McPlayerPosition)
  | playerAbilities (abilities : Option McPlayerAbilities)
  | digBlock (dig : Option McBlockDig)
  | placeBlock (place : McBlockPlace)
  | useItem (use : McUseItem)
  | closeWindow (windowId : Int)
  | setCreativeSlot (slot itemId count : Int)
  | setCreativeSlotDamage (slot itemId count damage : Int)
  | selectHotbarSlot (slot : Int)
  | clickWindow (click : Option McWindowClick)
  | clickContainerButton (windowId buttonId : Int)
  | attackEntity (entityId : Int)
  | requestRespawn

namespace ClientAction

section Meaning

variable (host : Host) (compressor : Compressor) (protocol : Int)

def perform : ClientAction → ClientM Unit
  | .command text clock => mcClientSendCommand host text clock
  | .clientInformation information => mcClientSendClientInformation host information
  | .entityAction action => mcClientSendEntityAction host action
  | .playerInput flags => mcClientSendPlayerInput host flags
  | .swingArm entityId hand => mcClientSwingArm host entityId hand
  | .playerPosition position => mcClientSendPlayerPosition host position
  | .playerAbilities abilities => mcClientSendPlayerAbilities host abilities
  | .digBlock dig => mcClientDigBlock host dig
  | .placeBlock place => mcClientPlaceBlock host compressor place
  | .useItem use => mcClientUseItem host compressor (some use)
  | .closeWindow windowId => mcClientCloseWindow host windowId
  | .setCreativeSlot slot itemId count => mcClientSetCreativeSlot host slot itemId count
  | .setCreativeSlotDamage slot itemId count damage =>
      mcClientSetCreativeSlotDamage host slot itemId count damage
  | .selectHotbarSlot slot => mcClientSelectHotbarSlot host slot
  | .clickWindow click => mcClientClickWindow host click
  | .clickContainerButton windowId buttonId => mcClientClickContainerButton host windowId buttonId
  | .attackEntity entityId => mcClientAttackEntity host entityId
  | .requestRespawn => mcClientRequestRespawn host

/-- The public builder that says the same, with whatever memory its caller has. -/
def packet : ClientAction → PacketCall
  | .command text clock => .command protocol text ((commandTimestamp clock).getD 0) 0
  | .clientInformation information => .clientInformation protocol information
  | .entityAction action => .entityAction protocol action
  | .playerInput flags => .playerInput protocol flags
  | .swingArm entityId hand => .armAnimation protocol entityId hand
  | .playerPosition position => .playerPosition protocol position
  | .playerAbilities abilities => .playerAbilities protocol abilities
  | .digBlock dig => .blockDig protocol dig
  | .placeBlock place => .blockPlace protocol place
  | .useItem use => .useItem protocol use
  | .closeWindow windowId => .closeWindow protocol windowId
  | .setCreativeSlot slot itemId count => .setCreativeSlot protocol slot itemId count
  | .setCreativeSlotDamage slot itemId count damage =>
      .setCreativeSlotDamage protocol slot itemId count damage
  | .selectHotbarSlot slot => .heldItemSlot protocol slot
  | .clickWindow click => .windowClick protocol click
  | .clickContainerButton windowId buttonId => .containerButton protocol windowId buttonId
  | .attackEntity entityId => .attackEntity protocol entityId
  | .requestRespawn => .respawnRequest protocol

/-- Every byte string the builder can leave in some memory. -/
def Says (action : ClientAction) (bytes : List UInt8) : Prop :=
  Builds ((action.packet protocol).program compressor) bytes

def packetName : ClientAction → String
  | .command .. => if protocol ≤ 758 then "chat" else "chat_command"
  | .clientInformation _ => "settings"
  | .entityAction _ => "entity_action"
  | .playerInput _ => "player_input"
  | .swingArm .. => if 777 ≤ protocol then "punch" else "arm_animation"
  | .playerPosition _ => "position_look"
  | .playerAbilities _ => "abilities"
  | .digBlock _ => "block_dig"
  | .placeBlock _ => "block_place"
  | .useItem _ => if protocol ≤ 47 then "block_place" else "use_item"
  | .closeWindow _ => "close_window"
  | .setCreativeSlot .. => "set_creative_slot"
  | .setCreativeSlotDamage .. => "set_creative_slot"
  | .selectHotbarSlot _ => "held_item_slot"
  | .clickWindow _ => "window_click"
  | .clickContainerButton .. => "enchant_item"
  | .attackEntity _ => if 775 ≤ protocol then "attack" else "use_entity"
  | .requestRespawn => "client_command"

/-- A held stack gets the memory its packet takes. -/
def HeldReady (nbt : Buffer) (world : World) : Prop :=
  ∃ capacity, heldItemStorage compressor world.client.profile.protocol nbt = some capacity ∧
    host.heap.grant world.allocated capacity = true

/-- Nothing stands in the way of the action but what it says. -/
def Ready (action : ClientAction) (world : World) : Prop :=
  0 ≤ world.client.socketFd ∧
    match action with
    | .clientInformation _ => world.client.state = .play ∨ world.client.state = .configuration
    | .command _ clock => world.client.state = .play ∧ commandTimestamp clock ≠ none
    | .placeBlock place =>
        world.client.state = .play ∧ HeldReady host compressor place.heldItemNbt world
    | .useItem use => world.client.state = .play ∧ HeldReady host compressor use.heldItemNbt world
    | _ => world.client.state = .play

/-- A packet of the action, sent; a position is tracked behind it. -/
def deliver (action : ClientAction) (bytes : List UInt8) : ClientM Unit :=
  match action with
  | .playerPosition position => do
      mcClientSendNamed host "position_look" (.bytes bytes)
      trackPosition position
  | action => mcClientSendNamed host (action.packetName protocol) (.bytes bytes)

/-- The world the packet is sent from: a held stack has been given its memory. -/
def start (action : ClientAction) (world : World) : World :=
  match action with
  | .placeBlock _ | .useItem _ => { world with allocated := world.allocated + 1 }
  | _ => world

end Meaning

end ClientAction

/-- A call that sends what can be said, whole, and is refused where nothing can. -/
structure Acts (call : ClientM Unit) (world : World) (ready : Prop) (bodies : List UInt8 → Prop)
    (deliver : List UInt8 → ClientM Unit) (start : World) : Prop where
  whole : ready → ∀ bytes, bodies bytes → call world = deliver bytes start
  refused : (¬ ready ∨ ¬ ∃ bytes, bodies bytes) →
    (call world).1 = none ∧ SameButMemory world (call world).2

section Acting

variable {host : Host} {compressor : Compressor} {world : World} {build : WriteM Unit}
  {capacity limit : Nat} {refusal packetName : String}

theorem refused_setError {call : ClientM Unit} {message : String}
    (refused : call world = setError message world) :
    (call world).1 = none ∧ SameButMemory world (call world).2 := by
  rw [refused]
  exact ⟨rfl, rfl, rfl, rfl, rfl, rfl, rfl⟩

theorem acts_sendBuilt (bounded : Bounded build limit) (room : limit ≤ capacity) :
    Acts (sendBuilt host capacity build refusal packetName) world True (Builds build)
      (fun bytes => mcClientSendNamed host packetName (.bytes bytes)) world where
  whole := by
    intro _ bytes builds
    obtain ⟨packet, built, rfl⟩ := bounded.builds builds room
    unfold sendBuilt
    rw [built]
    exact Prog.bind_some (refuseIf_neg (Option.some_ne_none _))
  refused := by
    intro refused
    have never := refused.resolve_left (not_not.mpr trivial)
    have run : sendBuilt host capacity build refusal packetName world = setError refusal world := by
      unfold sendBuilt
      exact Prog.bind_none (refuseIf_pos (buildPacket_refused never capacity))
    exact refused_setError run

section Composing

variable {call rest other : ClientM Unit} {ready able : Prop} {bodies : List UInt8 → Prop}
  {deliver : List UInt8 → ClientM Unit} {start : World}

theorem Acts.congr (acts : Acts call world ready bodies deliver start)
    (run : other world = call world) (same : able ↔ ready) :
    Acts other world able bodies deliver start where
  whole prepared bytes body := run.trans (acts.whole (same.mp prepared) bytes body)
  refused := by
    intro refused
    rw [run]
    exact acts.refused (refused.imp_left (same.not.mp ·))

/-- A test of the client in front. -/
theorem Acts.behind {condition : Prop} {message : String}
    (acts : Acts rest world ready bodies deliver start)
    (refuses : condition → call world = setError message world)
    (passes : ¬ condition → call world = rest world) :
    Acts call world (¬ condition ∧ ready) bodies deliver start where
  whole := by
    intro ready bytes body
    exact (passes ready.1).trans (acts.whole ready.2 bytes body)
  refused := by
    intro refused
    by_cases stops : condition
    · exact refused_setError (refuses stops)
    · rw [passes stops]
      apply acts.refused
      exact refused.imp_left fun unready ready => unready ⟨stops, ready⟩

theorem outsidePlay_iff {client : McClient} :
    ¬ (client.socketFd < 0 ∨ client.state ≠ .play) ↔ 0 ≤ client.socketFd ∧ client.state = .play := by
  simp only [not_or, not_lt, not_not]

/-- What only a client in PLAY does. -/
theorem Acts.inPlay {rest : Unit → ClientM Unit}
    (acts : Acts (rest ()) world ready bodies deliver start) :
    Acts (refuseOutsidePlay >>= rest) world
      ((0 ≤ world.client.socketFd ∧ world.client.state = .play) ∧ ready) bodies deliver start := by
  have behind : Acts (refuseOutsidePlay >>= rest) world _ bodies deliver start :=
    acts.behind (fun outside => Prog.bind_none (refuseIf_pos outside))
      fun inside => Prog.bind_some (refuseIf_neg inside)
  exact behind.congr rfl (by rw [outsidePlay_iff])

end Composing

/-- Most helpers. -/
theorem acts_sendAction {build : Int → WriteM Unit} {packetName : Int → String}
    (bounded : ∀ protocol, Bounded (build protocol) limit) (room : limit ≤ capacity) :
    Acts (sendAction host capacity build refusal packetName) world
      (0 ≤ world.client.socketFd ∧ world.client.state = .play)
      (Builds (build world.client.profile.protocol))
      (fun bytes => mcClientSendNamed host (packetName world.client.profile.protocol)
        (.bytes bytes)) world := by
  have sending := (acts_sendBuilt (bounded _) room : Acts (sendBuilt host capacity
    (build world.client.profile.protocol) refusal
      (packetName world.client.profile.protocol)) world True _ _ world)
  have acts : Acts (do
      let client ← Prog.observe World.client
      let protocol := client.profile.protocol
      sendBuilt host capacity (build protocol) refusal (packetName protocol)) world True _ _ world :=
    sending.congr rfl Iff.rfl
  exact (Acts.inPlay acts).congr rfl (by rw [and_true])

theorem acts_sendHeld {what : String} {nbt : Buffer} {build : Int → WriteM Unit}
    {packetName : Int → String}
    (bounded : ∀ capacity, heldItemStorage compressor world.client.profile.protocol nbt =
      some capacity → Bounded (build world.client.profile.protocol) capacity) :
    Acts (sendHeld host compressor what nbt build packetName) world
      (ClientAction.HeldReady host compressor nbt world)
      (Builds (build world.client.profile.protocol))
      (fun bytes => mcClientSendNamed host (packetName world.client.profile.protocol)
        (.bytes bytes)) { world with allocated := world.allocated + 1 } := by
  have run : sendHeld host compressor what nbt build packetName world =
      (match heldItemStorage compressor world.client.profile.protocol nbt with
        | none => setError ("NBT " ++ what ++ " troppo grande")
        | some capacity => do
            allocate host capacity ("Allocazione " ++ what ++ " fallita")
            sendBuilt host capacity (build world.client.profile.protocol)
              ("Azione " ++ what ++ " Minecraft non valida")
              (packetName world.client.profile.protocol)) world := rfl
  unfold ClientAction.HeldReady
  cases storage : heldItemStorage compressor world.client.profile.protocol nbt with
  | none =>
      rw [storage] at run
      constructor
      · rintro ⟨_, found, -⟩
        cases found
      · intro _
        exact refused_setError run
  | some capacity =>
      rw [storage] at run
      have built := (acts_sendBuilt (bounded capacity storage) (Nat.le_refl capacity) :
        Acts (sendBuilt host capacity (build world.client.profile.protocol)
          ("Azione " ++ what ++ " Minecraft non valida")
            (packetName world.client.profile.protocol))
              { world with allocated := world.allocated + 1 } True _ _ _)
      by_cases granted : host.heap.grant world.allocated capacity = true
      · have passed : sendHeld host compressor what nbt build packetName world = _ :=
          run.trans (Prog.bind_some (if_pos granted))
        constructor
        · intro _ bytes body
          exact passed.trans (built.whole trivial bytes body)
        · intro refused
          obtain ⟨failed, same⟩ := built.refused (.inr (refused.resolve_left
            (not_not.mpr ⟨capacity, rfl, granted⟩)))
          rw [passed]
          exact ⟨failed, same.client, same.network, same.events, same.frames, same.encrypted,
            same.decrypted⟩
      · have failed : sendHeld host compressor what nbt build packetName world = _ :=
          run.trans (Prog.bind_none (if_neg granted))
        constructor
        · rintro ⟨_, found, grants⟩
          cases found
          exact absurd grants granted
        · intro _
          rw [failed]
          exact ⟨rfl, rfl, rfl, rfl, rfl, rfl, rfl⟩

/-- The memory of a held stack is enough for its packet. -/
theorem heldItemStorage_enough {protocol : Int} {nbt : Buffer}
    (storage : heldItemStorage compressor protocol nbt = some capacity) :
    (if protocol ≤ 47 then 18 + heldNbtLimit compressor protocol nbt else 54) ≤ capacity := by
  unfold heldItemStorage at storage
  unfold heldNbtLimit
  by_cases tagged : protocol ≤ 47 ∧ nbt.size ≠ 0
  · rw [if_pos tagged] at storage
    dsimp only at storage
    rw [if_pos tagged.1, if_neg tagged.2]
    split_ifs at storage ⊢
    · cases storage
      omega
    · cases storage
      omega
  · rw [if_neg tagged] at storage
    cases storage
    split_ifs with early nothing
    · decide
    · exact absurd ⟨early, nothing⟩ tagged
    · exact absurd ⟨early, nothing⟩ tagged
    · decide

/-- A command needs the time as well. -/
theorem acts_command (text : Option (List UInt8)) (clock : Option (Int × Int)) :
    let protocol := world.client.profile.protocol
    Acts (mcClientSendCommand host text clock) world
      (0 ≤ world.client.socketFd ∧ world.client.state = .play ∧ commandTimestamp clock ≠ none)
      (Builds (given (fun text => mcPacketCommand protocol text ((commandTimestamp clock).getD 0) 0)
        text))
      (fun bytes => mcClientSendNamed host (if protocol ≤ 758 then "chat" else "chat_command")
        (.bytes bytes)) world := by
  intro protocol
  unfold mcClientSendCommand
  cases commandTimestamp clock with
  | none =>
      have refuses : Acts (setError "Orologio comando non disponibile") world False
          (Builds (given (fun text => mcPacketCommand protocol text 0 0) text))
          (fun bytes => mcClientSendNamed host
            (if protocol ≤ 758 then "chat" else "chat_command") (.bytes bytes)) world :=
        ⟨False.elim, fun _ => refused_setError rfl⟩
      exact (Acts.inPlay refuses).congr rfl (by simp)
  | some timestampMs =>
      have sending := (acts_sendBuilt (.given (fun text => bounded_command text timestampMs 0) text)
        (by decide) : Acts (sendBuilt host 384 (given (fun text =>
          mcPacketCommand protocol text timestampMs 0) text) "Comando Minecraft non valido"
            (if protocol ≤ 758 then "chat" else "chat_command")) world True _ _ world)
      have acts : Acts (do
          let client ← Prog.observe World.client
          let protocol := client.profile.protocol
          sendBuilt host 384 (given (fun text => mcPacketCommand protocol text timestampMs 0) text)
            "Comando Minecraft non valido" (if protocol ≤ 758 then "chat" else "chat_command"))
          world True _ _ world := sending.congr rfl Iff.rfl
      exact (Acts.inPlay acts).congr rfl (by simp)

theorem acts_clientInformation (information : Option McClientInformation) :
    Acts (mcClientSendClientInformation host information) world
      (0 ≤ world.client.socketFd ∧
        (world.client.state = .play ∨ world.client.state = .configuration))
      (Builds (given (mcPacketClientInformation world.client.profile.protocol) information))
      (fun bytes => mcClientSendNamed host "settings" (.bytes bytes)) world := by
  have sending := (acts_sendBuilt (.given bounded_clientInformation information) (by decide) :
    Acts (sendBuilt host 64 (given (mcPacketClientInformation world.client.profile.protocol)
      information) "Client Information Minecraft non valida" "settings") world True _ _ world)
  have behind : Acts (mcClientSendClientInformation host information) world _ _ _ world :=
    sending.behind
      (fun (outside : world.client.socketFd < 0 ∨
        world.client.state ≠ .play ∧ world.client.state ≠ .configuration) =>
          (Prog.bind_some rfl).trans (Prog.bind_none (refuseIf_pos outside)))
      fun inside => (Prog.bind_some rfl).trans (Prog.bind_some (refuseIf_neg inside))
  refine behind.congr rfl ?_
  simp only [not_or, not_lt, not_and_or, not_not, and_true]

theorem acts_playerPosition (position : McPlayerPosition) :
    Acts (mcClientSendPlayerPosition host position) world
      (0 ≤ world.client.socketFd ∧ world.client.state = .play)
      (Builds (mcPacketPlayerPosition world.client.profile.protocol position))
      (fun bytes => do
        mcClientSendNamed host "position_look" (.bytes bytes)
        trackPosition position) world where
  whole := by
    intro ready bytes builds
    obtain ⟨packet, built, rfl⟩ := (bounded_playerPosition position).builds builds
      (by decide : 41 ≤ 48)
    unfold mcClientSendPlayerPosition
    refine (Prog.bind_some rfl).trans ((Prog.bind_some (refuseIf_neg
      (outsidePlay_iff.mpr ready))).trans ?_)
    rw [built]
    exact Prog.bind_some (refuseIf_neg (Option.some_ne_none _))
  refused := by
    intro refused
    by_cases outside : world.client.socketFd < 0 ∨ world.client.state ≠ .play
    · exact refused_setError ((Prog.bind_some rfl).trans (Prog.bind_none (refuseIf_pos outside)))
    · have never := refused.resolve_left (not_not.mpr (outsidePlay_iff.mp outside))
      exact refused_setError ((Prog.bind_some rfl).trans ((Prog.bind_some (refuseIf_neg outside)).trans
        (Prog.bind_none (refuseIf_pos (buildPacket_refused never 48)))))

theorem acts_perform (obeys : compressor.Obeys) (action : ClientAction) :
    Acts (action.perform host compressor) world (action.Ready host compressor world)
      (action.Says compressor world.client.profile.protocol)
      (action.deliver host world.client.profile.protocol) (action.start world) := by
  cases action with
  | command text clock => exact acts_command text clock
  | clientInformation information => exact acts_clientInformation information
  | playerPosition position => exact acts_playerPosition position
  | placeBlock place =>
      have held := (acts_sendHeld fun capacity storage =>
        (bounded_blockPlace obeys place).mono (heldItemStorage_enough storage) :
          Acts (sendHeld host compressor "block_place" place.heldItemNbt
            (fun protocol => mcPacketBlockPlace compressor protocol place) fun _ => "block_place")
            world _ _ _ _)
      have acts : Acts (mcClientPlaceBlock host compressor place) world _ _ _ _ := held.inPlay
      exact acts.congr rfl and_assoc.symm
  | useItem use =>
      have held := (acts_sendHeld fun capacity storage =>
        (bounded_useItem obeys use).mono (le_trans (by split_ifs <;> omega)
          (heldItemStorage_enough storage)) :
          Acts (sendHeld host compressor "use_item" use.heldItemNbt
            (fun protocol => mcPacketUseItem compressor protocol use)
            fun protocol => if protocol ≤ 47 then "block_place" else "use_item")
            world _ _ _ _)
      have acts : Acts (mcClientUseItem host compressor (some use)) world _ _ _ _ := held.inPlay
      exact acts.congr rfl and_assoc.symm
  | entityAction action =>
      exact (acts_sendAction (fun _ => .given bounded_entityAction action) (by decide) :
        Acts (mcClientSendEntityAction host action) world _ _ _ _)
  | playerInput flags =>
      exact (acts_sendAction (fun _ => bounded_playerInput flags) (by decide) :
        Acts (mcClientSendPlayerInput host flags) world _ _ _ _)
  | swingArm entityId hand =>
      exact (acts_sendAction (fun _ => bounded_armAnimation entityId hand) (by decide) :
        Acts (mcClientSwingArm host entityId hand) world _ _ _ _)
  | playerAbilities abilities =>
      exact (acts_sendAction (fun _ => .given bounded_playerAbilities abilities) (by decide) :
        Acts (mcClientSendPlayerAbilities host abilities) world _ _ _ _)
  | digBlock dig =>
      exact (acts_sendAction (fun _ => .given bounded_blockDig dig) (by decide) :
        Acts (mcClientDigBlock host dig) world _ _ _ _)
  | closeWindow windowId =>
      exact (acts_sendAction (fun _ => bounded_closeWindow windowId) (by decide) :
        Acts (mcClientCloseWindow host windowId) world _ _ _ _)
  | setCreativeSlot slot itemId count =>
      exact (acts_sendAction (fun _ => bounded_setCreativeSlot slot itemId count 0) (by decide) :
        Acts (mcClientSetCreativeSlotDamage host slot itemId count 0) world _ _ _ _)
  | setCreativeSlotDamage slot itemId count damage =>
      exact (acts_sendAction (fun _ => bounded_setCreativeSlot slot itemId count damage) (by decide) :
        Acts (mcClientSetCreativeSlotDamage host slot itemId count damage) world _ _ _ _)
  | selectHotbarSlot slot =>
      exact (acts_sendAction (fun _ => bounded_heldItemSlot slot) (by decide) :
        Acts (mcClientSelectHotbarSlot host slot) world _ _ _ _)
  | clickWindow click =>
      exact (acts_sendAction (fun _ => .given bounded_windowClick click) (by decide) :
        Acts (mcClientClickWindow host click) world _ _ _ _)
  | clickContainerButton windowId buttonId =>
      exact (acts_sendAction (fun _ => bounded_containerButton windowId buttonId) (by decide) :
        Acts (mcClientClickContainerButton host windowId buttonId) world _ _ _ _)
  | attackEntity entityId =>
      exact (acts_sendAction (fun _ => bounded_attackEntity entityId) (by decide) :
        Acts (mcClientAttackEntity host entityId) world _ _ _ _)
  | requestRespawn =>
      exact (acts_sendAction (fun _ => bounded_respawnRequest) (by decide) :
        Acts (mcClientRequestRespawn host) world _ _ _ _)

/-- The id of a name, in the direction the client sends in. -/
def McClient.idOf (client : McClient) (host : Host) (packetName : String) : Int :=
  host.catalog.mcPacketId client.profile.protocol client.state
    (if client.serverSide then .clientbound else .serverbound) packetName

theorem mcClientSendNamed_frames {payload : Buffer} {after : World}
    (run : mcClientSendNamed host packetName payload world = (some (), after)) :
    0 ≤ world.client.idOf host packetName ∧
      after.frames = world.frames ++ [⟨world.client.idOf host packetName, payload.content, true⟩] := by
  obtain ⟨_, start, connected, rest⟩ := Prog.bind_eq_some run
  obtain ⟨_, rfl⟩ := refuseIf_eq_some ((Prog.bind_some rfl).symm.trans connected)
  obtain ⟨_, middle, known, sent⟩ := Prog.bind_eq_some ((Prog.bind_some rfl).symm.trans rest)
  obtain ⟨natural, rfl⟩ := refuseIf_eq_some known
  obtain ⟨_, last, again, framed⟩ := Prog.bind_eq_some sent
  obtain ⟨_, rfl⟩ := refuseIf_eq_some ((Prog.bind_some rfl).symm.trans again)
  rw [sendFrame_run] at framed
  refine ⟨not_lt.mp natural, ?_⟩
  have succeeded := congrArg Prod.fst framed
  have same := congrArg (fun outcome => outcome.2.frames) framed
  dsimp only at succeeded same
  rw [← same, succeeded]
  rfl

theorem deliver_frames {action : ClientAction} {bytes : List UInt8} {after : World}
    (run : action.deliver host world.client.profile.protocol bytes (action.start world) =
      (some (), after)) :
    let packetId := world.client.idOf host (action.packetName world.client.profile.protocol)
    0 ≤ packetId ∧ after.frames = world.frames ++ [⟨packetId, bytes, true⟩] := by
  cases action with
  | playerPosition position =>
      obtain ⟨_, middle, sent, tracked⟩ := Prog.bind_eq_some run
      cases tracked
      exact mcClientSendNamed_frames sent
  | placeBlock place => exact mcClientSendNamed_frames run
  | useItem use => exact mcClientSendNamed_frames run
  | _ => exact mcClientSendNamed_frames run

/-- What a helper that succeeded has sent. -/
theorem perform_frames (obeys : compressor.Obeys) {action : ClientAction}
    (succeeded : (action.perform host compressor world).1 = some ()) :
    let protocol := world.client.profile.protocol
    let packetId := world.client.idOf host (action.packetName protocol)
    ∃ bytes, action.Says compressor protocol bytes ∧ 0 ≤ packetId ∧
      (action.perform host compressor world).2.frames = world.frames ++ [⟨packetId, bytes, true⟩] := by
  have acts : Acts (action.perform host compressor) world _ _ _ _ := acts_perform obeys action
  have able : action.Ready host compressor world ∧
      ∃ bytes, action.Says compressor world.client.profile.protocol bytes := by
    by_contra unable
    have refused := (acts.refused (not_and_or.mp unable)).1
    rw [succeeded] at refused
    cases refused
  obtain ⟨ready, bytes, body⟩ := able
  have run := acts.whole ready bytes body
  exact ⟨bytes, body, deliver_frames (run.symm.trans (Prod.ext succeeded rfl))⟩

end Acting

/-- No action is refused for want of room, and none is cut short: a helper that may act sends
whatever its builder can leave in memory of any size, and one that has sent something has sent
that, in one frame under the name the release gives it. -/
theorem client_actions_whole (host : Host) (compressor : Compressor) (obeys : compressor.Obeys)
    (action : ClientAction) (world : World) :
    let protocol := world.client.profile.protocol
    let call := action.perform host compressor
    Acts call world (action.Ready host compressor world) (action.Says compressor protocol)
        (action.deliver host protocol) (action.start world) ∧
      ((call world).1 = some () → ∃ bytes, action.Says compressor protocol bytes ∧
        0 ≤ world.client.idOf host (action.packetName protocol) ∧
        (call world).2.frames = world.frames ++
          [⟨world.client.idOf host (action.packetName protocol), bytes, true⟩]) := by
  intro protocol call
  exact ⟨acts_perform obeys action, perform_frames obeys⟩

/-- A block dug on 772, with a sequence that takes all of the helper's array but a byte. -/
theorem client_actions_whole_dig :
    let compressor : Compressor := ⟨fun size => size, fun _ => true, fun _ _ => none⟩
    let host := { Host.ample (.knowing [] []) with catalog := packetCatalog ⟨fun _ _ _ => []⟩ }
    let client := (mcClientCreate 772 true true).toOption.get (by decide)
    let world := World.around { client with socketFd := 3, state := .play }
    let dig : McBlockDig := ⟨2, ⟨1, 64, -1⟩, 1, 0x7fffffff⟩
    let bytes : List UInt8 :=
      [2, 0, 0, 0, 0x7f, 0xff, 0xff, 0xf0, 0x40, 1, 0xff, 0xff, 0xff, 0xff, 7]
    ((ClientAction.digBlock dig).perform host compressor world).2.frames = [⟨0x28, bytes, true⟩] := by
  intro compressor host client world dig bytes
  have obeys : compressor.Obeys := fun _ _ _ found => by cases found
  have builds : (ClientAction.digBlock dig).Says compressor 772 bytes :=
    ⟨16, ⟨bytes ++ [0], 15, false⟩, by decide +kernel, rfl⟩
  have ready : (ClientAction.digBlock dig).Ready host compressor world := ⟨by decide, rfl⟩
  have run := (client_actions_whole host compressor obeys (.digBlock dig) world).1.whole ready bytes
    builds
  rw [run]
  decide +kernel

section Named

variable {compressor : Compressor} {protocol : Int} {bytes : List UInt8}

theorem builds_checked {condition : Prop} [Decidable condition] {rest : Unit → WriteM Unit}
    (builds : Builds (refuseWhen condition >>= rest) bytes) : ¬ condition := by
  obtain ⟨capacity, packet, built, -⟩ := builds
  obtain ⟨⟨⟩, middle, passed, -⟩ := Prog.bind_eq_some built
  exact (refuseWhen_eq_some passed).1

theorem builds_given {α : Type} {write : α → WriteM Unit} {value : Option α}
    (builds : Builds (given write value) bytes) : ∃ there, Builds (write there) bytes := by
  cases value with
  | none =>
      obtain ⟨capacity, packet, built, -⟩ := builds
      exact absurd trivial (refuseWhen_eq_some built).1
  | some there => exact ⟨there, builds⟩

theorem supported_of_checked {others : Prop} (good : ¬ (mcProtocolSupported protocol = false ∨ others)) :
    mcProtocolSupported protocol = true := by
  by_contra unsupported
  exact good (.inl (by simpa using unsupported))

/-- What is said is said on a release. -/
theorem ClientAction.Says.supported {action : ClientAction}
    (body : action.Says compressor protocol bytes) : mcProtocolSupported protocol = true := by
  cases action with
  | command text clock =>
      obtain ⟨text, builds⟩ := builds_given body
      by_contra unsupported
      exact builds_checked builds (by simpa using unsupported)
  | clientInformation information =>
      obtain ⟨information, builds⟩ := builds_given body
      exact supported_of_checked (builds_checked builds)
  | entityAction action =>
      obtain ⟨action, builds⟩ := builds_given body
      exact supported_of_checked (builds_checked builds)
  | playerAbilities abilities =>
      obtain ⟨abilities, builds⟩ := builds_given body
      by_contra unsupported
      exact builds_checked builds (by simpa using unsupported)
  | digBlock dig =>
      obtain ⟨dig, builds⟩ := builds_given body
      exact supported_of_checked (builds_checked builds)
  | clickWindow click =>
      obtain ⟨click, builds⟩ := builds_given body
      exact supported_of_checked (builds_checked builds)
  | requestRespawn =>
      by_contra unsupported
      exact builds_checked body (by simpa using unsupported)
  | _ => exact supported_of_checked (builds_checked body)

/-- The names of the actions of a release; a player's input has one since 768. -/
def actionNames (protocol : Int) : List String :=
  [if protocol ≤ 758 then "chat" else "chat_command", "settings", "entity_action",
    if 777 ≤ protocol then "punch" else "arm_animation", "position_look", "abilities", "block_dig",
    "block_place", if protocol ≤ 47 then "block_place" else "use_item", "close_window",
    "set_creative_slot", "held_item_slot", "window_click", "enchant_item",
    if 775 ≤ protocol then "attack" else "use_entity", "client_command"] ++
      if 768 ≤ protocol then ["player_input"] else []

theorem actionNames_listed {others : McPacketCatalog}
    (supported : mcProtocolSupported protocol = true) {name : String}
    (wanted : name ∈ actionNames protocol) :
    name ∈ (packetCatalog others).names protocol .play .serverbound := by
  have every : ∀ profile ∈ profiles, ∀ name ∈ actionNames profile.protocol,
      name ∈ (playServerboundCatalogs.lookup profile.protocol).getD [] := by decide +kernel
  exact of_supported
    (P := fun protocol => ∀ name ∈ actionNames protocol,
      name ∈ (playServerboundCatalogs.lookup protocol).getD []) every supported name wanted

theorem ClientAction.Says.named {action : ClientAction}
    (body : action.Says compressor protocol bytes) :
    action.packetName protocol ∈ actionNames protocol := by
  cases action with
  | playerInput flags =>
      have good := builds_checked body
      simp only [not_or, not_lt] at good
      simp [actionNames, ClientAction.packetName, good.2.1]
  | _ => simp [actionNames, ClientAction.packetName]

/-- The name is the one of its id. -/
theorem ClientAction.Says.mcPacketName {others : McPacketCatalog} {action : ClientAction}
    (body : action.Says compressor protocol bytes) :
    (packetCatalog others).mcPacketName protocol .play .serverbound
      ((packetCatalog others).mcPacketId protocol .play .serverbound (action.packetName protocol)) =
        some (action.packetName protocol) :=
  McPacketCatalog.mcPacketName_mcPacketId body.supported McState.noConfusion
    (actionNames_listed body.supported body.named)

end Named

/-- What a builder accepts, a player in PLAY can send: on each release the packet of every action
has the name the helper looks it up by, so that no action ends as an unknown packet. -/
theorem client_actions_named (host : Host) (others : McPacketCatalog)
    (generated : host.catalog = packetCatalog others) (compressor : Compressor)
    (action : ClientAction) (client : McClient) (playing : client.state = .play)
    (side : client.serverSide = false) {bytes : List UInt8}
    (body : action.Says compressor client.profile.protocol bytes) :
    host.catalog.mcPacketName client.profile.protocol .play .serverbound
      (client.idOf host (action.packetName client.profile.protocol)) =
        some (action.packetName client.profile.protocol) := by
  rw [McClient.idOf, playing, side, generated]
  exact body.mcPacketName

/-- An attack on 776, where it is a packet of its own. -/
theorem client_actions_named_attack :
    let host := { Host.ample (.knowing [] []) with catalog := packetCatalog ⟨fun _ _ _ => []⟩ }
    let client := { (mcClientCreate 776 true true).toOption.get (by decide) with state := .play }
    host.catalog.mcPacketName 776 .play .serverbound (client.idOf host "attack") = some "attack" :=
  client_actions_named _ ⟨fun _ _ _ => []⟩ rfl ⟨fun size => size, fun _ => true, fun _ _ => none⟩
    (.attackEntity 5) { (mcClientCreate 776 true true).toOption.get (by decide) with state := .play }
    rfl rfl ⟨1, ⟨[5], 1, false⟩, by decide +kernel, rfl⟩

end McProtocol
