import McProtocol.Core

/-! # The packet registry

Packets are named in a generated catalog: for each release, state and direction a list
of names whose positions are the packet ids.
-/

namespace McProtocol

/-- The states a client is in. -/
inductive McState where
  | disconnected
  | login
  | configuration
  | play
  | status
  deriving Repr, DecidableEq

inductive McPacketDirection where
  | serverbound
  | clientbound
  deriving Repr, DecidableEq

/-- The generated name lists. -/
structure McPacketCatalog where
  names : Int → McState → McPacketDirection → List String

namespace McPacketCatalog

/-- `packet_map`: nothing for an unsupported release or without a connection. -/
def packetMap (catalog : McPacketCatalog) (protocol : Int) (state : McState)
    (direction : McPacketDirection) : Option (List String) :=
  if mcProtocolSupported protocol = true ∧ state ≠ .disconnected then
    some (catalog.names protocol state direction)
  else none

def mcPacketName (catalog : McPacketCatalog) (protocol : Int) (state : McState)
    (direction : McPacketDirection) (id : Int) : Option String :=
  match catalog.packetMap protocol state direction with
  | none => none
  | some names => if id < 0 then none else names[id.toNat]?

/-- `mc_packet_id`, `-1` for an unknown name. -/
def mcPacketId (catalog : McPacketCatalog) (protocol : Int) (state : McState)
    (direction : McPacketDirection) (name : String) : Int :=
  match catalog.packetMap protocol state direction with
  | none => -1
  | some names =>
      match names.findIdx? (· = name) with
      | none => -1
      | some index => index

end McPacketCatalog

end McProtocol
