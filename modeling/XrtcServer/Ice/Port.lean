import XrtcServer.Ice.Channel
import XrtcServer.Ice.Stun

/-!
# The ports of a channel

A `UDPPort` files the connections it creates under their remote addresses and hands a datagram to
the connection filed under its source address. Connections are destroyed through the channel, which
does not know the ports' maps. Responses that a port or a connection sends are left out.
-/

namespace XrtcServer.Ice
open XrtcServer.Base XrtcServer.Core

structure UDPPort where
  iceParams : IceParameters
  localPriority : UInt32
  connections : SocketAddress → Option ConnPtr := fun _ => none

/-- A channel and its ports, by number. -/
structure ChannelPorts where
  channel : IceTransportChannel
  ports : Nat → UDPPort

namespace IceTransportChannel

/-- `StunRequestManager::check_response` of the connection at `c`; its requests are all binding
requests. -/
def checkResponse (ch : IceTransportChannel) (c : ConnPtr) (msg : StunMessage) (now : Int) :
    IceTransportChannel :=
  match (ch.memory c).requests msg.transactionId with
  | none => ch
  | some ts =>
    if msg.type = stunBindingResponse then
      (ch.onConnectionRequestResponse c ts now).removeRequest c msg.transactionId
    else if msg.type = stunBindingErrorResponse then
      (ch.removeRequest c msg.transactionId).onConnectionRequestErrorResponse c
        msg.getErrorCodeValue now
    else ch.removeRequest c msg.transactionId

/-- `IceConnection::on_read_packet` of the connection at `c`, on a port with the password
`icePwd`. -/
def connectionOnReadPacket (crc32 : Bytes → Nat) (hmac : Bytes → Bytes → Bytes) (icePwd : Bytes)
    (ch : IceTransportChannel) (c : ConnPtr) (data : Bytes) (now : Int) :
    Except OutOfBounds IceTransportChannel := do
  let result ← getStunMessage crc32 hmac icePwd data
  match result.outMsg with
  | none => return ch
  | some msg =>
    if msg.type = stunBindingResponse ∨ msg.type = stunBindingErrorResponse then
      let msg ← msg.validateMessageIntegrity hmac (ch.memory c).remoteCandidate.password
      if msg.integrityOk then return ch.checkResponse c msg now else return ch
    else return ch

end IceTransportChannel

namespace ChannelPorts

/-- No connection was created on any of the ports. -/
def initial (memory : ConnPtr → IceConnection) (iceParams : Nat → IceParameters)
    (localPriority : Nat → UInt32) : ChannelPorts where
  channel := .initial memory
  ports i := { iceParams := iceParams i, localPriority := localPriority i }

/-- `_connections[addr] = p` of the port number `i`. -/
def fileConnection (s : ChannelPorts) (i : Nat) (addr : SocketAddress) (p : ConnPtr) :
    ChannelPorts :=
  let port := s.ports i
  { s with
    ports := Function.update s.ports i
      { port with connections := Function.update port.connections addr (some p) } }

/-- `IceTransportChannel::_on_unknown_address` with `UDPPort::create_connection`, which files the
new object at `p`. -/
def onUnknownAddress (s : ChannelPorts) (i : Nat) (addr : SocketAddress) (msg : StunMessage)
    (remoteUfrag : Bytes) (p : ConnPtr) (now : Int) : ChannelPorts :=
  let priority := (msg.getUInt32 stunAttrPriority).map UInt32.ofNat
  let s := if priority.isSome then s.fileConnection i addr p else s
  { s with
    channel :=
      s.channel.onUnknownAddress p i (s.ports i).localPriority addr priority remoteUfrag now }

variable (crc32 : Bytes → Nat) (hmac : Bytes → Bytes → Bytes)

/-- `UDPPort::_on_read_packet` of the port number `i`; a new connection is placed at `p`. -/
def onReadPacket (s : ChannelPorts) (i : Nat) (addr : SocketAddress) (data : Bytes) (p : ConnPtr)
    (now : Int) : Except OutOfBounds ChannelPorts :=
  match (s.ports i).connections addr with
  | some c => do
    let icePwd := (s.ports (s.channel.memory c).port).iceParams.icePwd
    let channel ← s.channel.connectionOnReadPacket crc32 hmac icePwd c data now
    return { s with channel := channel }
  | none => do
    let result ← getStunMessage crc32 hmac (s.ports i).iceParams.icePwd data
    match result.outMsg with
    | none => return s
    | some msg =>
      if msg.type = stunBindingRequest then
        return s.onUnknownAddress i addr msg result.outUsername p now
      else return s

end ChannelPorts

/-- What can happen to a channel with its ports. The address of a connection that a datagram
creates is the allocator's choice. -/
inductive PortEvent
  | datagram (i : Nat) (addr : SocketAddress) (data : Bytes) (p : ConnPtr) (now : Int)
  | checkAndPing (id : TransactionId) (now : Int)
  | setRemoteIceParams (params : IceParameters) (now : Int)
  | destroy (p : ConnPtr) (now : Int)
  deriving DecidableEq, Repr

/-- One event. `none` where it cannot happen or where the code reads outside a datagram. -/
def portApply (crc32 : Bytes → Nat) (hmac : Bytes → Bytes → Bytes) (s : ChannelPorts) :
    PortEvent → Option ChannelPorts
  | .datagram i addr data p now =>
    if s.channel.live p then none else (s.onReadPacket crc32 hmac i addr data p now).toOption
  | .checkAndPing id now => some { s with channel := s.channel.onCheckAndPing id now }
  | .setRemoteIceParams params now =>
    some { s with channel := s.channel.setRemoteIceParams params now }
  | .destroy p now =>
    if s.channel.live p then some { s with channel := s.channel.destroy p now } else none

/-- The transition relation of a channel with its ports. What freed connections leave in memory
changes at any time. -/
def PortStep (crc32 : Bytes → Nat) (hmac : Bytes → Bytes → Bytes) (s : ChannelPorts)
    (e : PortEvent) (s' : ChannelPorts) : Prop :=
  ∃ s₁ memory, portApply crc32 hmac s e = some s₁ ∧
    (∀ p, s₁.channel.live p = true → memory p = s₁.channel.memory p) ∧
    s' = { s₁ with channel := { s₁.channel with memory := memory } }

end XrtcServer.Ice
