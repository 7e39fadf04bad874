import XrtcServer.Ice.Connection
import XrtcServer.Ice.Stun
import Mathlib.Logic.Function.Basic

/-!
# The transport channel and its controller

`IceTransportChannel` owns an `IceController`, and both remember a selected connection. Connections
live at addresses: `memory p` is what a read through the pointer `p` finds, whether or not the
object there is still alive, and `live` tells which objects are. The signals of a connection are
calls of the channel, made where the connection raises them.
-/

namespace XrtcServer.Ice
open XrtcServer.Base XrtcServer.Core

/-- The address of an `IceConnection`. -/
abbrev ConnPtr := Nat

structure IceController where
  selectedConnection : Option ConnPtr := none
  connections : List ConnPtr := []
  unpingedConnections : List ConnPtr := []
  pingedConnections : List ConnPtr := []
  deriving DecidableEq, Repr

inductive IceTransportChannelState
  | kNew
  | kChecking
  | kConnected
  | kCompleted
  | kFailed
  | kDisconnected
  | kClosed
  deriving DecidableEq, Repr

structure IceTransportChannel where
  memory : ConnPtr → IceConnection
  live : ConnPtr → Bool
  iceController : IceController := {}
  remoteIceParams : IceParameters := ⟨[], []⟩
  startPinging : Bool := false
  curPingInterval : Int := weakPingInterval
  lastPingSentMs : Int := 0
  selectedConnection : Option ConnPtr := none
  receiving : Bool := false
  writable : Bool := false
  state : IceTransportChannelState := .kNew
  hadConnection : Bool := false
  hasBeenConnection : Bool := false

/-- `std::set::insert`, the elements in the order of iteration. -/
def setInsert (p : ConnPtr) (s : List ConnPtr) : List ConnPtr :=
  if p ∈ s then s else s.orderedInsert (· ≤ ·) p

namespace IceTransportChannel

/-- A channel to which no connection was added yet. -/
def initial (memory : ConnPtr → IceConnection) : IceTransportChannel :=
  { memory, live := fun _ => false }

/-- A write to members of the connection at `p`. -/
def modify (ch : IceTransportChannel) (p : ConnPtr) (f : IceConnection → IceConnection) :
    IceTransportChannel :=
  { ch with memory := Function.update ch.memory p (f (ch.memory p)) }

/-! ## The controller -/

def weak (ch : IceTransportChannel) : Bool :=
  match ch.iceController.selectedConnection with
  | none => true
  | some p => (ch.memory p).weak

def getConnectionPingInterval (ch : IceTransportChannel) (p : ConnPtr) (now : Int) : Int :=
  if (ch.memory p).numPingsSent < minPingsAtWeakPingInterval then weakPingInterval
  else if ch.weak || !(ch.memory p).stable now then stablingConnectionPingInterval
  else stableConnectionPingInterval

def isConnectionPastPingInterval (ch : IceTransportChannel) (p : ConnPtr) (now : Int) : Bool :=
  now ≥ (ch.memory p).lastPingSent + ch.getConnectionPingInterval p now

def isPingable (ch : IceTransportChannel) (p : ConnPtr) (now : Int) : Bool :=
  let remote := (ch.memory p).remoteCandidate
  if remote.username.isEmpty || remote.password.isEmpty then false
  else if ch.weak then true
  else ch.isConnectionPastPingInterval p now

def hasPingableConnection (ch : IceTransportChannel) (now : Int) : Bool :=
  ch.iceController.connections.any (ch.isPingable · now)

def morePingable (ch : IceTransportChannel) (p : ConnPtr) : Option ConnPtr → Bool
  | none => true
  | some q => (ch.memory p).lastPingSent < (ch.memory q).lastPingSent

/-- `_find_next_pingable_connection`, with what it does to the two sets. -/
def findNextPingableConnection (ch : IceTransportChannel) (now : Int) :
    Option ConnPtr × IceTransportChannel :=
  let selected := ch.iceController.selectedConnection.filter fun p =>
    (ch.memory p).writable && ch.isConnectionPastPingInterval p now
  match selected with
  | some p => (some p, ch)
  | none =>
    let c := ch.iceController
    let c :=
      if c.unpingedConnections.any (ch.isPingable · now) then c
      else
        { c with
          unpingedConnections := c.pingedConnections.foldr setInsert c.unpingedConnections
          pingedConnections := [] }
    let findConn := c.unpingedConnections.foldl
      (fun found p =>
        if ch.isPingable p now && ch.morePingable p found then some p else found) none
    (findConn, { ch with iceController := c })

/-- `select_connection_to_ping`: the connection, the interval and the changed sets. -/
def selectConnectionToPing (ch : IceTransportChannel) (lastPingSentMs now : Int) :
    Option ConnPtr × Int × IceTransportChannel :=
  let needPingMoreAtWeak := ch.iceController.connections.any fun p =>
    (ch.memory p).numPingsSent < minPingsAtWeakPingInterval
  let pingInterval := if ch.weak || needPingMoreAtWeak then weakPingInterval else strongPingInterval
  if now ≥ lastPingSentMs then
    let (conn, ch) := ch.findNextPingableConnection now
    (conn, pingInterval, ch)
  else (none, pingInterval, ch)

def markConnectionPinged (ch : IceTransportChannel) (p : ConnPtr) : IceTransportChannel :=
  let c := ch.iceController
  if p ∈ c.pingedConnections then ch
  else
    { ch with
      iceController :=
        { c with
          pingedConnections := setInsert p c.pingedConnections
          unpingedConnections := c.unpingedConnections.erase p } }

def readyToSend (ch : IceTransportChannel) : Option ConnPtr → Bool
  | none => false
  | some p => (ch.memory p).writable || (ch.memory p).writeState = .stateWriteUnreliable

/-- The comparator of the sort, through the pointers. -/
def better (ch : IceTransportChannel) (p q : ConnPtr) : Bool :=
  (ch.memory p).better (ch.memory q)

/-- The sort of `_connections`. -/
def sortConnections (ch : IceTransportChannel) : IceTransportChannel :=
  let c := ch.iceController
  { ch with iceController := { c with connections := stableSort ch.better c.connections } }

/-- `sort_and_switch_connection`: the connection to switch to and the sorted controller. -/
def sortAndSwitchConnection (ch : IceTransportChannel) : Option ConnPtr × IceTransportChannel :=
  let ch := ch.sortConnections
  let top := ch.iceController.connections.head?
  if !ch.readyToSend top || ch.iceController.selectedConnection = top then (none, ch)
  else
    match ch.iceController.selectedConnection, top with
    | some s, some t =>
      if (ch.memory t).rtt ≤ (ch.memory s).rtt - kMinImprovement then (top, ch) else (none, ch)
    | _, _ => (top, ch)

/-! ## The channel -/

def switchSelectedConnection (ch : IceTransportChannel) (conn : Option ConnPtr) :
    IceTransportChannel :=
  let old := ch.selectedConnection
  let ch := { ch with selectedConnection := conn }
  let ch :=
    match old with
    | some p => ch.modify p (.setSelected false)
    | none => ch
  match conn with
  | some p =>
    let ch := ch.modify p (.setSelected true)
    { ch with iceController := { ch.iceController with selectedConnection := some p } }
  | none => ch

def maybeSwitchSelectedConnection (ch : IceTransportChannel) (conn : Option ConnPtr) :
    IceTransportChannel :=
  match conn with
  | none => ch
  | some _ => ch.switchSelectedConnection conn

def setWritable (ch : IceTransportChannel) (writable : Bool) : IceTransportChannel :=
  if ch.writable = writable then ch
  else
    { ch with
      hasBeenConnection := ch.hasBeenConnection || writable
      writable := writable }

def computeIceTransportState (ch : IceTransportChannel) : IceTransportChannelState :=
  let hasConnection := ch.iceController.connections.any fun p => (ch.memory p).active
  if ch.hadConnection && !hasConnection then .kFailed
  else if ch.hasBeenConnection && !ch.writable then .kDisconnected
  else if !ch.hadConnection && !hasConnection then .kNew
  else if hasConnection && !ch.writable then .kChecking
  else .kConnected

/-- Whether the selected connection exists and is writable. -/
def selectedWritable (ch : IceTransportChannel) : Bool :=
  match ch.selectedConnection with
  | none => false
  | some p => (ch.memory p).writable

def updateState (ch : IceTransportChannel) : IceTransportChannel :=
  let ch := ch.setWritable ch.selectedWritable
  let ch :=
    { ch with receiving := ch.iceController.connections.any fun p => (ch.memory p).receiving }
  { ch with state := ch.computeIceTransportState }

def maybeStartPinging (ch : IceTransportChannel) (now : Int) : IceTransportChannel :=
  if ch.startPinging then ch
  else if ch.hasPingableConnection now then { ch with startPinging := true }
  else ch

def sortConnectionAndUpdateState (ch : IceTransportChannel) (now : Int) : IceTransportChannel :=
  let (conn, ch) := ch.sortAndSwitchConnection
  ((ch.maybeSwitchSelectedConnection conn).updateState).maybeStartPinging now

def onConnectionStateChange (ch : IceTransportChannel) (now : Int) : IceTransportChannel :=
  ch.sortConnectionAndUpdateState now

/-- `IceController::on_connection_destroyed` -/
def forgetConnection (ch : IceTransportChannel) (p : ConnPtr) : IceTransportChannel :=
  let c := ch.iceController
  { ch with
    iceController :=
      { c with
        pingedConnections := c.pingedConnections.erase p
        unpingedConnections := c.unpingedConnections.erase p
        connections := c.connections.erase p } }

def onConnectionDestroyed (ch : IceTransportChannel) (p : ConnPtr) (now : Int) :
    IceTransportChannel :=
  let ch := ch.forgetConnection p
  if ch.selectedConnection = some p then
    (ch.switchSelectedConnection none).sortConnectionAndUpdateState now
  else ch.updateState

/-- The candidate that `_on_unknown_address` builds from a request. -/
def remoteCandidate (ch : IceTransportChannel) (addr : SocketAddress) (remoteUfrag : Bytes)
    (priority : UInt32) : Candidate :=
  { address := addr, username := remoteUfrag, password := ch.remoteIceParams.icePwd, priority }

/-- The construction of an `IceConnection` at `p` by `UDPPort::create_connection`. -/
def newConnection (ch : IceTransportChannel) (p : ConnPtr) (conn : IceConnection) :
    IceTransportChannel :=
  { ch with memory := Function.update ch.memory p conn, live := Function.update ch.live p true }

/-- `_add_connection`, with `IceController::add_connection`. -/
def addConnection (ch : IceTransportChannel) (p : ConnPtr) : IceTransportChannel :=
  let c := ch.iceController
  { ch with
    hadConnection := true
    iceController :=
      { c with
        connections := c.connections ++ [p]
        unpingedConnections := setInsert p c.unpingedConnections } }

/-- `_on_unknown_address` of a request that carries `priority`, for the port number `port` whose
first candidate has the priority `localPriority`. The responses it sends are left out. -/
def onUnknownAddress (ch : IceTransportChannel) (p : ConnPtr) (port : Nat) (localPriority : UInt32)
    (addr : SocketAddress) (priority : Option UInt32) (remoteUfrag : Bytes) (now : Int) :
    IceTransportChannel :=
  match priority with
  | none => ch
  | some remotePriority =>
    let conn : IceConnection :=
      { port, localPriority
        remoteCandidate := ch.remoteCandidate addr remoteUfrag remotePriority }
    ((ch.newConnection p conn).addConnection p).sortConnectionAndUpdateState now

/-! ## What a connection does and reports -/

def updateReceiving (ch : IceTransportChannel) (p : ConnPtr) (now : Int) : IceTransportChannel :=
  let receiving := (ch.memory p).computeReceiving now
  if (ch.memory p).receiving = receiving then ch
  else (ch.modify p ({ · with receiving := receiving })).onConnectionStateChange now

def setWriteState (ch : IceTransportChannel) (p : ConnPtr) (state : WriteState) (now : Int) :
    IceTransportChannel :=
  let oldState := (ch.memory p).writeState
  let ch := ch.modify p ({ · with writeState := state })
  if oldState ≠ state then ch.onConnectionStateChange now else ch

/-- The members that `received_ping_response` writes before it reports. -/
def recordResponse (rtt now : Int) (c : IceConnection) : IceConnection :=
  { c with
    rtt := if c.rttSamples > 0 then (rttRatio * c.rtt + rtt).tdiv (rttRatio + 1) else rtt
    rttSamples := c.rttSamples + 1
    lastPingResponseReceived := now
    pingsSinceLastResponse := [] }

def receivedPingResponse (ch : IceTransportChannel) (p : ConnPtr) (rtt now : Int) :
    IceTransportChannel :=
  let ch := ch.modify p (recordResponse rtt now)
  let ch := ch.updateReceiving p now
  let ch := ch.setWriteState p .stateWritable now
  ch.modify p ({ · with state := .succeeded })

/-- The first test of `update_state`. -/
def becomeUnreliable (ch : IceTransportChannel) (p : ConnPtr) (now : Int) : IceTransportChannel :=
  let c := ch.memory p
  if c.writable && c.tooManyPingFails connectionWriteConnectFails c.responseTime now &&
      c.tooLongWithoutResponse connectionWriteConnectTimeout now then
    ch.setWriteState p .stateWriteUnreliable now
  else ch

/-- The second test of `update_state`. -/
def becomeTimedOut (ch : IceTransportChannel) (p : ConnPtr) (now : Int) : IceTransportChannel :=
  let c := ch.memory p
  if (c.writeState = .stateWriteUnreliable || c.writeState = .stateWriteInit) &&
      c.tooLongWithoutResponse connectionWriteTimeout now then
    ch.setWriteState p .stateWriteTimeout now
  else ch

def updateConnectionState (ch : IceTransportChannel) (p : ConnPtr) (now : Int) :
    IceTransportChannel :=
  ((ch.becomeUnreliable p now).becomeTimedOut p now).updateReceiving p now

/-- `IceConnection::ping`, the request getting the transaction `id`. -/
def ping (id : TransactionId) (now : Int) (c : IceConnection) : IceConnection :=
  { c with
    lastPingSent := now
    pingsSinceLastResponse := c.pingsSinceLastResponse ++ [⟨id, now⟩]
    requests := Function.update c.requests id (some now)
    state := .inProgress
    numPingsSent := c.numPingsSent + 1 }

/-- `IceConnection::destroy`: the channel is told, then the object goes. -/
def destroy (ch : IceTransportChannel) (p : ConnPtr) (now : Int) : IceTransportChannel :=
  let ch := ch.onConnectionDestroyed p now
  { ch with live := Function.update ch.live p false }

def failAndDestroy (ch : IceTransportChannel) (p : ConnPtr) (now : Int) : IceTransportChannel :=
  (ch.modify p ({ · with state := .failed })).destroy p now

/-- The error codes after which a connection is kept. -/
def retryable (errorCode : Int) : Bool :=
  errorCode = stunErrorUnathorized || errorCode = stunErrorUnknownAttribute ||
    errorCode = stunErrorServerError

def onConnectionRequestErrorResponse (ch : IceTransportChannel) (p : ConnPtr) (errorCode now : Int) :
    IceTransportChannel :=
  if retryable errorCode then ch else ch.failAndDestroy p now

/-- `on_connection_request_response` of the request sent at `ts`. -/
def onConnectionRequestResponse (ch : IceTransportChannel) (p : ConnPtr) (ts now : Int) :
    IceTransportChannel :=
  ch.receivedPingResponse p (toInt (now - ts)) now

/-- The deletion of a request once its response was handled. -/
def removeRequest (ch : IceTransportChannel) (p : ConnPtr) (id : TransactionId) :
    IceTransportChannel :=
  ch.modify p fun c => { c with requests := Function.update c.requests id none }

/-! ## The periodic check -/

def pingIntervalDiff : Int := 5

def pingConnection (ch : IceTransportChannel) (p : ConnPtr) (id : TransactionId) (now : Int) :
    IceTransportChannel :=
  { ch.modify p (ping id now) with lastPingSentMs := now }

/-- `_on_check_and_ping`, a ping getting the transaction `id`. -/
def onCheckAndPing (ch : IceTransportChannel) (id : TransactionId) (now : Int) :
    IceTransportChannel :=
  let ch := ch.iceController.connections.foldl (fun ch p => ch.updateConnectionState p now) ch
  let (conn, pingInterval, ch) :=
    ch.selectConnectionToPing (ch.lastPingSentMs - pingIntervalDiff) now
  let ch :=
    match conn with
    | none => ch
    | some p => (ch.pingConnection p id now).markConnectionPinged p
  { ch with curPingInterval := pingInterval }

/-- `set_remote_ice_params`, with `maybe_set_remote_ice_params` of every connection. -/
def setRemoteIceParams (ch : IceTransportChannel) (params : IceParameters) (now : Int) :
    IceTransportChannel :=
  let ch := { ch with remoteIceParams := params }
  let ch := ch.iceController.connections.foldl
    (fun ch p => ch.modify p fun c =>
      if c.remoteCandidate.username = params.iceUfrag ∧ c.remoteCandidate.password = [] then
        { c with remoteCandidate := { c.remoteCandidate with password := params.icePwd } }
      else c) ch
  ch.sortConnectionAndUpdateState now

end IceTransportChannel

/-- What can happen to a channel. The address of a new connection is the allocator's choice. -/
inductive Event
  | unknownAddress (p : ConnPtr) (port : Nat) (localPriority : UInt32) (addr : SocketAddress)
      (priority : Option UInt32) (remoteUfrag : Bytes) (now : Int)
  | pingResponse (p : ConnPtr) (id : TransactionId) (now : Int)
  | pingErrorResponse (p : ConnPtr) (id : TransactionId) (errorCode now : Int)
  | checkAndPing (id : TransactionId) (now : Int)
  | setRemoteIceParams (params : IceParameters) (now : Int)
  | destroy (p : ConnPtr) (now : Int)
  deriving DecidableEq, Repr

open IceTransportChannel in
/-- One event. `none` where it cannot happen: a new object is not placed on a live one, and a
response reaches a live connection that waits for it. -/
def apply (ch : IceTransportChannel) : Event → Option IceTransportChannel
  | .unknownAddress p port localPriority addr priority remoteUfrag now =>
    if ch.live p then none
    else some (ch.onUnknownAddress p port localPriority addr priority remoteUfrag now)
  | .pingResponse p id now =>
    if ch.live p then
      ((ch.memory p).requests id).map fun ts =>
        (ch.onConnectionRequestResponse p ts now).removeRequest p id
    else none
  | .pingErrorResponse p id errorCode now =>
    if ch.live p then
      ((ch.memory p).requests id).map fun _ =>
        (ch.removeRequest p id).onConnectionRequestErrorResponse p errorCode now
    else none
  | .checkAndPing id now => some (ch.onCheckAndPing id now)
  | .setRemoteIceParams params now => some (ch.setRemoteIceParams params now)
  | .destroy p now => if ch.live p then some (ch.destroy p now) else none

/-- The transition relation of a channel. What freed connections leave in memory changes at any
time. -/
def Step (ch : IceTransportChannel) (e : Event) (ch' : IceTransportChannel) : Prop :=
  ∃ ch₁ memory, apply ch e = some ch₁ ∧ (∀ p, ch₁.live p = true → memory p = ch₁.memory p) ∧
    ch' = { ch₁ with memory := memory }

end XrtcServer.Ice
