import XrtcServer.Ice.Channel
import XrtcServer.Pc.DtlsTransport
import XrtcServer.Stream.Manager

/-!
# The transport controller and the ICE agent

`set_local_description` makes an ICE channel, which the `IceAgent` keeps, and a DTLS transport over
it, which the `TransportController` keeps. The agent sums the states of the channels up and the
controller those of channels and transports, each when a signal calls for it: the controller hears
of the transports and of the agent, but not of the channels.
-/

namespace XrtcServer.Pc
open XrtcServer.Base XrtcServer.Ice XrtcServer.Stream

/-- The sum of the channels' states that `IceAgent::_update_state` computes. -/
def iceStateOf (channels : List IceTransportChannelState) : IceTransportChannelState :=
  let totalIceNew := channels.count .kNew
  let totalIceChecking := channels.count .kChecking
  let totalIceConnected := channels.count .kConnected
  let totalIceCompleted := channels.count .kCompleted
  let totalIceFailed := channels.count .kFailed
  let totalIceDisconnected := channels.count .kDisconnected
  let totalIceClosed := channels.count .kClosed
  let totalIce := channels.length
  if totalIceFailed > 0 then .kFailed
  else if totalIceDisconnected > 0 then .kDisconnected
  else if totalIceNew + totalIceClosed = totalIce then .kNew
  else if totalIceNew + totalIceChecking > 0 then .kChecking
  else if totalIceCompleted + totalIceClosed = totalIce then .kCompleted
  else if totalIceConnected + totalIceCompleted + totalIceClosed = totalIce then .kConnected
  else .kNew

/-- The sum that `TransportController::_update_state` computes. -/
def pcStateOf (channels : List IceTransportChannelState) (dtls : List DtlsTransportState) :
    PeerConnectionState :=
  let totalConnected := channels.count .kConnected + dtls.count .kConnected
  let totalDtlsConnecting := dtls.count .kConnecting
  let totalFailed := channels.count .kFailed + dtls.count .kFailed
  let totalClosed := channels.count .kClosed + dtls.count .kClosed
  let totalNew := channels.count .kNew + dtls.count .kNew
  let totalIceChecking := channels.count .kChecking
  let totalIceDisconnected := channels.count .kDisconnected
  let totalIceCompleted := channels.count .kCompleted
  let totalTransports := dtls.length * 2
  if totalFailed > 0 then .kFailed
  else if totalIceDisconnected > 0 then .kDisconnected
  else if totalNew + totalClosed = totalTransports then .kNew
  else if totalIceChecking + totalDtlsConnecting + totalNew > 0 then .kConnecting
  else if totalConnected + totalIceCompleted + totalClosed = totalTransports then .kConnected
  else .kNew

/-- A channel and the DTLS transport over it. -/
structure Transport where
  channel : IceTransportChannel
  dtls : DtlsTransport

structure TransportController where
  transports : List Transport
  /-- `_ice_state` of the agent -/
  iceState : IceTransportChannelState := .kNew
  pcState : PeerConnectionState := .kNew
  /-- What `signal_connection_state` was called with. -/
  signalled : List PeerConnectionState := []

namespace TransportController

/-- The transports of a description whose contents need one each, over the given memories. -/
def initial (srtpCiphers : List Nat) (cert : Option Nat)
    (memories : List (ConnPtr → IceConnection)) : TransportController :=
  { transports := memories.map fun memory =>
      { channel := .initial memory, dtls := .initial false srtpCiphers cert } }

def channelStates (c : TransportController) : List IceTransportChannelState :=
  c.transports.map (·.channel.state)

def dtlsStates (c : TransportController) : List DtlsTransportState :=
  c.transports.map (·.dtls.dtlsState)

def setDtls (c : TransportController) (i : Nat) (d : DtlsTransport) : TransportController :=
  { c with transports := c.transports.modify i ({ · with dtls := d }) }

def setChannel (c : TransportController) (i : Nat) (ch : IceTransportChannel) :
    TransportController :=
  { c with transports := c.transports.modify i ({ · with channel := ch }) }

/-! ## The sums -/

/-- `TransportController::_update_state`, the slot of every signal below -/
def updateState (c : TransportController) : TransportController :=
  let pcState := pcStateOf c.channelStates c.dtlsStates
  if c.pcState = pcState then c else { c with pcState, signalled := c.signalled ++ [pcState] }

/-- `signal_ice_state`, to which the controller's slot was connected once for each transport -/
def signalIceState (c : TransportController) : TransportController :=
  c.transports.foldl (fun c _ => c.updateState) c

/-- `IceAgent::_update_state` -/
def iceUpdateState (c : TransportController) : TransportController :=
  let iceState := iceStateOf c.channelStates
  if c.iceState = iceState then c
  else
    let c := if c.iceState = .kChecking ∧ iceState = .kCompleted then c.signalIceState else c
    signalIceState { c with iceState }

/-! ## The transports -/

/-- The signals of the `i`th DTLS transport reach the controller. -/
def wiring (opening : Opening) (i : Nat) : Wiring TransportController :=
  { opening with
    onDtlsState := fun d c => (c.setDtls i d).updateState
    onWritableState := fun d c => (c.setDtls i d).updateState
    onReceivingState := fun d c => (c.setDtls i d).updateState
    onReadPacket := fun _ _ c => c
    onClosed := fun _ c => c }

/-- An event of the `i`th DTLS transport. -/
def dtlsEvent (opening : Opening) (i : Nat) (e : DtlsInput) (c : TransportController) :
    TransportController :=
  match c.transports[i]? with
  | none => c
  | some t =>
    let (d, c) := dtlsStep (wiring opening i) (t.dtls, c) e
    c.setDtls i d

/-- `_set_writable` of the `i`th channel `ch`, whose signal the agent hears before the transport. -/
def setWritable (opening : Opening) (i : Nat) (ch : IceTransportChannel) (writable : Bool)
    (calls : Calls) (c : TransportController) : TransportController :=
  if ch.writable = writable then c
  else
    let c := (c.setChannel i (ch.setWritable writable)).iceUpdateState
    c.dtlsEvent opening i (.iceWritable writable calls)

/-- `_set_receiving` of the `i`th channel `ch` -/
def setReceiving (opening : Opening) (i : Nat) (ch : IceTransportChannel) (receiving : Bool)
    (c : TransportController) : TransportController :=
  if ch.receiving = receiving then c
  else
    let c := (c.setChannel i { ch with receiving }).iceUpdateState
    c.dtlsEvent opening i (.iceReceiving receiving)

/-- The end of `_update_state` of the `i`th channel `ch` -/
def setState (i : Nat) (ch : IceTransportChannel) (c : TransportController) :
    TransportController :=
  let state := ch.computeIceTransportState
  if state = ch.state then c else (c.setChannel i { ch with state }).iceUpdateState

/-- `_update_state` of the `i`th channel, where everything else of the channel has become that of
`view`. -/
def channelEvent (opening : Opening) (i : Nat) (view : IceTransportChannel) (calls : Calls)
    (c : TransportController) : TransportController :=
  match c.transports[i]? with
  | none => c
  | some t =>
    let ch := { view with
      writable := t.channel.writable
      receiving := t.channel.receiving
      state := t.channel.state
      hasBeenConnection := t.channel.hasBeenConnection }
    let c := c.setChannel i ch
    let writable := ch.selectedWritable
    let c := c.setWritable opening i ch writable calls
    let ch := ch.setWritable writable
    let receiving := ch.iceController.connections.any fun p => (ch.memory p).receiving
    let c := c.setReceiving opening i ch receiving
    c.setState i { ch with receiving }

end TransportController

/-- What can happen to the transports of a controller: a channel updates its state after its
connections have changed, or a DTLS transport is called. -/
inductive ControllerInput
  | channel (i : Nat) (view : IceTransportChannel) (calls : Calls)
  | dtls (i : Nat) (e : DtlsInput)

def controllerStep (opening : Opening) (c : TransportController) :
    ControllerInput → TransportController
  | .channel i view calls => c.channelEvent opening i view calls
  | .dtls i e => c.dtlsEvent opening i e

end XrtcServer.Pc
