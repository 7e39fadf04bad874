import XrtcServer.Base.Bytes
import XrtcServer.Base.StringEncode

/-!
# The DTLS transport

`DtlsTransport` sits between an ICE channel, an `SSLStreamAdapter` that runs the handshake and the
slots that its signals are connected to. The adapter is not part of the repository: each call of it
returns what the event that is handled says, and may signal before it returns. The state of the
slots is a `world` that the transport hands on; a slot sees the transport as it is when it is
called.
-/

namespace XrtcServer.Pc
open XrtcServer.Base

inductive DtlsTransportState
  | kNew
  | kConnecting
  | kConnected
  | kClosed
  | kFailed
  deriving DecidableEq, Repr

/-- `rtc::StreamResult` -/
inductive StreamResult
  | success
  | block
  | eos
  | error
  deriving DecidableEq, Repr

/-- The object `_dtls`. No two objects have the same `id`. -/
structure SSLStreamAdapter where
  id : Nat
  /-- `StartSSL` was called. -/
  called : Bool := false
  /-- `StartSSL` succeeded. -/
  started : Bool := false
  /-- `SetPeerCertificateDigest` succeeded. -/
  digestSet : Bool := false
  deriving DecidableEq, Repr

/-- What `_on_dtls_event` acts on, one after the other: `SE_OPEN`, the results of `Read` after
`SE_READ` and the error of `SE_CLOSE`. What an adapter signals while it reads comes in between. -/
inductive DtlsSignal
  | opened
  | read (result : StreamResult)
  | closed (error : Int)
  deriving DecidableEq, Repr

/-- What a call of the adapter returns, and what the adapter signals before. -/
structure Call where
  ok : Bool := true
  signals : List DtlsSignal := []
  deriving DecidableEq, Repr

/-- The calls of an adapter that one event can make. -/
structure Calls where
  create : Bool := true
  setPeerCertificateDigest : Call := {}
  verificationFailed : Bool := false
  setDtlsSrtpCryptoSuites : Call := {}
  startSSL : Call := {}
  onReceivedPacket : List DtlsSignal := []
  deriving DecidableEq, Repr

/-- What happens to the adapter and to the packets that are kept for it. -/
inductive Handling
  | cached (packet : Bytes)
  | startSSL (id : Nat) (ok : Bool)
  | handled (packet : Bytes)
  deriving DecidableEq, Repr

structure DtlsTransport where
  /-- `_ice_channel->writable()` -/
  iceWritable : Bool := false
  dtlsState : DtlsTransportState := .kNew
  receiving : Bool := false
  writable : Bool := false
  dtls : Option SSLStreamAdapter := none
  cachedClientHello : Bytes := []
  localCertificate : Option Nat := none
  remoteFingerprintValue : Bytes := []
  remoteFingerprintAlg : Text := []
  dtlsActive : Bool := false
  srtpCiphers : List Nat := []
  /-- The number of adapters that were created. -/
  created : Nat := 0
  handlings : List Handling := []
  deriving DecidableEq, Repr

/-- When an adapter can signal `SE_OPEN`. -/
structure Opening where
  mayOpen : DtlsTransport → Bool
  started_of_mayOpen : ∀ d, mayOpen d → ∃ a, d.dtls = some a ∧ a.started

/-- The slots of a transport's signals. -/
structure Wiring (ω : Type) extends Opening where
  onDtlsState : DtlsTransport → ω → ω
  onWritableState : DtlsTransport → ω → ω
  onReceivingState : DtlsTransport → ω → ω
  onReadPacket : DtlsTransport → Bytes → ω → ω
  onClosed : DtlsTransport → ω → ω

section packets

def kDtlsRecordHeaderLen : Nat := 13
def kMinRtpPacketLen : Nat := 12

def isDtlsPacket (buf : Bytes) : Bool :=
  kDtlsRecordHeaderLen ≤ buf.length && 19 < buf.getD 0 0 && buf.getD 0 0 < 64

def isDtlsClientHelloPacket (buf : Bytes) : Bool :=
  isDtlsPacket buf && 17 < buf.length && buf.getD 0 0 = 22 && buf.getD 13 0 = 1

def isRtpPacket (buf : Bytes) : Bool :=
  kMinRtpPacketLen ≤ buf.length && buf.getD 0 0 &&& 0xC0 = 0x80

/-- The loop of `_handle_dtls_packet`: the packet is a sequence of whole records. -/
def wholeRecords (data : Bytes) : Bool :=
  if data = [] then true
  else if data.length < kDtlsRecordHeaderLen then false
  else
    let recordLen := ofBE ((data.drop 11).take 2)
    if recordLen + kDtlsRecordHeaderLen > data.length then false
    else wholeRecords (data.drop (kDtlsRecordHeaderLen + recordLen))
termination_by data.length
decreasing_by
  rename_i hne _ _
  have := List.length_pos_of_ne_nil hne
  rw [List.length_drop, kDtlsRecordHeaderLen]
  omega

lemma isDtlsClientHelloPacket_ne_nil {buf : Bytes} (h : isDtlsClientHelloPacket buf = true) :
    buf ≠ [] := by
  rintro rfl
  simp [isDtlsClientHelloPacket, isDtlsPacket, kDtlsRecordHeaderLen] at h

end packets

namespace DtlsTransport

variable {ω : Type} (W : Wiring ω)

/-- A write to members. -/
def write (f : DtlsTransport → DtlsTransport) (x : DtlsTransport × ω) : DtlsTransport × ω :=
  (f x.1, x.2)

def setReceiving (receiving : Bool) (x : DtlsTransport × ω) : DtlsTransport × ω :=
  if x.1.receiving = receiving then x
  else
    let d := { x.1 with receiving }
    (d, W.onReceivingState d x.2)

def setDtlsState (state : DtlsTransportState) (x : DtlsTransport × ω) : DtlsTransport × ω :=
  if x.1.dtlsState = state then x
  else
    let d := { x.1 with dtlsState := state }
    (d, W.onDtlsState d x.2)

def setWritableState (state : Bool) (x : DtlsTransport × ω) : DtlsTransport × ω :=
  if x.1.writable = state then x
  else
    let d := { x.1 with writable := state }
    (d, W.onWritableState d x.2)

/-! ## The adapter's signals -/

/-- The end of a session. -/
def shut (state : DtlsTransportState) (x : DtlsTransport × ω) : DtlsTransport × ω :=
  setDtlsState W state (setWritableState W false x)

def signalClosed (x : DtlsTransport × ω) : DtlsTransport × ω := (x.1, W.onClosed x.1 x.2)

/-- One part of `_on_dtls_event`. -/
def onDtlsSignal (x : DtlsTransport × ω) : DtlsSignal → DtlsTransport × ω
  | .opened => setDtlsState W .kConnected (setWritableState W true x)
  | .read .success => x
  | .read .block => x
  | .read .eos => signalClosed W (shut W .kClosed x)
  | .read .error => signalClosed W (shut W .kFailed x)
  | .closed error => if error = 0 then shut W .kClosed x else shut W .kFailed x

/-- The signal can come from the current adapter. -/
def hears (d : DtlsTransport) (s : DtlsSignal) : Bool :=
  d.dtls.isSome && (s ≠ .opened || W.mayOpen d)

/-- What the current adapter signals, one after the other. -/
def onDtlsSignals (signals : List DtlsSignal) (x : DtlsTransport × ω) : DtlsTransport × ω :=
  signals.foldl (fun x s => if x.1.hears W s then onDtlsSignal W x s else x) x

/-! ## The handshake -/

def handleDtlsPacket (signals : List DtlsSignal) (data : Bytes) (x : DtlsTransport × ω) :
    Bool × (DtlsTransport × ω) :=
  if wholeRecords data then (true, onDtlsSignals W signals x) else (false, x)

/-- The call of `_dtls->SetPeerCertificateDigest`. -/
def callSetPeerCertificateDigest (call : Call) (x : DtlsTransport × ω) : DtlsTransport × ω :=
  onDtlsSignals W call.signals
    (write (fun d => { d with dtls := d.dtls.map ({ · with digestSet := call.ok }) }) x)

/-- The call of `_dtls->StartSSL`, up to its return. -/
def callStartSSL (a : SSLStreamAdapter) (call : Call) (x : DtlsTransport × ω) :
    DtlsTransport × ω :=
  onDtlsSignals W call.signals
    (write (fun d =>
      { d with
        dtls := some { a with called := true }
        handlings := d.handlings ++ [.startSSL a.id call.ok] }) x)

/-- The ClientHello that came early is handled. -/
def handleCached (calls : Calls) (x : DtlsTransport × ω) : DtlsTransport × ω :=
  if x.1.cachedClientHello = [] then x
  else
    let (handled, x) := handleDtlsPacket W calls.onReceivedPacket x.1.cachedClientHello
      (write (fun d => { d with handlings := d.handlings ++ [.handled d.cachedClientHello] }) x)
    let x := if handled then x else setDtlsState W .kFailed x
    write ({ · with cachedClientHello := [] }) x

def maybeStartDtls (calls : Calls) (x : DtlsTransport × ω) : DtlsTransport × ω :=
  match x.1.dtls with
  | none => x
  | some a =>
    if x.1.iceWritable then
      let x := callStartSSL W a calls.startSSL x
      if calls.startSSL.ok then
        handleCached W calls
          (setDtlsState W .kConnecting
            (write (fun d => { d with dtls := d.dtls.map ({ · with started := true }) }) x))
      else setDtlsState W .kFailed x
    else x

/-- `_setup_dtls` from where `_dtls` is created. -/
def setupCreated (calls : Calls) (x : DtlsTransport × ω) : Bool × (DtlsTransport × ω) :=
  let withDigest := x.1.remoteFingerprintValue ≠ []
  let x := if withDigest then callSetPeerCertificateDigest W calls.setPeerCertificateDigest x else x
  if withDigest ∧ !calls.setPeerCertificateDigest.ok then (false, x)
  else
    let withCiphers := x.1.srtpCiphers ≠ []
    let x := if withCiphers then onDtlsSignals W calls.setDtlsSrtpCryptoSuites.signals x else x
    if withCiphers ∧ !calls.setDtlsSrtpCryptoSuites.ok then (false, x)
    else (true, maybeStartDtls W calls x)

def setupDtls (calls : Calls) (x : DtlsTransport × ω) : Bool × (DtlsTransport × ω) :=
  if calls.create then
    setupCreated W calls
      (write (fun d => { d with dtls := some { id := d.created }, created := d.created + 1 }) x)
  else (false, write ({ · with dtls := none }) x)

/-! ## The slots and the calls of the owner -/

def onReceivingState (receiving : Bool) (x : DtlsTransport × ω) : DtlsTransport × ω :=
  setReceiving W receiving x

/-- `_on_writable_state` when `channel->writable()` has become `writable`. -/
def onWritableState (writable : Bool) (calls : Calls) (x : DtlsTransport × ω) :
    DtlsTransport × ω :=
  let x := write ({ · with iceWritable := writable }) x
  if !x.1.dtlsActive then setWritableState W writable x
  else
    match x.1.dtlsState with
    | .kNew => maybeStartDtls W calls x
    | .kConnected => setWritableState W writable x
    | _ => x

def onReadPacket (buf : Bytes) (calls : Calls) (x : DtlsTransport × ω) : DtlsTransport × ω :=
  match x.1.dtlsState with
  | .kNew =>
    if isDtlsClientHelloPacket buf then
      let x := write (fun d =>
        { d with cachedClientHello := buf, handlings := d.handlings ++ [.cached buf] }) x
      if x.1.dtls.isNone && x.1.localCertificate.isSome then (setupDtls W calls x).2 else x
    else x
  | .kConnecting =>
    if isDtlsPacket buf then (handleDtlsPacket W calls.onReceivedPacket buf x).2 else x
  | .kConnected =>
    if isDtlsPacket buf then (handleDtlsPacket W calls.onReceivedPacket buf x).2
    else if isRtpPacket buf then (x.1, W.onReadPacket x.1 buf x.2)
    else x
  | _ => x

def setLocalCertificate (cert : Option Nat) (d : DtlsTransport) : Bool × DtlsTransport :=
  if d.dtlsActive then (cert = d.localCertificate, d)
  else
    match cert with
    | some p => (true, { d with localCertificate := some p, dtlsActive := true })
    | none => (true, d)

/-- A transport over a channel, with what `set_local_certificate` was called with. -/
def initial (iceWritable : Bool) (srtpCiphers : List Nat) (cert : Option Nat) : DtlsTransport :=
  (setLocalCertificate cert { iceWritable, srtpCiphers }).2

/-- `get_srtp_crypto_suite`, where the adapter answers `answer`. -/
def getSrtpCryptoSuite (d : DtlsTransport) (answer : Option Nat) : Option Nat :=
  if d.dtlsState ≠ .kConnected then none else answer

/-- `export_keying_material`, where the adapter answers `answer`, and the adapter it is of. -/
def exportKeyingMaterial (d : DtlsTransport) (answer : Option Bytes) : Option (Bytes × Nat) :=
  match d.dtls with
  | none => none
  | some a => answer.map (·, a.id)

/-- `set_remote_fingerprint` from where `_dtls` is null or has to go. -/
def renewDtls (calls : Calls) (x : DtlsTransport × ω) : Bool × (DtlsTransport × ω) :=
  let (ok, x) := setupDtls W calls x
  if ok then (true, x) else (false, setDtlsState W .kFailed x)

def setRemoteFingerprint (digestAlg : Text) (digest : Bytes) (calls : Calls)
    (x : DtlsTransport × ω) : Bool × (DtlsTransport × ω) :=
  if x.1.dtlsActive ∧ x.1.remoteFingerprintValue = digest ∧ digestAlg ≠ [] then (true, x)
  else if digestAlg = [] then (false, write ({ · with dtlsActive := false }) x)
  else if !x.1.dtlsActive then (false, x)
  else
    let fingerprintChange := x.1.remoteFingerprintValue ≠ []
    let x := write (fun d =>
      { d with remoteFingerprintValue := digest, remoteFingerprintAlg := digestAlg }) x
    if x.1.dtls.isSome ∧ ¬ fingerprintChange then
      let x := callSetPeerCertificateDigest W calls.setPeerCertificateDigest x
      if calls.setPeerCertificateDigest.ok then (true, x)
      else (calls.verificationFailed, setDtlsState W .kFailed x)
    else if x.1.dtls.isSome ∧ fingerprintChange then
      renewDtls W calls
        (setWritableState W false (setDtlsState W .kNew (write ({ · with dtls := none }) x)))
    else renewDtls W calls x

end DtlsTransport

/-- What can happen to a transport. -/
inductive DtlsInput
  | iceWritable (writable : Bool) (calls : Calls)
  | iceReceiving (receiving : Bool)
  | packet (buf : Bytes) (calls : Calls)
  | remoteFingerprint (digestAlg : Text) (digest : Bytes) (calls : Calls)
  | dtlsEvent (signals : List DtlsSignal)
  deriving DecidableEq, Repr

open DtlsTransport in
/-- One event, handled to its end. -/
def dtlsStep {ω : Type} (W : Wiring ω) (x : DtlsTransport × ω) : DtlsInput → DtlsTransport × ω
  | .iceWritable writable calls => onWritableState W writable calls x
  | .iceReceiving receiving => onReceivingState W receiving x
  | .packet buf calls => onReadPacket W buf calls x
  | .remoteFingerprint digestAlg digest calls =>
    (setRemoteFingerprint W digestAlg digest calls x).2
  | .dtlsEvent signals => onDtlsSignals W signals x

end XrtcServer.Pc
