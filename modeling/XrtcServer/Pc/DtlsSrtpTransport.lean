import XrtcServer.Pc.DtlsTransport

/-!
# The SRTP transport

`DtlsSrtpTransport` is a slot of a DTLS transport: it takes the keys for SRTP out of the adapter
when a session opens, drops them when it ends, and passes packets through libsrtp in between. What
the adapter answers is given by a sequence, from which the answers are taken in their order, and
what libsrtp makes of a packet by the function that is called, the packet and the number of calls
before. Each key remembers the object `_dtls` that it was exported from.
-/

namespace XrtcServer.Pc
open XrtcServer.Base

structure SrtpKey where
  key : Bytes
  /-- The `id` of the adapter that exported the key. -/
  origin : Nat
  deriving DecidableEq, Repr

/-- What libsrtp answers when a key is installed. -/
structure KeyAnswers where
  init : Bool := true
  authTagLens : Option (Nat × Nat) := some (10, 10)
  install : Bool := true
  deriving DecidableEq, Repr

/-- What the adapter, the table of crypto suites and libsrtp answer when a session is set up. -/
structure SetupAnswers where
  cryptoSuite : Option Nat := some 1
  keyAndSaltLengths : Option (Nat × Nat) := some (16, 14)
  keyingMaterial : Option Bytes := some (List.replicate 60 0)
  send : KeyAnswers := {}
  recv : KeyAnswers := {}
  deriving DecidableEq, Repr

/-- The functions of libsrtp that a packet is passed through. -/
inductive SrtpFunction
  | srtpProtect
  | srtpProtectRtcp
  | srtpUnprotect
  | srtpUnprotectRtcp
  deriving DecidableEq, Repr

/-- A call of one of these functions: with which packet, what it made of it, where its key is from,
and the object `_dtls` at that time. -/
structure KeyUse where
  function : SrtpFunction
  packet : Bytes
  result : Option Bytes
  origin : Nat
  current : Option Nat
  deriving DecidableEq, Repr

structure SrtpSession where
  /-- `_session`, by the key that is installed in it. -/
  session : Option SrtpKey := none
  inited : Bool := false
  rtpAuthTagLen : Nat := 0
  rtcpAuthTagLen : Nat := 0
  deriving DecidableEq, Repr

namespace SrtpSession

def doSetKey (a : KeyAnswers) (key : SrtpKey) (s : SrtpSession) : Bool × SrtpSession :=
  match a.authTagLens with
  | none => (false, s)
  | some (rtpAuthTagLen, rtcpAuthTagLen) =>
    if a.install then (true, { s with session := some key, rtpAuthTagLen, rtcpAuthTagLen })
    else (false, s)

/-- `set_send` and `set_recv` -/
def setKey (a : KeyAnswers) (key : SrtpKey) (s : SrtpSession) : Bool × SrtpSession :=
  if s.session.isSome then (false, s)
  else if a.init then doSetKey a key { s with inited := true }
  else (false, s)

/-- `update_send` and `update_recv` -/
def updateKey (a : KeyAnswers) (key : SrtpKey) (s : SrtpSession) : Bool × SrtpSession :=
  if s.session.isNone then (false, s) else doSetKey a key s

end SrtpSession

structure DtlsSrtpTransport where
  answers : Nat → SetupAnswers
  libsrtp : Nat → SrtpFunction → Bytes → Option Bytes
  sendSession : Option SrtpSession := none
  recvSession : Option SrtpSession := none
  /-- The number of sessions that were set up, and of packets that were given to libsrtp. -/
  setups : Nat := 0
  packets : Nat := 0
  uses : List KeyUse := []
  /-- What was handed to the RTP and RTCP slots, and to the DTLS transport. -/
  rtpReceived : List Bytes := []
  rtcpReceived : List Bytes := []
  sent : List Bytes := []

inductive RtpPacketType
  | kRtp
  | kRtcp
  | kUnknown
  deriving DecidableEq, Repr

section packets

def hasCorrectRtpVersion (packet : Bytes) : Bool := (packet.getD 0 0).toNat / 64 = 2

def payloadTypeIsReservedForRtcp (payloadType : Nat) : Bool := 64 ≤ payloadType && payloadType < 96

def inferRtpPacketType (packet : Bytes) : RtpPacketType :=
  let reserved := payloadTypeIsReservedForRtcp ((packet.getD 1 0).toNat % 128)
  if 12 ≤ packet.length && hasCorrectRtpVersion packet && !reserved then .kRtp
  else if 4 ≤ packet.length && hasCorrectRtpVersion packet && reserved then .kRtcp
  else .kUnknown

end packets

namespace DtlsSrtpTransport

/-! ## Sessions -/

def isSrtpActive (s : DtlsSrtpTransport) : Bool := s.sendSession.isSome && s.recvSession.isSome

def resetParams (s : DtlsSrtpTransport) : DtlsSrtpTransport :=
  { s with sendSession := none, recvSession := none }

def createSrtpSession (s : DtlsSrtpTransport) : DtlsSrtpTransport :=
  { s with sendSession := some {}, recvSession := some {} }

/-- `set_rtp_params` once `newSession` is known and the sessions exist. -/
def installKeys (newSession : Bool) (a : SetupAnswers) (sendKey recvKey : SrtpKey)
    (send recv : SrtpSession) (s : DtlsSrtpTransport) : Bool × DtlsSrtpTransport :=
  let install := if newSession then SrtpSession.setKey else SrtpSession.updateKey
  let (ret, send) := install a.send sendKey send
  if !ret then (false, s.resetParams)
  else
    let (ret, recv) := install a.recv recvKey recv
    if !ret then (false, s.resetParams)
    else (true, { s with sendSession := some send, recvSession := some recv })

/-- `set_rtp_params`; the last case dereferences a null `_recv_session`. -/
def setRtpParams (a : SetupAnswers) (sendKey recvKey : SrtpKey) (s : DtlsSrtpTransport) :
    Bool × DtlsSrtpTransport :=
  let newSession := s.sendSession.isNone
  let s := if newSession then s.createSrtpSession else s
  match s.sendSession, s.recvSession with
  | some send, some recv => installKeys newSession a sendKey recvKey send recv s
  | _, _ => (false, s)

/-- `_extract_params`: the keys to send and to receive with. -/
def extractParams (d : DtlsTransport) (a : SetupAnswers) : Option (SrtpKey × SrtpKey) :=
  if !d.dtlsActive then none
  else
    match d.getSrtpCryptoSuite a.cryptoSuite, a.keyAndSaltLengths,
      d.exportKeyingMaterial a.keyingMaterial with
    | some _, some (keyLen, saltLen), some (dtlsBuffer, origin) =>
      let clientWriteKey := dtlsBuffer.take keyLen ++ (dtlsBuffer.drop (2 * keyLen)).take saltLen
      let serverWriteKey := (dtlsBuffer.drop keyLen).take keyLen ++
        (dtlsBuffer.drop (2 * keyLen + saltLen)).take saltLen
      some (⟨serverWriteKey, origin⟩, ⟨clientWriteKey, origin⟩)
    | _, _, _ => none

def setupDtlsSrtp (d : DtlsTransport) (s : DtlsSrtpTransport) : DtlsSrtpTransport :=
  let a := s.answers s.setups
  let s := { s with setups := s.setups + 1 }
  match extractParams d a with
  | none => s
  | some (sendKey, recvKey) => (s.setRtpParams a sendKey recvKey).2

/-- `_maybe_setup_dtls_srtp`; RTP and RTCP share the transport. -/
def maybeSetupDtlsSrtp (d : DtlsTransport) (s : DtlsSrtpTransport) : DtlsSrtpTransport :=
  if s.isSrtpActive || !d.writable then s else s.setupDtlsSrtp d

def onDtlsState (d : DtlsTransport) (s : DtlsSrtpTransport) : DtlsSrtpTransport :=
  if d.dtlsState ≠ .kConnected then s.resetParams else s.maybeSetupDtlsSrtp d

/-- A transport after `set_dtls_transports`. -/
def initial (d : DtlsTransport) (answers : Nat → SetupAnswers)
    (libsrtp : Nat → SrtpFunction → Bytes → Option Bytes) : DtlsSrtpTransport :=
  maybeSetupDtlsSrtp d { answers, libsrtp }

/-! ## Packets -/

/-- A call of libsrtp on the session, and what becomes of the packet. -/
def useKey (function : SrtpFunction) (d : DtlsTransport) (p : Bytes) (session : SrtpSession)
    (s : DtlsSrtpTransport) : Option Bytes × DtlsSrtpTransport :=
  match session.session with
  | none => (none, s)
  | some key =>
    let result := s.libsrtp s.packets function p
    let use : KeyUse := ⟨function, p, result, key.origin, d.dtls.map SSLStreamAdapter.id⟩
    (result, { s with packets := s.packets + 1, uses := s.uses ++ [use] })

end DtlsSrtpTransport

namespace SrtpSession

def unprotectRtp (d : DtlsTransport) (p : Bytes) (session : SrtpSession) :=
  DtlsSrtpTransport.useKey .srtpUnprotect d p session

def unprotectRtcp (d : DtlsTransport) (p : Bytes) (session : SrtpSession) :=
  DtlsSrtpTransport.useKey .srtpUnprotectRtcp d p session

/-- The octets that `protect_rtp` and `protect_rtcp` need behind a packet. -/
def rtpExtra (session : SrtpSession) : Nat := session.rtpAuthTagLen
def rtcpExtra (session : SrtpSession) : Nat := session.rtcpAuthTagLen + 4

/-- A packet is protected in a buffer of `maxLen` octets, of which `extra` are added. -/
def protect (function : SrtpFunction) (extra : Nat) (d : DtlsTransport) (p : Bytes) (maxLen : Nat)
    (session : SrtpSession) (s : DtlsSrtpTransport) : Option Bytes × DtlsSrtpTransport :=
  if maxLen < p.length + extra then (none, s) else s.useKey function d p session

def protectRtp (d : DtlsTransport) (p : Bytes) (maxLen : Nat) (session : SrtpSession) :=
  protect .srtpProtect session.rtpExtra d p maxLen session

def protectRtcp (d : DtlsTransport) (p : Bytes) (maxLen : Nat) (session : SrtpSession) :=
  protect .srtpProtectRtcp session.rtcpExtra d p maxLen session

end SrtpSession

namespace DtlsSrtpTransport

/-- A call of `_recv_session`, which is made only where both sessions are there. -/
def withRecvSession (f : SrtpSession → DtlsSrtpTransport → Option Bytes × DtlsSrtpTransport)
    (s : DtlsSrtpTransport) : Option Bytes × DtlsSrtpTransport :=
  match s.sendSession, s.recvSession with
  | some _, some recv => f recv s
  | _, _ => (none, s)

/-- A call of `_send_session`. -/
def withSendSession (f : SrtpSession → DtlsSrtpTransport → Option Bytes × DtlsSrtpTransport)
    (s : DtlsSrtpTransport) : Option Bytes × DtlsSrtpTransport :=
  match s.sendSession, s.recvSession with
  | some send, some _ => f send s
  | _, _ => (none, s)

def unprotectRtp (d : DtlsTransport) (p : Bytes) (s : DtlsSrtpTransport) :=
  s.withRecvSession (SrtpSession.unprotectRtp d p)

def unprotectRtcp (d : DtlsTransport) (p : Bytes) (s : DtlsSrtpTransport) :=
  s.withRecvSession (SrtpSession.unprotectRtcp d p)

def protectRtp (d : DtlsTransport) (p : Bytes) (maxLen : Nat) (s : DtlsSrtpTransport) :=
  s.withSendSession (SrtpSession.protectRtp d p maxLen)

def protectRtcp (d : DtlsTransport) (p : Bytes) (maxLen : Nat) (s : DtlsSrtpTransport) :=
  s.withSendSession (SrtpSession.protectRtcp d p maxLen)

def onRtpPacketReceived (d : DtlsTransport) (packet : Bytes) (s : DtlsSrtpTransport) :
    DtlsSrtpTransport :=
  if !s.isSrtpActive then s
  else
    let (packet, s) := s.unprotectRtp d packet
    { s with rtpReceived := s.rtpReceived ++ packet.toList }

def onRtcpPacketReceived (d : DtlsTransport) (packet : Bytes) (s : DtlsSrtpTransport) :
    DtlsSrtpTransport :=
  if !s.isSrtpActive then s
  else
    let (packet, s) := s.unprotectRtcp d packet
    { s with rtcpReceived := s.rtcpReceived ++ packet.toList }

def onReadPacket (d : DtlsTransport) (data : Bytes) (s : DtlsSrtpTransport) : DtlsSrtpTransport :=
  match inferRtpPacketType data with
  | .kUnknown => s
  | .kRtcp => s.onRtcpPacketReceived d data
  | .kRtp => s.onRtpPacketReceived d data

/-- What `send_rtp` and `send_rtcp` hand to the DTLS transport, or -1. The buffer is as long as the
session asks for. -/
def send (extra : SrtpSession → Nat)
    (protect : Bytes → Nat → DtlsSrtpTransport → Option Bytes × DtlsSrtpTransport) (buf : Bytes)
    (s : DtlsSrtpTransport) : Option Bytes × DtlsSrtpTransport :=
  if !s.isSrtpActive then (none, s)
  else
    let capacity := buf.length + extra (s.sendSession.getD {})
    let (packet, s) := protect buf capacity s
    (packet, { s with sent := s.sent ++ packet.toList })

def sendRtp (d : DtlsTransport) (buf : Bytes) (s : DtlsSrtpTransport) :=
  s.send SrtpSession.rtpExtra (protectRtp d) buf

def sendRtcp (d : DtlsTransport) (buf : Bytes) (s : DtlsSrtpTransport) :=
  s.send SrtpSession.rtcpExtra (protectRtcp d) buf

end DtlsSrtpTransport

/-- A packet that is to be sent. -/
inductive Media
  | rtp (data : Bytes)
  | rtcp (data : Bytes)
  deriving DecidableEq, Repr

namespace Media

def data : Media → Bytes
  | rtp data => data
  | rtcp data => data

/-- The function that protects the packet. -/
def protect : Media → SrtpFunction
  | rtp _ => .srtpProtect
  | rtcp _ => .srtpProtectRtcp

end Media

/-- `send_rtp` or `send_rtcp`, as the packet is. -/
def DtlsSrtpTransport.sendMedia (d : DtlsTransport) (s : DtlsSrtpTransport) :
    Media → Option Bytes × DtlsSrtpTransport
  | .rtp buf => s.sendRtp d buf
  | .rtcp buf => s.sendRtcp d buf

/-- The SRTP transport is the slot of a DTLS transport. -/
def srtpWiring (opening : Opening) : Wiring DtlsSrtpTransport :=
  { opening with
    onDtlsState := DtlsSrtpTransport.onDtlsState
    onWritableState := fun _ s => s
    onReceivingState := fun _ s => s
    onReadPacket := DtlsSrtpTransport.onReadPacket
    onClosed := fun _ s => s }

/-- What can happen to an SRTP transport and the DTLS transport under it. -/
inductive SrtpInput
  | dtls (e : DtlsInput)
  | sendRtp (buf : Bytes)
  | sendRtcp (buf : Bytes)
  deriving DecidableEq, Repr

def srtpStep (opening : Opening) (x : DtlsTransport × DtlsSrtpTransport) :
    SrtpInput → DtlsTransport × DtlsSrtpTransport
  | .dtls e => dtlsStep (srtpWiring opening) x e
  | .sendRtp buf => (x.1, (x.2.sendRtp x.1 buf).2)
  | .sendRtcp buf => (x.1, (x.2.sendRtcp x.1 buf).2)

end XrtcServer.Pc
