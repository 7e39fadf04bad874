import XrtcServer.Core.Run
import XrtcServer.Signaling.Connection
import Mathlib.Logic.Function.Basic

/-!
# A signaling worker

`SignalingWorker` owns the TCP connections, sends PUSH and PULL requests to the RTC workers as
messages that name the connection by its address and its fd, and adds the offers that come back to
the reply list of the connection they name. Objects live on a heap, as for the stream manager. What
is marked as a ghost is there to state who asked for what; no function of the source reads it.
-/

namespace XrtcServer.Signaling
open XrtcServer.Base XrtcServer.Core

/-- The address of a `TCPConnection`. -/
abbrev Addr := Nat

def cmdnoPush : Int := 1
def cmdnoPull : Int := 2
def cmdnoAnswer : Int := 3
def cmdnoStopPush : Int := 4
def cmdnoStopPull : Int := 5

def maxResBuf : Nat := 4096

/-- A `rtc::Slice` over an allocated block: the block and the size of the slice. -/
structure Reply where
  buf : Bytes
  size : Nat
  deriving DecidableEq, Repr

/-- What `snprintf` with `%s` puts into a block of `MAX_RES_BUF`: the text up to a NUL, cut to the
block. -/
def snprintf (text : Bytes) : Bytes := (text.takeWhile (· ≠ 0)).take (maxResBuf - 1)

/-- The reply that is built from a request header and a JSON text. `body_len` and the size of the
slice do not take into account what `snprintf` cuts off. -/
def buildReply (header json : Bytes) : Reply where
  buf := header.take 32 ++ toLE 4 json.length ++ snprintf json ++
    List.replicate (maxResBuf - (snprintf json).length) 0
  size := (xheadSize + json.length % 2 ^ 32) % 2 ^ 32

structure TCPConnection extends Framing where
  fd : Nat
  /-- A ghost: the number of connections that were accepted before. -/
  serial : Nat
  lastInteraction : Nat
  replyList : List Reply := []
  curRespPos : Nat := 0
  /-- Whether the `io_watcher` waits for WRITE. -/
  writing : Bool := false
  deriving DecidableEq, Repr

/-- A `RtcMsg`, without the certificate that the RTC server adds on its way. -/
structure RtcMsg where
  cmdno : Int := -1
  uid : UInt64 := 0
  streamName : Bytes := []
  streamType : Bytes := []
  audio : Int := 0
  video : Int := 0
  logId : Nat := 0
  /-- Whether `worker` names the sending worker. -/
  worker : Bool := false
  conn : Option Addr := none
  fd : Int := -1
  sdp : Bytes := []
  errNo : Int := 0
  deriving DecidableEq, Repr

/-- A message and, as ghosts, the serial number of the connection whose request it carries and the
header of that request. -/
structure Sent where
  msg : RtcMsg
  sender : Nat
  header : Bytes
  deriving DecidableEq, Repr

/-- A ghost: a reply that `_response_server_offer` added, with the header it was built from. -/
structure Answer where
  sent : Sent
  receiver : Nat
  header : Bytes
  deriving DecidableEq, Repr

inductive JsonException
  | runtimeError
  | logicError
  deriving DecidableEq, Repr

inductive JsonField
  | int (n : Int)
  | string (s : Bytes)
  deriving DecidableEq, Repr

/-- What the worker uses of jsoncpp. `parse` gives the root and the error text, and `write` the text
of an object. -/
structure JsonLib where
  Value : Type
  parse : Bytes → Except JsonException (Value × Bytes)
  index : Value → String → Except JsonException Value
  asInt : Value → Except JsonException Int
  asUInt64 : Value → Except JsonException UInt64
  asString : Value → Except JsonException Bytes
  write : List (String × JsonField) → Bytes

structure SignalingWorker where
  conns : List (Option Addr)
  /-- The connections that the kernel has open for the worker. -/
  openFds : List Nat
  heap : Addr → Option TCPConnection
  /-- The messages that are with the RTC server and its workers. -/
  rtcMsgs : List Sent
  /-- `_q_msg` -/
  qMsg : List Sent
  /-- The number of messages sent to the RTC server so far. -/
  sentCount : Nat
  /-- A ghost: the number of connections accepted so far. -/
  accepted : Nat
  /-- A ghost: the connections that are closed. -/
  closed : List Nat
  /-- A ghost: what `_response_server_offer` added so far. -/
  answers : List Answer

namespace SignalingWorker

/-- A worker that has accepted no connection. -/
def initial : SignalingWorker := ⟨[], [], fun _ => none, [], [], 0, 0, [], []⟩

/-- A write to the object at `p`. -/
def setConn (w : SignalingWorker) (p : Addr) (c : TCPConnection) : SignalingWorker :=
  { w with heap := Function.update w.heap p (some c) }

/-- `_close_conn` and `_remove_conn`; `none` for a freed object or a write outside `_conns`. -/
def closeConn (w : SignalingWorker) (p : Addr) : Option SignalingWorker :=
  match w.heap p with
  | none => none
  | some c =>
    if c.fd < w.conns.length then
      some { w with
        conns := w.conns.set c.fd none
        openFds := w.openFds.filter (· ≠ c.fd)
        heap := Function.update w.heap p none
        closed := c.serial :: w.closed }
    else none

/-- `_add_reply` to the connection `c` at `p`. -/
def addReply (w : SignalingWorker) (p : Addr) (c : TCPConnection) (reply : Reply) :
    SignalingWorker :=
  w.setConn p { c with replyList := c.replyList ++ [reply], writing := true }

/-- `_conns.resize(n * 2)` where there is no entry for `n` yet. -/
def growConns (conns : List (Option Addr)) (n : Nat) : List (Option Addr) :=
  if conns.length ≤ n then conns ++ List.replicate (n * 2 - conns.length) none else conns

/-- `_new_conn` with the new object placed at `p`; `none` for a write outside `_conns`, and where the
`int` that `_conns` is to be resized to overflows. -/
def newConn (w : SignalingWorker) (fd : Int) (p : Addr) (now : Nat) : Option SignalingWorker :=
  if fd < 0 then some w
  else
    let n := fd.toNat
    if w.conns.length ≤ n ∧ 2 ^ 31 ≤ n * 2 then none
    else
      let conns := growConns w.conns n
      if n < conns.length then
        some { w with
          conns := conns.set n (some p)
          openFds := n :: w.openFds
          heap := Function.update w.heap p
            (some { fd := n, serial := w.accepted, lastInteraction := now })
          accepted := w.accepted + 1 }
      else none

/-- `RtcServer::send_rtc_msg`; `notify n` tells whether the pipe takes the notification of the
message number `n`. -/
def sendRtcMsg (notify : Nat → Bool) (w : SignalingWorker) (m : Sent) : Int × SignalingWorker :=
  (if notify w.sentCount then 0 else -1,
    { w with rtcMsgs := w.rtcMsgs ++ [m], sentCount := w.sentCount + 1 })

section requests
variable (json : JsonLib) (notify : Nat → Bool)

/-- `_process_push` and `_process_pull`, which differ in nothing but the log. -/
def processOffer (cmdno : Int) (w : SignalingWorker) (p : Addr) (c : TCPConnection)
    (header : Bytes) (root : json.Value) (logId : Nat) : Int × SignalingWorker :=
  let fields : Except JsonException (UInt64 × Bytes × Int × Int) := do
    let uid ← json.asUInt64 (← json.index root "uid")
    let streamName ← json.asString (← json.index root "stream_name")
    let audio ← json.asInt (← json.index root "audio")
    let video ← json.asInt (← json.index root "video")
    return (uid, streamName, audio, video)
  match fields with
  | .error _ => (-1, w)
  | .ok (uid, streamName, audio, video) =>
    let msg :=
      { cmdno, uid, streamName, audio, video, logId, worker := true, conn := some p, fd := c.fd }
    w.sendRtcMsg notify ⟨msg, c.serial, header⟩

def processPush := processOffer json notify cmdnoPush

def processPull := processOffer json notify cmdnoPull

/-- `_process_stop_push` and `_process_stop_pull`, which differ in nothing but the log. -/
def processStop (cmdno : Int) (w : SignalingWorker) (c : TCPConnection) (header : Bytes)
    (root : json.Value) (logId : Nat) : Int × SignalingWorker :=
  let fields : Except JsonException (UInt64 × Bytes) := do
    let uid ← json.asUInt64 (← json.index root "uid")
    let streamName ← json.asString (← json.index root "stream_name")
    return (uid, streamName)
  match fields with
  | .error _ => (-1, w)
  | .ok (uid, streamName) =>
    w.sendRtcMsg notify ⟨{ cmdno, uid, streamName, logId }, c.serial, header⟩

def processStopPush := processStop json notify cmdnoStopPush

def processStopPull := processStop json notify cmdnoStopPull

def processAnswer (w : SignalingWorker) (c : TCPConnection) (header : Bytes)
    (root : json.Value) (logId : Nat) : Int × SignalingWorker :=
  let fields : Except JsonException (UInt64 × Bytes × Bytes × Bytes) := do
    let uid ← json.asUInt64 (← json.index root "uid")
    let streamName ← json.asString (← json.index root "stream_name")
    let answer ← json.asString (← json.index root "answer")
    let streamType ← json.asString (← json.index root "type")
    return (uid, streamName, answer, streamType)
  match fields with
  | .error _ => (-1, w)
  | .ok (uid, streamName, answer, streamType) =>
    let msg := { cmdno := cmdnoAnswer, uid, streamName, sdp := answer, streamType, logId }
    w.sendRtcMsg notify ⟨msg, c.serial, header⟩

/-- The fields of the reply of `_process_request`. -/
def requestResult (ret : Int) : List (String × JsonField) :=
  if ret = 0 then [("err_no", .int 0), ("err_msg", .string "success".toUTF8.toList)]
  else [("err_no", .int (-1)), ("err_msg", .string "process error".toUTF8.toList)]

/-- `_process_request` on the connection `c` at `p`. The only exceptions that it does not catch are
those of `parse`. -/
def processRequest (p : Addr) (c : TCPConnection) (w : SignalingWorker) (header body : Bytes) :
    Except JsonException (Int × SignalingWorker) := do
  let logId := (XHead.ofBytes header).logId
  let (root, err) ← json.parse body
  if err ≠ [] then return (-1, w)
  match json.index root "cmdno" >>= json.asInt with
  | .error _ => return (-1, w)
  | .ok cmdno =>
    if cmdno = cmdnoPush then return processPush json notify w p c header root logId
    else if cmdno = cmdnoPull then return processPull json notify w p c header root logId
    else
      let (ret, w) :=
        if cmdno = cmdnoStopPush then processStopPush json notify w c header root logId
        else if cmdno = cmdnoStopPull then processStopPull json notify w c header root logId
        else if cmdno = cmdnoAnswer then processAnswer json notify w c header root logId
        else (-1, w)
      return (0, w.addReply p c (buildReply header (json.write (requestResult ret))))

/-- `_process_request` as the loop of `_process_query_buffer` calls it for the connection at `p`. An
exception that escapes ends the program. -/
def requestOf (p : Addr) (w : Except JsonException SignalingWorker) (header body : Bytes) :
    Int × Except JsonException SignalingWorker :=
  match w with
  | .error e => (-1, .error e)
  | .ok w =>
    match w.heap p with
    | none => (-1, .ok w)
    | some c =>
      match processRequest json notify p c w header body with
      | .error e => (-1, .error e)
      | .ok (ret, w) => (ret, .ok w)

/-- `_read_query(fd)` when the socket brings `r` and the loop leaves within `fuel` iterations. `none`
where it does not, an exception escapes, `_conns[fd]` is null or the socket cannot bring `r`. -/
def readQuery (fuel : Nat) (w : SignalingWorker) (fd : Nat) (r : ReadResult) (now : Nat) :
    Option SignalingWorker :=
  if w.conns.length ≤ fd then some w
  else
    match w.conns[fd]? with
    | some (some p) =>
      match w.heap p with
      | none => none
      | some c =>
        if r.Fits c.toFraming then
          match c.toFraming.receive r with
          | none => (w.setConn p { c with lastInteraction := now }).closeConn p
          | some q =>
            let w := w.setConn p { c with toFraming := q, lastInteraction := now }
            match runLoop (processQueryIter (requestOf json notify p)) fuel (q, .ok w) with
            | some (ret, q, .ok w) =>
              match w.heap p with
              | none => none
              | some c =>
                let w := w.setConn p { c with toFraming := q }
                if ret = 0 then some w else w.closeConn p
            | _ => none
        else none
    | _ => none

end requests

/-- The loop of `_write_reply` on a reply list and `cur_resp_pos`, with what the calls of
`sock_write_data` return: whether it fails, and what is left. `none` where there are fewer or more
results than calls. -/
def writeReplies : List Reply → Nat → List Int → Option (Bool × List Reply × Nat)
  | [], pos, [] => some (false, [], pos)
  | [], _, _ :: _ => none
  | _ :: _, _, [] => none
  | reply :: replies, pos, n :: ns =>
    if n = -1 then if ns = [] then some (true, reply :: replies, pos) else none
    else if n = 0 then writeReplies (reply :: replies) pos ns
    else if reply.size ≤ n.toNat + pos then writeReplies replies 0 ns
    else writeReplies (reply :: replies) (pos + n.toNat) ns

/-- `_write_reply(fd)` with the results of its writes. -/
def writeReply (w : SignalingWorker) (fd : Nat) (results : List Int) (now : Nat) :
    Option SignalingWorker :=
  if fd = 0 ∨ w.conns.length ≤ fd then some w
  else
    match w.conns[fd]? with
    | some (some p) =>
      match w.heap p with
      | none => none
      | some c =>
        match writeReplies c.replyList c.curRespPos results with
        | none => none
        | some (true, replyList, curRespPos) =>
          (w.setConn p { c with replyList, curRespPos }).closeConn p
        | some (false, replyList, curRespPos) =>
          some (w.setConn p
            { c with replyList, curRespPos, lastInteraction := now, writing := false })
    | _ => some w

/-- `_process_timeout` of the connection at `p`; the subtraction is one of `unsigned long`. -/
def processTimeout (connectionTimeout : Nat) (w : SignalingWorker) (p : Addr) (now : Nat) :
    Option SignalingWorker :=
  match w.heap p with
  | none => none
  | some c =>
    if connectionTimeout ≤ (now + 2 ^ 64 - c.lastInteraction) % 2 ^ 64 then w.closeConn p
    else some w

/-- An RTC worker is done with the message number `i`: `ret` and `offer` are what the stream manager
gave it. Only `_process_push` and `_process_pull` send a message back. -/
def rtcProcess (w : SignalingWorker) (i : Nat) (ret : Int) (offer : Bytes) :
    Option SignalingWorker :=
  match w.rtcMsgs[i]? with
  | none => none
  | some m =>
    let w := { w with rtcMsgs := w.rtcMsgs.eraseIdx i }
    if (m.msg.cmdno = cmdnoPush ∨ m.msg.cmdno = cmdnoPull) ∧ m.msg.worker then
      let msg := { m.msg with sdp := offer, errNo := if ret ≠ 0 then -1 else m.msg.errNo }
      some { w with qMsg := w.qMsg ++ [{ m with msg }] }
    else some w

/-- The fields of the reply of `_response_server_offer`. -/
def offerResult (msg : RtcMsg) : List (String × JsonField) :=
  if msg.errNo ≠ 0 then
    [("err_no", .int msg.errNo), ("err_msg", .string "process error".toUTF8.toList),
      ("offer", .string [])]
  else
    [("err_no", .int msg.errNo), ("err_msg", .string "success".toUTF8.toList),
      ("offer", .string msg.sdp)]

/-- `_response_server_offer`, where `beyond` is what memory holds behind the buffer of the
connection; `none` for a read of a freed object. -/
def responseServerOffer (json : JsonLib) (w : SignalingWorker) (m : Sent) (beyond : Bytes) :
    Option SignalingWorker :=
  match m.msg.conn with
  | none => some w
  | some p =>
    if m.msg.fd ≤ 0 ∨ w.conns.length ≤ m.msg.fd.toNat then some w
    else if w.conns[m.msg.fd.toNat]? ≠ some (some p) then some w
    else
      match w.heap p with
      | none => none
      | some c =>
        let header := (c.querybuf ++ beyond).take xheadSize
        let w := w.addReply p c (buildReply header (json.write (offerResult m.msg)))
        some { w with answers := w.answers ++ [⟨m, c.serial, header⟩] }

def processRtcMsg (json : JsonLib) (w : SignalingWorker) (beyond : Bytes) :
    Option SignalingWorker :=
  match w.qMsg with
  | [] => some w
  | m :: qMsg =>
    let w := { w with qMsg }
    if m.msg.cmdno = cmdnoPush ∨ m.msg.cmdno = cmdnoPull then w.responseServerOffer json m beyond
    else some w

end SignalingWorker

/-- What can happen to a signaling worker. -/
inductive WorkerEvent
  | newConn (fd : Int) (p : Addr) (now : Nat)
  | readQuery (fd : Nat) (r : ReadResult) (now : Nat)
  | writeReply (fd : Nat) (results : List Int) (now : Nat)
  | timeout (p : Addr) (now : Nat)
  | rtcProcess (i : Nat) (ret : Int) (offer : Bytes)
  | rtcLost (i : Nat)
  | rtcMsg (beyond : Bytes)
  deriving DecidableEq, Repr

open SignalingWorker in
/-- One event, where `fuel` iterations are enough for the loop of `_process_query_buffer`. The kernel
hands out an fd again only after it was closed, and the allocator an address only after the object
there was freed; the RTC server may lose a message. -/
def workerApply (json : JsonLib) (notify : Nat → Bool) (connectionTimeout fuel : Nat)
    (w : SignalingWorker) : WorkerEvent → Option SignalingWorker
  | .newConn fd p now =>
    if (w.heap p).isNone ∧ fd.toNat ∉ w.openFds then w.newConn fd p now else none
  | .readQuery fd r now => readQuery json notify fuel w fd r now
  | .writeReply fd results now => w.writeReply fd results now
  | .timeout p now => w.processTimeout connectionTimeout p now
  | .rtcProcess i ret offer => w.rtcProcess i ret offer
  | .rtcLost i => some { w with rtcMsgs := w.rtcMsgs.eraseIdx i }
  | .rtcMsg beyond => w.processRtcMsg json beyond

/-- The transition relation of a signaling worker. -/
def WorkerStep (json : JsonLib) (notify : Nat → Bool) (connectionTimeout : Nat)
    (w : SignalingWorker) (e : WorkerEvent) (w' : SignalingWorker) : Prop :=
  ∃ fuel, workerApply json notify connectionTimeout fuel w e = some w'

end XrtcServer.Signaling
