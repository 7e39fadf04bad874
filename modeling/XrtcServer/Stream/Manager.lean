import XrtcServer.Core.Run
import Mathlib.Logic.Function.Basic

/-!
# The stream manager of an RTC worker

`RtcStreamManager` keeps the push and the pull streams of one worker in two maps from stream names
to objects. Objects live on a heap: `streams p` is the stream at the address `p`, and `none` where
no stream was created or the one that was has been deleted. The SDP work of a `PeerConnection` is
not part of this layer, so a stream only records the last SDP that was handed to it.
-/

namespace XrtcServer.Stream

/-- The address of a `PushStream` or `PullStream` object. -/
abbrev Ptr := Nat

inductive RtcStreamType
  | kPush
  | kPull
  deriving DecidableEq, Repr

inductive PeerConnectionState
  | kNew
  | kConnecting
  | kConnected
  | kDisconnected
  | kFailed
  | kClosed
  deriving DecidableEq, Repr

structure RtcStream where
  streamType : RtcStreamType
  uid : UInt64
  streamName : String
  audio : Bool
  video : Bool
  logId : UInt32
  state : PeerConnectionState := .kNew
  remoteSdp : Option String := none
  /-- The one-shot timer that `start` arms and the first connection deletes. -/
  iceTimeoutWatcher : Bool := true
  deriving DecidableEq, Repr

/-- `_state = state`, with the deletion of the timer on `k_connected`. -/
def RtcStream.setState (s : RtcStream) (state : PeerConnectionState) : RtcStream :=
  { s with
    state := state
    iceTimeoutWatcher := s.iceTimeoutWatcher && state != .kConnected }

@[simp] lemma RtcStream.setState_uid (s : RtcStream) (state : PeerConnectionState) :
    (s.setState state).uid = s.uid := rfl

@[simp] lemma RtcStream.setState_streamName (s : RtcStream) (state : PeerConnectionState) :
    (s.setState state).streamName = s.streamName := rfl

structure RtcStreamManager where
  streams : Ptr → Option RtcStream
  pushStreams : String → Option Ptr
  pullStreams : String → Option Ptr

namespace RtcStreamManager

/-- The manager of a worker that has not created a stream yet. -/
def initial : RtcStreamManager := ⟨fun _ => none, fun _ => none, fun _ => none⟩

/-- The map in which streams of a type are kept. -/
def mapOf (m : RtcStreamManager) : RtcStreamType → String → Option Ptr
  | .kPush => m.pushStreams
  | .kPull => m.pullStreams

/-- The manager with another map for the streams of a type. -/
def withMap (m : RtcStreamManager) (ty : RtcStreamType) (f : String → Option Ptr) :
    RtcStreamManager :=
  match ty with
  | .kPush => { m with pushStreams := f }
  | .kPull => { m with pullStreams := f }

/-- `_push_streams.erase(stream_name)` or `_pull_streams.erase(stream_name)` -/
def erase (m : RtcStreamManager) (ty : RtcStreamType) (streamName : String) : RtcStreamManager :=
  m.withMap ty (Function.update (m.mapOf ty) streamName none)

/-- `_push_streams[stream_name] = stream` or `_pull_streams[stream_name] = stream` -/
def assign (m : RtcStreamManager) (ty : RtcStreamType) (streamName : String) (p : Ptr) :
    RtcStreamManager :=
  m.withMap ty (Function.update (m.mapOf ty) streamName (some p))

/-- `delete stream` -/
def delete (m : RtcStreamManager) (p : Ptr) : RtcStreamManager :=
  { m with streams := Function.update m.streams p none }

/-- The object at `p` becomes `stream`: a constructor call or a write to its members. -/
def store (m : RtcStreamManager) (p : Ptr) (stream : RtcStream) : RtcStreamManager :=
  { m with streams := Function.update m.streams p (some stream) }

/-- `_find_push_stream` and `_find_pull_stream` -/
def findStream (m : RtcStreamManager) (ty : RtcStreamType) (streamName : String) : Option Ptr :=
  m.mapOf ty streamName

def findPushStream (m : RtcStreamManager) := m.findStream .kPush

def findPullStream (m : RtcStreamManager) := m.findStream .kPull

/-- `stream->get_uid()`; reading a deleted stream has no value here. -/
def uidAt (m : RtcStreamManager) (p : Ptr) : Option UInt64 :=
  (m.streams p).map RtcStream.uid

/-- The removal by uid and name that push and pull streams share. -/
def removeStream (m : RtcStreamManager) (ty : RtcStreamType) (uid : UInt64)
    (streamName : String) : RtcStreamManager :=
  match m.findStream ty streamName with
  | some p => if m.uidAt p = some uid then (m.erase ty streamName).delete p else m
  | none => m

def removePushStream (m : RtcStreamManager) := m.removeStream .kPush

def removePullStream (m : RtcStreamManager) := m.removeStream .kPull

/-- `set_remote_sdp` of the stream at `p`. -/
def setRemoteSdp (m : RtcStreamManager) (p : Ptr) (sdp : String) : RtcStreamManager :=
  match m.streams p with
  | none => m
  | some s => m.store p { s with remoteSdp := some sdp }

/-- The branch of `set_answer` for one stream type. -/
def answerStream (m : RtcStreamManager) (ty : RtcStreamType) (uid : UInt64)
    (streamName answer : String) : Int × RtcStreamManager :=
  match m.findStream ty streamName with
  | none => (-1, m)
  | some p => if m.uidAt p = some uid then (0, m.setRemoteSdp p answer) else (-1, m)

def setAnswer (m : RtcStreamManager) (uid : UInt64) (streamName answer streamType : String) :
    Int × RtcStreamManager :=
  if streamType = "push" then m.answerStream .kPush uid streamName answer
  else if streamType = "pull" then m.answerStream .kPull uid streamName answer
  else (0, m)

def stopPush (m : RtcStreamManager) (uid : UInt64) (streamName : String) :
    Int × RtcStreamManager :=
  (0, m.removePushStream uid streamName)

def stopPull (m : RtcStreamManager) (uid : UInt64) (streamName : String) :
    Int × RtcStreamManager :=
  (0, m.removePullStream uid streamName)

/-- What `create_push_stream` does before it allocates: a stream of that name goes, whoever
owns it. -/
def dropPushStream (m : RtcStreamManager) (streamName : String) : RtcStreamManager :=
  match m.findPushStream streamName with
  | some p => (m.erase .kPush streamName).delete p
  | none => m

/-- `create_push_stream`, the new object being placed at `p`. -/
def createPushStream (m : RtcStreamManager) (p : Ptr) (uid : UInt64) (streamName : String)
    (audio video : Bool) (logId : UInt32) : Int × RtcStreamManager :=
  let m := m.dropPushStream streamName
  (0, (m.store p { streamType := .kPush, uid, streamName, audio, video, logId }).assign .kPush
    streamName p)

/-- `create_pull_stream`, the new object being placed at `p`. -/
def createPullStream (m : RtcStreamManager) (p : Ptr) (uid : UInt64) (streamName : String)
    (audio video : Bool) (logId : UInt32) : Int × RtcStreamManager :=
  match m.findPushStream streamName with
  | none => (-1, m)
  | some _ =>
    let m := m.removePullStream uid streamName
    (0, (m.store p { streamType := .kPull, uid, streamName, audio, video, logId }).assign
      .kPull streamName p)

/-- The removal through a stream object, which looks its uid and name up again. -/
def removeStreamOf (m : RtcStreamManager) (ty : RtcStreamType) (p : Ptr) : RtcStreamManager :=
  match m.streams p with
  | none => m
  | some s => m.removeStream ty s.uid s.streamName

/-- `_remove_push_stream(stream)` -/
def removePushStreamOf (m : RtcStreamManager) := m.removeStreamOf .kPush

/-- `_remove_pull_stream(stream)` -/
def removePullStreamOf (m : RtcStreamManager) := m.removeStreamOf .kPull

def onConnectionState (m : RtcStreamManager) (p : Ptr) (state : PeerConnectionState) :
    RtcStreamManager :=
  if state = .kFailed then m.removePushStreamOf p else m

def onStreamException (m : RtcStreamManager) (p : Ptr) : RtcStreamManager :=
  match m.streams p with
  | none => m
  | some s =>
    match s.streamType with
    | .kPush => m.removePushStreamOf p
    | .kPull => m.removePullStreamOf p

/-- `RtcStream::_on_connection_state` of the stream at `p`: the listener hears of changes only. -/
def streamConnectionState (m : RtcStreamManager) (p : Ptr) (s : RtcStream)
    (state : PeerConnectionState) : RtcStreamManager :=
  if s.state = state then m
  else (m.store p (s.setState state)).onConnectionState p state

/-- `ice_timeout_cb` of the stream at `p`. -/
def iceTimeoutCb (m : RtcStreamManager) (p : Ptr) (s : RtcStream) : RtcStreamManager :=
  if s.state = .kConnected then m else m.onStreamException p

end RtcStreamManager

/-- What can happen to a manager. The address of a new object is the allocator's choice, and only
a live stream reports a connection state or an ICE timeout. -/
inductive Operation
  | createPush (p : Ptr) (uid : UInt64) (streamName : String) (audio video : Bool) (logId : UInt32)
  | createPull (p : Ptr) (uid : UInt64) (streamName : String) (audio video : Bool) (logId : UInt32)
  | answer (uid : UInt64) (streamName answer streamType : String)
  | stopPush (uid : UInt64) (streamName : String)
  | stopPull (uid : UInt64) (streamName : String)
  | connectionState (p : Ptr) (state : PeerConnectionState)
  | iceTimeout (p : Ptr)
  deriving DecidableEq, Repr

open RtcStreamManager in
/-- One operation. `none` where it cannot happen: the allocator returns no address that is in use
once the code has freed what it frees first, and a deleted stream calls nobody. -/
def apply (m : RtcStreamManager) : Operation → Option RtcStreamManager
  | .createPush p uid name audio video logId =>
    if (m.dropPushStream name).streams p = none then
      some (m.createPushStream p uid name audio video logId).2
    else none
  | .createPull p uid name audio video logId =>
    if (m.removePullStream uid name).streams p = none then
      some (m.createPullStream p uid name audio video logId).2
    else none
  | .answer uid name answer streamType => some (m.setAnswer uid name answer streamType).2
  | .stopPush uid name => some (m.stopPush uid name).2
  | .stopPull uid name => some (m.stopPull uid name).2
  | .connectionState p state => (m.streams p).map (fun s => m.streamConnectionState p s state)
  | .iceTimeout p =>
    (m.streams p).bind fun s =>
      if s.iceTimeoutWatcher then
        some ((m.store p { s with iceTimeoutWatcher := false }).iceTimeoutCb p s)
      else none

/-- The transition relation of a manager. -/
def Step (m : RtcStreamManager) (o : Operation) (m' : RtcStreamManager) : Prop :=
  apply m o = some m'

end XrtcServer.Stream
