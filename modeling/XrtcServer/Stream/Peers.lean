import XrtcServer.Core.Heap
import XrtcServer.Pc.PeerConnection
import XrtcServer.Stream.Registry

/-!
# The streams of a worker and their peer connections

Each stream has a `PeerConnection` of its own, which the destructor of the stream leaves to a timer.
The manager hands the packets of a stream on to the stream of the same name on the other side.
-/

namespace XrtcServer.Stream
open XrtcServer.Base XrtcServer.Core XrtcServer.Pc RtcStreamManager

/-- A manager, the member `pc` of the streams, and the peer connections on the heap. -/
structure Peers where
  manager : RtcStreamManager
  pcOf : Ptr → Option Nat
  pcs : Nat → Option PeerConnection

/-- The stream that an operation makes, and where. -/
def newStream (m : RtcStreamManager) : Operation → Option (Ptr × RtcStream)
  | .createPush p uid streamName audio video logId =>
    some (p, { streamType := .kPush, uid, streamName, audio, video, logId })
  | .createPull p uid streamName audio video logId =>
    (m.findPushStream streamName).map fun _ =>
      (p, { streamType := .kPull, uid, streamName, audio, video, logId })
  | _ => none

namespace Peers

def initial : Peers := ⟨RtcStreamManager.initial, fun _ => none, fun _ => none⟩

/-- An operation of the manager, where a new peer connection is placed at `a` and started with
`certificate`. -/
def operate (o : Operation) (a : Nat) (certificate : Option Nat) (s : Surroundings) (h : Peers) :
    Option Peers :=
  (apply h.manager o).bind fun manager =>
    match newStream h.manager o with
    | none => some { h with manager }
    | some (p, stream) =>
      if (h.pcs a).isNone then
        some
          { manager
            pcOf := Function.update h.pcOf p (some a)
            pcs := Function.update h.pcs a
              (some (openedPeer s p certificate stream.streamType stream.audio stream.video)) }
      else none

/-- The object at `a` becomes `pc`. -/
def store (a : Nat) (pc : PeerConnection) (h : Peers) : Peers :=
  { h with pcs := Function.update h.pcs a (some pc) }

/-- `destory_timer_cb` of the peer connection at `a`, once its stream has been deleted. -/
def destroyTimerCb (a : Nat) (h : Peers) : Option Peers :=
  (h.pcs a).bind fun pc =>
    if (h.manager.streams pc.stream).isSome ∧ h.pcOf pc.stream = some a then none
    else some { h with pcs := Function.update h.pcs a none }

/-- A call of the member `pc` of the stream at `p`; the first component is `none` where -1 is
returned. -/
def callPc (send : PeerConnection → Option Bytes × PeerConnection) (p : Ptr) (h : Peers) :
    Option Bytes × Peers :=
  match h.pcOf p with
  | none => (none, h)
  | some a =>
    match h.pcs a with
    | none => (none, h)
    | some pc =>
      let (packet, pc) := send pc
      (packet, h.store a pc)

/-- `RtcStream::send_rtp` -/
def sendRtp (data : Bytes) (p : Ptr) (h : Peers) : Option Bytes × Peers :=
  h.callPc (·.sendRtp data) p

/-- `RtcStream::send_rtcp` -/
def sendRtcp (data : Bytes) (p : Ptr) (h : Peers) : Option Bytes × Peers :=
  h.callPc (·.sendRtcp data) p

/-- A packet goes to the stream of that type and name, if there is one. -/
def handOn (send : Ptr → Peers → Option Bytes × Peers) (ty : RtcStreamType) (streamName : String)
    (h : Peers) : Option Bytes × Peers :=
  match h.manager.findStream ty streamName with
  | none => (none, h)
  | some q => send q h

/-- `on_rtp_packet_received` for the stream at `p`. -/
def onRtpPacketReceived (p : Ptr) (data : Bytes) (h : Peers) : Option Bytes × Peers :=
  match h.manager.streams p with
  | none => (none, h)
  | some s =>
    match s.streamType with
    | .kPush => h.handOn (sendRtp data) .kPull s.streamName
    | .kPull => (none, h)

/-- `on_rtcp_packet_received` for the stream at `p`. -/
def onRtcpPacketReceived (p : Ptr) (data : Bytes) (h : Peers) : Option Bytes × Peers :=
  match h.manager.streams p with
  | none => (none, h)
  | some s =>
    match s.streamType with
    | .kPush => h.handOn (sendRtcp data) .kPull s.streamName
    | .kPull => h.handOn (sendRtcp data) .kPush s.streamName

end Peers

/-- What can happen to the streams of a worker. -/
inductive PeerEvent
  | operation (o : Operation) (a : Nat) (certificate : Option Nat) (s : Surroundings)
  | dtls (a : Nat) (transportName : Text) (e : DtlsInput)
  | destroyTimer (a : Nat)
  | rtpReceived (p : Ptr) (data : Bytes)
  | rtcpReceived (p : Ptr) (data : Bytes)

/-- One event; `none` where it cannot happen. -/
def Peers.step (opening : Opening) (h : Peers) : PeerEvent → Option Peers
  | .operation o a certificate s => h.operate o a certificate s
  | .dtls a transportName e =>
    (h.pcs a).map fun pc => h.store a (pc.dtlsEvent opening transportName e)
  | .destroyTimer a => h.destroyTimerCb a
  | .rtpReceived p data => (h.manager.streams p).map fun _ => (h.onRtpPacketReceived p data).2
  | .rtcpReceived p data => (h.manager.streams p).map fun _ => (h.onRtcpPacketReceived p data).2

/-- The transition relation of a worker's streams. -/
def PeerStep (opening : Opening) (h : Peers) (e : PeerEvent) (h' : Peers) : Prop :=
  h.step opening e = some h'

variable {m m' : RtcStreamManager} {ty : RtcStreamType} {n : String} {p q : Ptr} {a : Nat}
  {s u : RtcStream} {o : Operation} {h h' : Peers} {pc pc' : PeerConnection}

/-! ## Streams keep what they are -/

/-- What never changes of a stream. -/
structure SameStream (s u : RtcStream) : Prop where
  streamType : s.streamType = u.streamType
  streamName : s.streamName = u.streamName
  audio : s.audio = u.audio
  video : s.video = u.video

lemma SameStream.refl : SameStream s s := ⟨rfl, rfl, rfl, rfl⟩

/-- The streams of `m'` are streams of `m`. -/
structure Keeps (m m' : RtcStreamManager) : Prop where
  same : ∀ q u, m'.streams q = some u → ∃ s, m.streams q = some s ∧ SameStream s u

lemma Keeps.refl : Keeps m m := ⟨fun _ u hu => ⟨u, hu, .refl⟩⟩

lemma Keeps.trans {m₁ : RtcStreamManager} (h : Keeps m m₁) (h' : Keeps m₁ m') : Keeps m m' := by
  refine ⟨fun q u hu => ?_⟩
  obtain ⟨v, hv, hvu⟩ := h'.same q u hu
  obtain ⟨s, hs, hsv⟩ := h.same q v hv
  exact ⟨s, hs, hsv.streamType.trans hvu.streamType, hsv.streamName.trans hvu.streamName,
    hsv.audio.trans hvu.audio, hsv.video.trans hvu.video⟩

lemma keeps_forget (m : RtcStreamManager) (ty : RtcStreamType) (n : String) (p : Ptr) :
    Keeps m (m.forget ty n p) := by
  refine ⟨fun q u hu => ?_⟩
  rw [streams_forget] at hu
  split at hu
  · cases hu
  · exact ⟨u, hu, .refl⟩

lemma keeps_store (hp : m.streams p = some s) (hsame : SameStream s u) :
    Keeps m (m.store p u) := by
  refine ⟨fun q v hv => ?_⟩
  rw [streams_store] at hv
  split at hv
  · rename_i hq
    cases hv
    exact ⟨s, hq ▸ hp, hsame⟩
  · exact ⟨v, hv, .refl⟩

lemma keeps_removeStream (m : RtcStreamManager) (ty : RtcStreamType) (uid : UInt64) (n : String) :
    Keeps m (m.removeStream ty uid n) := by
  rcases removeStream_cases m ty uid n with ⟨h, -⟩ | ⟨p, -, -, h⟩
  · rw [h]
    exact .refl
  · rw [h]
    exact keeps_forget ..

lemma keeps_removeStreamOf (m : RtcStreamManager) (ty : RtcStreamType) (p : Ptr) :
    Keeps m (m.removeStreamOf ty p) := by
  unfold removeStreamOf
  split
  · exact .refl
  · exact keeps_removeStream ..

lemma keeps_answerStream (m : RtcStreamManager) (ty : RtcStreamType) (uid : UInt64)
    (n a : String) : Keeps m (m.answerStream ty uid n a).2 := by
  unfold answerStream setRemoteSdp
  split
  · exact .refl
  · split
    · dsimp only
      split
      · exact .refl
      · rename_i hs
        exact keeps_store hs ⟨rfl, rfl, rfl, rfl⟩
    · exact .refl

lemma keeps_dropPushStream (m : RtcStreamManager) (n : String) : Keeps m (m.dropPushStream n) := by
  unfold dropPushStream
  split
  · exact keeps_forget ..
  · exact .refl

lemma keeps_streamConnectionState (state : PeerConnectionState) (hs : m.streams p = some s) :
    Keeps m (m.streamConnectionState p s state) := by
  unfold streamConnectionState onConnectionState
  split
  · exact .refl
  · have hstore : Keeps m (m.store p (s.setState state)) := keeps_store hs ⟨rfl, rfl, rfl, rfl⟩
    split
    · exact hstore.trans (keeps_removeStreamOf ..)
    · exact hstore

lemma keeps_iceTimeoutCb (m : RtcStreamManager) (p : Ptr) (s : RtcStream) :
    Keeps m (m.iceTimeoutCb p s) := by
  unfold iceTimeoutCb onStreamException
  split
  · exact .refl
  · split
    · exact .refl
    · split
      · exact keeps_removeStreamOf ..
      · exact keeps_removeStreamOf ..

/-- The streams after an operation: those that were there, but for the one that it makes. -/
lemma streams_apply (h : apply m o = some m') :
    match newStream m o with
    | none => Keeps m m'
    | some (p, u) => ∃ m₁, Keeps m m₁ ∧ ∀ q, m'.streams q =
        if q = p then some u else m₁.streams q := by
  cases o with
  | createPush p uid n audio video logId =>
    simp only [apply] at h
    obtain ⟨-, h⟩ := Option.ite_none_right_eq_some.mp h
    cases h
    exact ⟨_, keeps_dropPushStream m n, fun q => by
      simp [createPushStream, assign, streams_store]⟩
  | createPull p uid n audio video logId =>
    simp only [apply] at h
    obtain ⟨-, h⟩ := Option.ite_none_right_eq_some.mp h
    cases h
    simp only [newStream, createPullStream]
    cases m.findPushStream n with
    | none => exact .refl
    | some r =>
      exact ⟨_, keeps_removeStream m .kPull uid n, fun q => by
        simp [assign, streams_store, removePullStream]⟩
  | answer uid n a streamType =>
    simp only [apply, Option.some.injEq] at h
    subst h
    simp only [newStream, setAnswer]
    split
    · exact keeps_answerStream ..
    · split
      · exact keeps_answerStream ..
      · exact .refl
  | stopPush uid n =>
    cases h
    exact keeps_removeStream m .kPush uid n
  | stopPull uid n =>
    cases h
    exact keeps_removeStream m .kPull uid n
  | connectionState p state =>
    obtain ⟨s, hs, rfl⟩ := Option.map_eq_some_iff.mp h
    exact keeps_streamConnectionState state hs
  | iceTimeout p =>
    obtain ⟨s, hs, h⟩ := Option.bind_eq_some_iff.mp h
    obtain ⟨-, h⟩ := Option.ite_none_right_eq_some.mp h
    cases h
    have hstore : Keeps m (m.store p { s with iceTimeoutWatcher := false }) :=
      keeps_store hs ⟨rfl, rfl, rfl, rfl⟩
    exact hstore.trans (keeps_iceTimeoutCb ..)

/-! ## What holds between two events -/

/-- Each live stream has a peer connection of its own, whose transports are those of its media. -/
structure Hosted (h : Peers) : Prop where
  consistent : Consistent h.manager
  live : ∀ p s, h.manager.streams p = some s → ∃ a pc, h.pcOf p = some a ∧ h.pcs a = some pc ∧
    pc.stream = p ∧ (pc.transports.map (·.transportName) = [] ∨
      pc.transports.map (·.transportName) = mediaNames s.audio s.video)
  sound : ∀ a pc, h.pcs a = some pc → pc.Sound

lemma hosted_initial : Hosted Peers.initial where
  consistent := consistent_initial
  live p s h := by cases h
  sound a pc h := by cases h

lemma Hosted.store (hh : Hosted h) (ha : h.pcs a = some pc) (hpc : pc.Follows pc') :
    Hosted (h.store a pc') where
  consistent := hh.consistent
  live p s hs := by
    obtain ⟨b, pb, hb, hpb, hstream, hnames⟩ := hh.live p s hs
    by_cases hba : b = a
    · subst hba
      cases ha.symm.trans hpb
      exact ⟨b, pc', hb, Function.update_self .., hpc.stream.trans hstream, hpc.names ▸ hnames⟩
    · exact ⟨b, pb, hb, (Function.update_of_ne hba ..).trans hpb, hstream, hnames⟩
  sound b pb hpb := by
    rcases update_some_eq_some hpb with ⟨-, rfl⟩ | ⟨-, hpb⟩
    · exact hpc.sound
    · exact hh.sound b pb hpb

/-- What an event other than an operation of the manager does: nothing, what one peer connection
does to itself, or the end of a peer connection whose stream has been deleted. -/
inductive PeerChange (h : Peers) : Peers → Prop
  | same : PeerChange h h
  | store {a : Nat} {pc pc' : PeerConnection} (ha : h.pcs a = some pc) (hpc : pc.Follows pc') :
      PeerChange h (h.store a pc')
  | destroy {a : Nat} {pc : PeerConnection} (ha : h.pcs a = some pc)
      (hgone : (h.manager.streams pc.stream).isSome → h.pcOf pc.stream ≠ some a) :
      PeerChange h { h with pcs := Function.update h.pcs a none }

/-- `send_rtp` or `send_rtcp` of the stream at `p`. -/
def Peers.sendMedia (m : Media) (p : Ptr) (h : Peers) : Option Bytes × Peers :=
  h.callPc (·.sendMedia m) p

lemma Hosted.change_sendMedia (hh : Hosted h) (m : Media) (p : Ptr) :
    PeerChange h (h.sendMedia m p).2 := by
  unfold Peers.sendMedia Peers.callPc
  cases h.pcOf p with
  | none => exact .same
  | some a =>
    dsimp only
    cases ha : h.pcs a with
    | none => exact .same
    | some pc => exact .store ha ((hh.sound a pc ha).follows_sendMedia m)

lemma Hosted.change_handOn (hh : Hosted h) (m : Media) (ty : RtcStreamType) (n : String) :
    PeerChange h (h.handOn (Peers.sendMedia m) ty n).2 := by
  unfold Peers.handOn
  split
  · exact .same
  · exact hh.change_sendMedia ..

/-- The inversion of an event. -/
lemma Hosted.change {opening : Opening} {e : PeerEvent} (hh : Hosted h)
    (hstep : PeerStep opening h e h') : (∃ o a certificate s,
      e = .operation o a certificate s ∧ h.operate o a certificate s = some h') ∨
        PeerChange h h' := by
  cases e with
  | operation o a certificate s => exact .inl ⟨o, a, certificate, s, rfl, hstep⟩
  | dtls a name e =>
    right
    obtain ⟨pc, ha, rfl⟩ := Option.map_eq_some_iff.mp hstep
    exact .store ha ((hh.sound a pc ha).follows_dtlsEvent opening name e)
  | destroyTimer a =>
    right
    obtain ⟨pc, ha, hstep⟩ := Option.bind_eq_some_iff.mp hstep
    obtain ⟨hgone, hstep⟩ := Option.ite_none_left_eq_some.mp hstep
    cases hstep
    exact .destroy ha fun hs hp => hgone ⟨hs, hp⟩
  | rtpReceived p data =>
    right
    obtain ⟨s, hs, rfl⟩ := Option.map_eq_some_iff.mp hstep
    simp only [Peers.onRtpPacketReceived, hs]
    split
    · exact hh.change_handOn (.rtp data) ..
    · exact .same
  | rtcpReceived p data =>
    right
    obtain ⟨s, hs, rfl⟩ := Option.map_eq_some_iff.mp hstep
    simp only [Peers.onRtcpPacketReceived, hs]
    split
    · exact hh.change_handOn (.rtcp data) ..
    · exact hh.change_handOn (.rtcp data) ..

/-- The inversion of an operation: whether it makes a stream or not, streams that stay keep their
peer connections. -/
lemma operate_cases {certificate : Option Nat} {s : Surroundings}
    (ho : h.operate o a certificate s = some h') :
    Step h.manager o h'.manager ∧ (Keeps h.manager h'.manager ∧ h'.pcOf = h.pcOf ∧ h'.pcs = h.pcs ∨
      ∃ p u, h.pcs a = none ∧ h'.manager.streams p = some u ∧
        (∀ q v, q ≠ p → h'.manager.streams q = some v →
          ∃ w, h.manager.streams q = some w ∧ SameStream w v) ∧
        h'.pcOf = Function.update h.pcOf p (some a) ∧
        h'.pcs = Function.update h.pcs a
          (some (openedPeer s p certificate u.streamType u.audio u.video))) := by
  obtain ⟨m', hm, ho⟩ := Option.bind_eq_some_iff.mp ho
  have hstreams := streams_apply hm
  cases hnew : newStream h.manager o with
  | none =>
    simp only [hnew, Option.some.injEq] at ho hstreams
    subst ho
    exact ⟨hm, .inl ⟨hstreams, rfl, rfl⟩⟩
  | some x =>
    obtain ⟨p, u⟩ := x
    simp only [hnew] at ho hstreams
    obtain ⟨m₁, hkeeps, hstreams⟩ := hstreams
    obtain ⟨hfree, ho⟩ := Option.ite_none_right_eq_some.mp ho
    cases ho
    refine ⟨hm, .inr ⟨p, u, Option.isNone_iff_eq_none.mp hfree, ?_, fun q v hq hv => ?_, rfl, rfl⟩⟩
    · rw [hstreams p, if_pos rfl]
    · rw [hstreams q, if_neg hq] at hv
      exact hkeeps.same q v hv

lemma Hosted.operate {certificate : Option Nat} {s : Surroundings} (hh : Hosted h)
    (ho : h.operate o a certificate s = some h') : Hosted h' := by
  obtain ⟨hm, ⟨hkeeps, hpcOf, hpcs⟩ | ⟨p, u, hfree, hu, hkeeps, hpcOf, hpcs⟩⟩ := operate_cases ho
  · refine ⟨hh.consistent.step hm, fun q v hv => ?_, fun b pb hpb => ?_⟩
    · obtain ⟨w, hw, hsame⟩ := hkeeps.same q v hv
      rw [hpcOf, hpcs, ← hsame.audio, ← hsame.video]
      exact hh.live q w hw
    · exact hh.sound b pb (hpcs ▸ hpb)
  · refine ⟨hh.consistent.step hm, fun q v hv => ?_, fun b pb hpb => ?_⟩
    · by_cases hq : q = p
      · subst hq
        cases hu.symm.trans hv
        refine ⟨a, openedPeer s q certificate u.streamType u.audio u.video, ?_, ?_,
          stream_openedPeer .., names_openedPeer ..⟩
        · rw [hpcOf, Function.update_self]
        · rw [hpcs, Function.update_self]
      · obtain ⟨w, hw, hsame⟩ := hkeeps q v hq hv
        obtain ⟨b, pb, hb, hpb, hstream, hnames⟩ := hh.live q w hw
        have hba : b ≠ a := by
          rintro rfl
          cases hfree.symm.trans hpb
        rw [hpcOf, hpcs, Function.update_of_ne hq, ← hsame.audio, ← hsame.video]
        exact ⟨b, pb, hb, (Function.update_of_ne hba ..).trans hpb, hstream, hnames⟩
    · rw [hpcs] at hpb
      rcases update_some_eq_some hpb with ⟨-, rfl⟩ | ⟨-, hpb⟩
      · exact sound_openedPeer _ _ _ _ _ _
      · exact hh.sound b pb hpb

lemma Hosted.step {opening : Opening} {e : PeerEvent} (hh : Hosted h)
    (hstep : PeerStep opening h e h') : Hosted h' := by
  obtain ⟨o, a, certificate, s, -, ho⟩ | hchange := hh.change hstep
  · exact hh.operate ho
  cases hchange with
  | same => exact hh
  | store ha hpc => exact hh.store ha hpc
  | @destroy a pc ha hgone =>
    refine ⟨hh.consistent, fun q v hv => ?_, fun b pb hpb => ?_⟩
    · obtain ⟨b, pb, hb, hpb, hstream, hnames⟩ := hh.live q v hv
      have hba : b ≠ a := by
        rintro rfl
        cases ha.symm.trans hpb
        subst hstream
        exact hgone (by rw [hv]; rfl) hb
      exact ⟨b, pb, hb, (Function.update_of_ne hba ..).trans hpb, hstream, hnames⟩
    · exact hh.sound b pb (update_none_eq_some hpb).2

/-- Every stream has its peer connection in every reachable state. -/
theorem reachable_hosted {opening : Opening}
    (hr : Reachable (PeerStep opening) Peers.initial h) : Hosted h :=
  hr.invariant hosted_initial fun _ _ _ hh hstep => hh.step hstep

end XrtcServer.Stream
