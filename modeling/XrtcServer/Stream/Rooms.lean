import XrtcServer.Stream.Routing

/-!
# Rooms

A push stream and the pull streams of its name are a room. A packet that the SRTP transport of a
stream hands up goes through its controller and its peer connection to the manager, which has the
stream registered under the name on the other side send it. `heard` records along a run what was
handed up in a room; each peer connection has what it was asked to send.
-/

namespace XrtcServer.Stream
open XrtcServer.Base XrtcServer.Core XrtcServer.Pc RtcStreamManager

def RtcStreamType.other : RtcStreamType → RtcStreamType
  | .kPush => .kPull
  | .kPull => .kPush

namespace Peers

/-- `on_rtp_packet_received` or `on_rtcp_packet_received` for the stream at `p`. -/
def onMedia (p : Ptr) (h : Peers) : Media → Peers
  | .rtp data => (h.onRtpPacketReceived p data).2
  | .rtcp data => (h.onRtcpPacketReceived p data).2

/-- The stream whose slots the signals of the peer connection at `a` reach. -/
def owner (h : Peers) (a : Nat) : Option Ptr :=
  (h.pcs a).bind fun pc =>
    if (h.manager.streams pc.stream).isSome ∧ h.pcOf pc.stream = some a then some pc.stream
    else none

end Peers

/-- What the SRTP transport of `t` has handed up when it has become that of `t'`. -/
def newMedia (t t' : MediaTransport) : List Media :=
  (t'.srtp.rtpReceived.drop t.srtp.rtpReceived.length).map .rtp ++
    (t'.srtp.rtcpReceived.drop t.srtp.rtcpReceived.length).map .rtcp

/-- The streams of a worker, and what was handed up for the streams of a type and name. -/
structure Rooms where
  peers : Peers
  heard : RtcStreamType × String → List Media

inductive RoomEvent
  | operation (o : Operation) (a : Nat) (certificate : Option Nat) (s : Surroundings)
  | dtls (a : Nat) (transportName : Text) (e : DtlsInput)
  | destroyTimer (a : Nat)

namespace Rooms

def initial : Rooms := ⟨Peers.initial, fun _ => []⟩

/-- A packet reaches the stream at `p`, and the manager. -/
def receive (p : Ptr) (r : Rooms) (m : Media) : Rooms :=
  match r.peers.manager.streams p with
  | none => r
  | some s =>
    { peers := r.peers.onMedia p m
      heard := Function.update r.heard (s.streamType, s.streamName)
        (r.heard (s.streamType, s.streamName) ++ [m]) }

/-- One event of the transport of that name, with the packets that it brings. -/
def dtlsEvent (opening : Opening) (a : Nat) (transportName : Text) (e : DtlsInput)
    (pc : PeerConnection) (r : Rooms) : Rooms :=
  let r' := { r with peers := r.peers.store a (pc.dtlsEvent opening transportName e) }
  match r.peers.owner a, pc.getDtlsSrtpTransport transportName with
  | some p, some t => (newMedia t (t.dtlsEvent opening e)).foldl (receive p) r'
  | _, _ => r'

/-- One event; `none` where it cannot happen. -/
def step (opening : Opening) (r : Rooms) : RoomEvent → Option Rooms
  | .operation o a certificate s =>
    (r.peers.operate o a certificate s).map fun peers => { r with peers }
  | .dtls a transportName e =>
    (r.peers.pcs a).map fun pc => r.dtlsEvent opening a transportName e pc
  | .destroyTimer a => (r.peers.destroyTimerCb a).map fun peers => { r with peers }

end Rooms

def RoomSteps (opening : Opening) (r : Rooms) (e : RoomEvent) (r' : Rooms) : Prop :=
  r.step opening e = some r'

variable {opening : Opening} {h h' : Peers} {r r' : Rooms} {p q : Ptr} {a : Nat} {s u : RtcStream}
  {o : Operation} {pc pc' : PeerConnection} {media : Media}

/-! ## Who is asked -/

/-- A stream on the other side, of the same name, is asked to send the packet. -/
structure Asked (s : RtcStream) (media : Media) (h h' : Peers) (u : RtcStream) : Prop where
  streamType : u.streamType = s.streamType.other
  streamName : u.streamName = s.streamName
  rtcp : u.streamType = .kPush → ∃ data, media = .rtcp data
  sends : ∃ q a pc, h.manager.streams q = some u ∧ h.pcOf q = some a ∧ h.pcs a = some pc ∧
    h' = h.store a (pc.sendMedia media).2

lemma Hosted.handOn (hh : Hosted h) (media : Media) (ty : RtcStreamType) (n : String) :
    (h.handOn (Peers.sendMedia media) ty n).2 = h ∨
      ∃ q u a pc, h.manager.streams q = some u ∧ u.streamType = ty ∧ u.streamName = n ∧
        h.pcOf q = some a ∧ h.pcs a = some pc ∧
        (h.handOn (Peers.sendMedia media) ty n).2 = h.store a (pc.sendMedia media).2 := by
  unfold Peers.handOn
  cases hq : h.manager.findStream ty n with
  | none => exact .inl rfl
  | some q =>
    obtain ⟨u, hu, htype, hname⟩ := hh.consistent.entry ty n q hq
    obtain ⟨a, pc, ha, hpc, -⟩ := hh.live q u hu
    refine .inr ⟨q, u, a, pc, hu, htype, hname, ha, hpc, ?_⟩
    simp only [Peers.sendMedia, Peers.callPc, ha, hpc]

/-- The manager keeps a packet to itself or has it sent. -/
lemma Hosted.onMedia_cases (hh : Hosted h) (hs : h.manager.streams p = some s) (media : Media) :
    h.onMedia p media = h ∨ ∃ u, Asked s media h (h.onMedia p media) u := by
  cases media with
  | rtp data =>
    simp only [Peers.onMedia, Peers.onRtpPacketReceived, hs]
    cases htype : s.streamType with
    | kPush =>
      rcases hh.handOn (.rtp data) .kPull s.streamName with h | ⟨q, u, a, pc, hu, hty, hn, ha, hpc, h⟩
      · exact .inl h
      · refine .inr ⟨u, by rw [hty, htype]; rfl, hn, fun hpush => ?_, q, a, pc, hu, ha, hpc, h⟩
        rw [hty] at hpush
        cases hpush
    | kPull => exact .inl rfl
  | rtcp data =>
    simp only [Peers.onMedia, Peers.onRtcpPacketReceived, hs]
    cases htype : s.streamType with
    | kPush =>
      rcases hh.handOn (.rtcp data) .kPull s.streamName with
        h | ⟨q, u, a, pc, hu, hty, hn, ha, hpc, h⟩
      · exact .inl h
      · exact .inr ⟨u, by rw [hty, htype]; rfl, hn, fun _ => ⟨data, rfl⟩, q, a, pc, hu, ha, hpc, h⟩
    | kPull =>
      rcases hh.handOn (.rtcp data) .kPush s.streamName with
        h | ⟨q, u, a, pc, hu, hty, hn, ha, hpc, h⟩
      · exact .inl h
      · exact .inr ⟨u, by rw [hty, htype]; rfl, hn, fun _ => ⟨data, rfl⟩, q, a, pc, hu, ha, hpc, h⟩

/-- Two live streams do not share a peer connection. -/
lemma Hosted.pcOf_inj (hh : Hosted h) (hs : h.manager.streams p = some s)
    (hu : h.manager.streams q = some u) (hp : h.pcOf p = some a) (hq : h.pcOf q = some a) :
    p = q := by
  obtain ⟨b, pc, hb, hpc, hstream, -⟩ := hh.live p s hs
  obtain ⟨c, pc', hc, hpc', hstream', -⟩ := hh.live q u hu
  cases hp.symm.trans hb
  cases hq.symm.trans hc
  cases hpc.symm.trans hpc'
  exact hstream.symm.trans hstream'

/-! ## What a peer connection sends -/

/-- Each transport sends packets that the peer connection was asked to send. -/
def Sending (pc : PeerConnection) : Prop := ∀ t ∈ pc.transports, Sends pc.asked t.srtp

lemma asked_sendMedia (pc : PeerConnection) (media : Media) :
    (pc.sendMedia media).2.asked = pc.asked ++ [media] := by
  rw [PeerConnection.sendMedia_eq]
  split <;> rfl

lemma asked_dtlsEvent (pc : PeerConnection) (name : Text) (e : DtlsInput) :
    (pc.dtlsEvent opening name e).asked = pc.asked := by
  unfold PeerConnection.dtlsEvent
  split <;> rfl

lemma mem_setTransport {t t' : MediaTransport} (ht : t ∈ (pc.setTransport t').transports) :
    t = t' ∨ t ∈ pc.transports := by
  obtain ⟨u, hu, rfl⟩ := List.mem_map.mp ht
  split
  · exact .inl rfl
  · exact .inr hu

lemma Sending.sendMedia (hpc : Sending pc) (hsound : pc.Sound) (media : Media) :
    Sending (pc.sendMedia media).2 := by
  have hinput : media.input.media = some media := by cases media <;> rfl
  have hold : ∀ t ∈ pc.transports, Sends (pc.asked ++ [media]) t.srtp := fun t ht =>
    ⟨(hpc t ht).sent, (hpc t ht).asked.trans (List.sublist_append_left ..)⟩
  intro t ht
  rw [asked_sendMedia]
  rw [PeerConnection.sendMedia_eq] at ht
  split at ht
  · exact hold t ht
  · rename_i t' hfind
    have hmem := (mem_of_getDtlsSrtpTransport hfind).1
    rcases mem_setTransport ht with rfl | ht
    · have hsends := (takes_sendMedia (hsound t' hmem).keys media).sends (hpc t' hmem)
      rw [hinput] at hsends
      exact hsends
    · exact hold t ht

lemma Sending.dtlsEvent (hpc : Sending pc) (hsound : pc.Sound) (name : Text) (e : DtlsInput) :
    Sending (pc.dtlsEvent opening name e) := by
  intro t ht
  rw [asked_dtlsEvent]
  unfold PeerConnection.dtlsEvent at ht
  split at ht
  · exact hpc t ht
  · rename_i t' hfind
    have hmem := (mem_of_getDtlsSrtpTransport hfind).1
    rcases mem_setTransport ht with rfl | ht
    · have hsends := (@takes_srtpStep opening _ (hsound t' hmem) (.dtls e)).sends (hpc t' hmem)
      have hnone : (SrtpInput.dtls e).media = none := rfl
      rw [hnone, Option.toList_none, List.append_nil] at hsends
      exact hsends
    · exact hpc t ht

lemma asked_openedPeer (s : Surroundings) (p : Ptr) (certificate : Option Nat) (ty : RtcStreamType)
    (audio video : Bool) : (openedPeer s p certificate ty audio video).asked = [] := by
  unfold openedPeer PeerConnection.createOffer
  split <;> rfl

lemma sending_openedPeer (s : Surroundings) (p : Ptr) (certificate : Option Nat)
    (ty : RtcStreamType) (audio video : Bool) :
    Sending (openedPeer s p certificate ty audio video) := by
  intro t ht
  rw [asked_openedPeer]
  rw [transports_openedPeer] at ht
  split at ht
  · obtain ⟨mid, -, rfl⟩ := List.mem_map.mp ht
    exact sends_initial ..
  · cases ht

/-! ## Invariant -/

/-- What the peer connections were asked to send has to do with `heard` and with what was sent. -/
structure Rooms.Inv (r : Rooms) : Prop where
  hosted : Hosted r.peers
  order : ∀ p s a pc, r.peers.manager.streams p = some s → r.peers.pcOf p = some a →
    r.peers.pcs a = some pc → pc.asked.Sublist (r.heard (s.streamType.other, s.streamName))
  rtcpOnly : ∀ p s a pc, r.peers.manager.streams p = some s → r.peers.pcOf p = some a →
    r.peers.pcs a = some pc → s.streamType = .kPush → ∀ m ∈ pc.asked, ∃ data, m = .rtcp data
  sending : ∀ a pc, r.peers.pcs a = some pc → Sending pc

lemma RtcStreamType.other_other (ty : RtcStreamType) : ty.other.other = ty := by
  cases ty <;> rfl

lemma Rooms.inv_initial : Rooms.initial.Inv where
  hosted := hosted_initial
  order p s a pc h := by cases h
  rtcpOnly p s a pc h := by cases h
  sending a pc h := by cases h

/-- A list that one key has a packet more of. -/
lemma update_snoc {κ : Type*} [DecidableEq κ] (f : κ → List Media) (key : κ) (media : Media)
    (k : κ) : Function.update f key (f key ++ [media]) k =
      f k ++ if k = key then [media] else [] := by
  rw [Function.update_apply]
  split
  · rename_i hk
    rw [hk]
  · rw [List.append_nil]

/-- A packet that the manager keeps to itself. -/
lemma Rooms.Inv.hear (hr : r.Inv) (key : RtcStreamType × String) (media : Media) :
    Rooms.Inv { r with heard := Function.update r.heard key (r.heard key ++ [media]) } where
  hosted := hr.hosted
  order p s a pc hs ha hpc := by
    dsimp only
    rw [update_snoc]
    exact (hr.order p s a pc hs ha hpc).trans (List.sublist_append_left ..)
  rtcpOnly := hr.rtcpOnly
  sending := hr.sending

/-- A stream is asked to send a packet that was handed up for `s`. -/
lemma Rooms.Inv.ask (hr : r.Inv) (hasked : Asked s media r.peers h' u) :
    Rooms.Inv
      { peers := h'
        heard := Function.update r.heard (s.streamType, s.streamName)
          (r.heard (s.streamType, s.streamName) ++ [media]) } := by
  obtain ⟨q, b, pb, hu, hq, hb, rfl⟩ := hasked.sends
  have hsound := hr.hosted.sound b pb hb
  have hheard : ∀ key, (r.heard key).Sublist (Function.update r.heard (s.streamType, s.streamName)
      (r.heard (s.streamType, s.streamName) ++ [media]) key) := by
    intro key
    rw [update_snoc]
    exact List.sublist_append_left ..
  have hsame : ∀ p s', r.peers.manager.streams p = some s' → r.peers.pcOf p = some b →
      s' = u := by
    intro p s' hs' hp
    cases hr.hosted.pcOf_inj hs' hu hp hq
    exact Option.some.inj (hs'.symm.trans hu)
  constructor
  · exact hr.hosted.store hb (hsound.follows_sendMedia media)
  · intro p s' a pc hs' ha hpc
    rcases update_some_eq_some hpc with ⟨rfl, rfl⟩ | ⟨-, hpc⟩
    · cases hsame p s' hs' ha
      rw [asked_sendMedia]
      dsimp only
      rw [hasked.streamType, hasked.streamName, RtcStreamType.other_other, update_snoc, if_pos rfl]
      have horder := hr.order p u a pb hs' ha hb
      rw [hasked.streamType, hasked.streamName, RtcStreamType.other_other] at horder
      exact horder.append (.refl _)
    · exact (hr.order p s' a pc hs' ha hpc).trans (hheard _)
  · intro p s' a pc hs' ha hpc hpush m hm
    rcases update_some_eq_some hpc with ⟨rfl, rfl⟩ | ⟨-, hpc⟩
    · cases hsame p s' hs' ha
      rw [asked_sendMedia] at hm
      rcases List.mem_append.mp hm with hm | hm
      · exact hr.rtcpOnly p u a pb hs' ha hb hpush m hm
      · cases List.mem_singleton.mp hm
        exact hasked.rtcp hpush
    · exact hr.rtcpOnly p s' a pc hs' ha hpc hpush m hm
  · intro a pc hpc
    rcases update_some_eq_some hpc with ⟨rfl, rfl⟩ | ⟨-, hpc⟩
    · exact (hr.sending a pb hb).sendMedia hsound media
    · exact hr.sending a pc hpc

lemma Rooms.Inv.receive (hr : r.Inv) (p : Ptr) (media : Media) : (r.receive p media).Inv := by
  unfold Rooms.receive
  cases hs : r.peers.manager.streams p with
  | none => exact hr
  | some s =>
    dsimp only
    rcases hr.hosted.onMedia_cases hs media with hsame | ⟨u, hasked⟩
    · rw [hsame]
      exact hr.hear _ media
    · exact hr.ask hasked

lemma Rooms.Inv.dtlsEvent (hr : r.Inv) (ha : r.peers.pcs a = some pc) (name : Text)
    (e : DtlsInput) : (r.dtlsEvent opening a name e pc).Inv := by
  have hsound := hr.hosted.sound a pc ha
  have hstore : Rooms.Inv { r with peers := r.peers.store a (pc.dtlsEvent opening name e) } := by
    refine ⟨hr.hosted.store ha (hsound.follows_dtlsEvent opening name e),
      fun p s b pb hs hp hb => ?_, fun p s b pb hs hp hb => ?_, fun b pb hb => ?_⟩
    · rcases update_some_eq_some hb with ⟨rfl, rfl⟩ | ⟨-, hb⟩
      · rw [asked_dtlsEvent]
        exact hr.order p s b pc hs hp ha
      · exact hr.order p s b pb hs hp hb
    · rcases update_some_eq_some hb with ⟨rfl, rfl⟩ | ⟨-, hb⟩
      · rw [asked_dtlsEvent]
        exact hr.rtcpOnly p s b pc hs hp ha
      · exact hr.rtcpOnly p s b pb hs hp hb
    · rcases update_some_eq_some hb with ⟨rfl, rfl⟩ | ⟨-, hb⟩
      · exact (hr.sending b pc ha).dtlsEvent hsound name e
      · exact hr.sending b pb hb
  unfold Rooms.dtlsEvent
  dsimp only
  split
  · rename_i p t hp ht
    exact List.foldlRecOn _ (Rooms.receive p) hstore fun r hr media _ => hr.receive p media
  · exact hstore

lemma Rooms.Inv.destroyTimer (hr : r.Inv) (opening : Opening)
    (hstep : r.peers.destroyTimerCb a = some h') : Rooms.Inv { r with peers := h' } := by
  have hpeers : PeerStep opening r.peers (.destroyTimer a) h' := hstep
  have hhosted := hr.hosted.step hpeers
  obtain ⟨pc, ha, hstep⟩ := Option.bind_eq_some_iff.mp hstep
  obtain ⟨-, hstep⟩ := Option.ite_none_left_eq_some.mp hstep
  cases hstep
  exact ⟨hhosted,
    fun p s b pb hs hp hb => hr.order p s b pb hs hp (update_none_eq_some hb).2,
    fun p s b pb hs hp hb => hr.rtcpOnly p s b pb hs hp (update_none_eq_some hb).2,
    fun b pb hb => hr.sending b pb (update_none_eq_some hb).2⟩

/-- A new stream starts with nothing asked of it; the others keep their peer connections. -/
lemma Rooms.Inv.operation {certificate : Option Nat} {s : Surroundings} (hr : r.Inv)
    (ho : r.peers.operate o a certificate s = some h') : Rooms.Inv { r with peers := h' } := by
  have hhosted := hr.hosted.operate ho
  obtain ⟨-, ⟨hkeeps, hpcOf, hpcs⟩ | ⟨p, u, hfree, hu, hkeeps, hpcOf, hpcs⟩⟩ := operate_cases ho
  · refine ⟨hhosted, fun q v b pb hv hb hpb => ?_, fun q v b pb hv hb hpb hpush => ?_,
      fun b pb hpb => ?_⟩
    · obtain ⟨w, hw, hsame⟩ := hkeeps.same q v hv
      rw [← hsame.streamType, ← hsame.streamName]
      exact hr.order q w b pb hw (hpcOf ▸ hb) (hpcs ▸ hpb)
    · obtain ⟨w, hw, hsame⟩ := hkeeps.same q v hv
      exact hr.rtcpOnly q w b pb hw (hpcOf ▸ hb) (hpcs ▸ hpb) (hsame.streamType.trans hpush)
    · exact hr.sending b pb (hpcs ▸ hpb)
  · -- The place of the new peer connection was free, so no older stream has it.
    have hcases : ∀ q v b pb, h'.manager.streams q = some v → h'.pcOf q = some b →
        h'.pcs b = some pb → pb.asked = [] ∨ ∃ w, r.peers.manager.streams q = some w ∧
          SameStream w v ∧ r.peers.pcOf q = some b ∧ r.peers.pcs b = some pb := by
      intro q v b pb hv hb hpb
      rw [hpcs] at hpb
      rcases update_some_eq_some hpb with ⟨-, rfl⟩ | ⟨hba, hpb⟩
      · exact .inl (asked_openedPeer ..)
      · rw [hpcOf] at hb
        rcases update_some_eq_some hb with ⟨-, rfl⟩ | ⟨hq, hb⟩
        · exact absurd rfl hba
        · obtain ⟨w, hw, hsame⟩ := hkeeps q v hq hv
          exact .inr ⟨w, hw, hsame, hb, hpb⟩
    refine ⟨hhosted, fun q v b pb hv hb hpb => ?_, fun q v b pb hv hb hpb hpush => ?_,
      fun b pb hpb => ?_⟩
    · rcases hcases q v b pb hv hb hpb with hnil | ⟨w, hw, hsame, hb, hpb⟩
      · rw [hnil]
        exact List.nil_sublist _
      · rw [← hsame.streamType, ← hsame.streamName]
        exact hr.order q w b pb hw hb hpb
    · rcases hcases q v b pb hv hb hpb with hnil | ⟨w, hw, hsame, hb, hpb⟩
      · rw [hnil]
        exact fun _ h => absurd h List.not_mem_nil
      · exact hr.rtcpOnly q w b pb hw hb hpb (hsame.streamType.trans hpush)
    · rw [hpcs] at hpb
      rcases update_some_eq_some hpb with ⟨-, rfl⟩ | ⟨-, hpb⟩
      · exact sending_openedPeer _ _ _ _ _ _
      · exact hr.sending b pb hpb

lemma Rooms.Inv.step {e : RoomEvent} (hr : r.Inv) (hstep : RoomSteps opening r e r') : r'.Inv := by
  cases e with
  | operation o a certificate s =>
    obtain ⟨h', ho, rfl⟩ := Option.map_eq_some_iff.mp hstep
    exact hr.operation ho
  | dtls a name e =>
    obtain ⟨pc, ha, rfl⟩ := Option.map_eq_some_iff.mp hstep
    exact hr.dtlsEvent ha name e
  | destroyTimer a =>
    obtain ⟨h', hdestroy, rfl⟩ := Option.map_eq_some_iff.mp hstep
    exact hr.destroyTimer opening hdestroy

theorem reachable_rooms (hr : Reachable (RoomSteps opening) Rooms.initial r) : r.Inv :=
  hr.invariant Rooms.inv_initial fun _ _ _ hr hstep => hr.step hstep

/-- What the peer connection of a stream is asked to send are packets that were handed up for the
streams of the other type and the same name, in their order and none twice, a push stream is asked
for RTCP alone, and what a transport of it sends are results of libsrtp for such packets, each for
one of its own. -/
theorem rooms_isolated (hr : Reachable (RoomSteps opening) Rooms.initial r)
    (hs : r.peers.manager.streams p = some s) :
    ∃ a pc, r.peers.pcOf p = some a ∧ r.peers.pcs a = some pc ∧ pc.stream = p ∧
      pc.asked.Sublist (r.heard (s.streamType.other, s.streamName)) ∧
      (s.streamType = .kPush → ∀ m ∈ pc.asked, ∃ data, m = .rtcp data) ∧
      ∀ t ∈ pc.transports, Sends pc.asked t.srtp ∧ t.srtp.sent.length ≤ pc.asked.length := by
  have hinv := reachable_rooms hr
  obtain ⟨a, pc, ha, hpc, hstream, -⟩ := hinv.hosted.live p s hs
  exact ⟨a, pc, ha, hpc, hstream, hinv.order p s a pc hs ha hpc, hinv.rtcpOnly p s a pc hs ha hpc,
    fun t ht => ⟨hinv.sending a pc hpc t ht, (hinv.sending a pc hpc t ht).length_le⟩⟩

/-- Two rooms of the same two users; a packet comes in for the push stream of the first. -/
def sampleRooms : List RoomEvent :=
  let s : Surroundings := { libsrtp := fun _ n _ _ => some [n.toUInt8] }
  [.operation (.createPush 1 1 "live" true true 0) 1 (some 0) s,
    .operation (.createPull 2 2 "live" true true 0) 2 (some 0) s,
    .operation (.createPush 3 1 "news" true true 0) 3 (some 0) s,
    .operation (.createPull 4 2 "news" true true 0) 4 (some 0) s] ++
  ([1, 2, 3, 4].flatMap fun a =>
    [.dtls a "audio".toList (.remoteFingerprint "sha-256".toList [1] {}),
      .dtls a "audio".toList (.iceWritable true {}),
      .dtls a "audio".toList (.dtlsEvent [.opened])]) ++
  [.dtls 1 "audio".toList (.packet (128 :: List.replicate 11 0) {})]

def afterRooms : Rooms :=
  (sampleRooms.foldlM (Rooms.step unwired.toOpening) Rooms.initial).getD Rooms.initial

lemma reachable_afterRooms :
    Reachable (RoomSteps unwired.toOpening) Rooms.initial afterRooms := by
  have hrun : (sampleRooms.foldlM (Rooms.step unwired.toOpening) Rooms.initial).isSome = true := by
    decide
  obtain ⟨r, hr⟩ := Option.isSome_iff_exists.mp hrun
  have hafter : afterRooms = r := by rw [afterRooms, hr, Option.getD_some]
  rw [hafter]
  exact (leads_of_foldlM (fun _ _ _ hstep => hstep) hr).reachable

/-- The pull stream of the first room, whose peer connection is at 2, is asked to send it. -/
theorem afterRooms_isolated : (afterRooms.peers.pcs 2).map (·.asked) = some [.rtp [0]] ∧
    (afterRooms.peers.pcs 4).map (·.asked) = some [] ∧
    ∃ a pc, afterRooms.peers.pcOf 2 = some a ∧ afterRooms.peers.pcs a = some pc ∧ pc.stream = 2 ∧
      pc.asked.Sublist (afterRooms.heard (.kPush, "live")) ∧
      (RtcStreamType.kPull = .kPush → ∀ m ∈ pc.asked, ∃ data, m = .rtcp data) ∧
      ∀ t ∈ pc.transports, Sends pc.asked t.srtp ∧ t.srtp.sent.length ≤ pc.asked.length :=
  ⟨by decide, by decide, rooms_isolated (s := ⟨.kPull, 2, "live", true, true, 0, .kNew, none, true⟩)
    reachable_afterRooms (by decide)⟩

end XrtcServer.Stream
