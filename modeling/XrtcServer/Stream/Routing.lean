import XrtcServer.Pc.Handshake
import XrtcServer.Stream.Peers

/-!
# Where the packets of a stream go

Both functions that send a packet look the transport up under the name of the audio content. A
stream of audio, or of audio and video, has its one transport under that name; a stream of video
alone does not.
-/

namespace XrtcServer.Stream
open XrtcServer.Base XrtcServer.Core XrtcServer.Pc RtcStreamManager

variable {opening : Opening} {h : Peers} {p q : Ptr} {s u : RtcStream} {n : String} {media : Media}

/-- The stream at `p` has an active SRTP transport. -/
def Peers.Active (h : Peers) (p : Ptr) : Prop :=
  ∃ a pc, h.pcOf p = some a ∧ h.pcs a = some pc ∧ ∃ t ∈ pc.transports, t.srtp.isSrtpActive = true

/-- The result `r` of handling a packet: `send_rtp` or `send_rtcp` of the peer connection of the
stream at `q` was called with it, its SRTP transport passed it through libsrtp once, as what it is,
and nothing else happened. -/
def Handed (media : Media) (h : Peers) (q : Ptr) (r : Option Bytes × Peers) : Prop :=
  ∃ a pc t t', h.pcOf q = some a ∧ h.pcs a = some pc ∧ pc.transports = [t] ∧
    t.Passes media r.1 t' ∧ r.2 = h.store a { pc.ask media with transports := [t'] } ∧
    ∀ q', (h.manager.streams q').isSome → h.pcOf q' = some a → q' = q

/-- The packets of the push stream at `p` go to the pull stream at `q`, and RTCP also the other
way. -/
structure Routed (h : Peers) (p q : Ptr) : Prop where
  rtp : ∀ data, Handed (.rtp data) h q (h.onRtpPacketReceived p data)
  rtcpFromPush : ∀ data, Handed (.rtcp data) h q (h.onRtcpPacketReceived p data)
  rtcpFromPull : ∀ data, Handed (.rtcp data) h p (h.onRtcpPacketReceived q data)

lemma Hosted.owner (hh : Hosted h) {a : Nat} {pc : PeerConnection}
    (hs : h.manager.streams q = some s) (ha : h.pcOf q = some a) (hpc : h.pcs a = some pc) :
    pc.stream = q := by
  obtain ⟨b, pb, hb, hpb, hstream, -⟩ := hh.live q s hs
  cases ha.symm.trans hb
  cases hpc.symm.trans hpb
  exact hstream

/-- An active stream has one transport, which is named after its first media. -/
lemma Hosted.active_names (hh : Hosted h) (hu : h.manager.streams q = some u)
    (hactive : h.Active q) : ∃ a pc t, h.pcOf q = some a ∧ h.pcs a = some pc ∧
      pc.transports = [t] ∧ t.srtp.isSrtpActive = true ∧ SrtpInv (t.dtls, t.srtp) ∧
      [t.transportName] = mediaNames u.audio u.video := by
  obtain ⟨a, pc, ha, hpc, t, ht, htactive⟩ := hactive
  obtain ⟨b, pb, hb, hpb, -, hnames⟩ := hh.live q u hu
  cases ha.symm.trans hb
  cases hpc.symm.trans hpb
  have hne : pc.transports.map (·.transportName) ≠ [] := by
    simpa using List.ne_nil_of_mem ht
  have hmedia := hnames.resolve_left hne
  have hlen : (mediaNames u.audio u.video).length ≤ 1 := by
    unfold mediaNames
    split
    · simp
    · split <;> simp
  rw [← hmedia, List.length_map] at hlen
  obtain ⟨t', ht'⟩ := List.length_eq_one_iff.mp
    (le_antisymm hlen (List.length_pos_of_mem ht))
  rw [ht', List.mem_singleton] at ht
  subst ht
  refine ⟨a, pc, t, ha, hpc, ht', htactive, hh.sound a pc hpc t (by simp [ht']), ?_⟩
  rw [← hmedia, ht']
  rfl

lemma mediaNames_eq_audio {name : Text} {audio video : Bool}
    (h : [name] = mediaNames audio video) : name = "audio".toList ↔ audio = true := by
  cases audio with
  | true => exact iff_of_true (List.singleton_inj.mp h) rfl
  | false =>
    cases video with
    | true =>
      have hvideo : name = Sdp.MediaType.video.mid := List.singleton_inj.mp h
      have hne : Sdp.MediaType.video.mid ≠ Sdp.MediaType.audio.mid :=
        mt Sdp.MediaType.mid_inj.mp (by decide)
      exact iff_of_false (fun haudio => hne (hvideo.symm.trans haudio)) Bool.false_ne_true
    | false => cases h

/-- A packet reaches the transport of an active stream exactly where the stream has audio. -/
lemma Hosted.handed_iff (hh : Hosted h) (hu : h.manager.streams q = some u)
    (hactive : h.Active q) : Handed media h q (h.sendMedia media q) ↔ u.audio = true := by
  obtain ⟨a, pc, t, ha, hpc, ht, htactive, hinv, hname⟩ := hh.active_names hu hactive
  have hpasses := MediaTransport.passes hinv htactive media
  have hfind : pc.getDtlsSrtpTransport "audio".toList =
      if t.transportName = "audio".toList then some t else none := by
    rw [PeerConnection.getDtlsSrtpTransport, ht]
    by_cases haudio : t.transportName = "audio".toList
    · simp [haudio]
    · simp only [List.find?_cons, List.find?_nil, haudio, decide_false, if_false]
  have hsend : h.sendMedia media q =
      ((pc.sendMedia media).1, h.store a (pc.sendMedia media).2) := by
    rw [Peers.sendMedia, Peers.callPc, ha]
    dsimp only
    rw [hpc]
  rw [← mediaNames_eq_audio hname]
  constructor
  · rintro ⟨b, pb, t₁, t₂, hb, hpb, ht₁, hpass, hr, -⟩
    cases ha.symm.trans hb
    cases hpc.symm.trans hpb
    cases ht.symm.trans ht₁
    by_contra hne
    have hnone : pc.sendMedia media = (none, pc.ask media) := by
      rw [PeerConnection.sendMedia_eq, hfind, if_neg hne]
    have hpcs := congrArg (fun h => (h.pcs a).map PeerConnection.transports)
      ((congrArg Prod.snd hsend).symm.trans hr)
    simp only [hnone, Peers.store, Function.update_self, Option.map_some, Option.some.injEq] at hpcs
    have hsame : t₂ = t := List.singleton_inj.mp (hpcs.symm.trans ht)
    obtain ⟨u, -, -, -, ht₂⟩ := hpass.sends
    have hpackets := congrArg (fun t => t.srtp.packets) (hsame.symm.trans ht₂)
    exact absurd hpackets (Nat.ne_of_lt (Nat.lt_succ_self _))
  · intro haudio
    have hpcsend : pc.sendMedia media = ((t.sendMedia media).1,
        { pc.ask media with transports := [(t.sendMedia media).2] }) := by
      have hkeep : t.transportName = (t.sendMedia media).2.transportName := rfl
      rw [PeerConnection.sendMedia_eq, hfind, if_pos haudio]
      simp only [PeerConnection.setTransport, PeerConnection.ask, ht, List.map_cons, List.map_nil]
      rw [if_pos hkeep]
    refine ⟨a, pc, t, (t.sendMedia media).2, ha, hpc, ht, ?_, ?_, fun q' hq' hqa => ?_⟩
    · rw [hsend, hpcsend]
      exact hpasses
    · rw [hsend, hpcsend]
    · obtain ⟨v, hv⟩ := Option.isSome_iff_exists.mp hq'
      rw [← hh.owner hv hqa hpc, hh.owner hu ha hpc]

/-- The packets of two registered streams reach each other exactly where both have audio. -/
theorem routed_iff (hr : Reachable (PeerStep opening) Peers.initial h)
    (hp : h.manager.pushStreams n = some p) (hq : h.manager.pullStreams n = some q)
    (hs : h.manager.streams p = some s) (hu : h.manager.streams q = some u)
    (hpactive : h.Active p) (hqactive : h.Active q) :
    Routed h p q ↔ s.audio = true ∧ u.audio = true := by
  have hh := reachable_hosted hr
  obtain ⟨s', hs', htype, hname⟩ := hh.consistent.entry .kPush n p hp
  obtain ⟨u', hu', htype', hname'⟩ := hh.consistent.entry .kPull n q hq
  cases hs.symm.trans hs'
  cases hu.symm.trans hu'
  have hrtp : ∀ data, h.onRtpPacketReceived p data = h.sendMedia (.rtp data) q := by
    intro data
    simp only [Peers.onRtpPacketReceived, hs, htype, Peers.handOn, findStream, mapOf, hname, hq]
    rfl
  have hpush : ∀ data, h.onRtcpPacketReceived p data = h.sendMedia (.rtcp data) q := by
    intro data
    simp only [Peers.onRtcpPacketReceived, hs, htype, Peers.handOn, findStream, mapOf, hname, hq]
    rfl
  have hpull : ∀ data, h.onRtcpPacketReceived q data = h.sendMedia (.rtcp data) p := by
    intro data
    simp only [Peers.onRtcpPacketReceived, hu, htype', Peers.handOn, findStream, mapOf, hname', hp]
    rfl
  constructor
  · intro hrouted
    have hto := hrouted.rtcpFromPull []
    have hfrom := hrouted.rtp []
    rw [hpull] at hto
    rw [hrtp] at hfrom
    exact ⟨(hh.handed_iff hs hpactive).mp hto, (hh.handed_iff hu hqactive).mp hfrom⟩
  · rintro ⟨haudio, haudio'⟩
    constructor
    · intro data
      rw [hrtp]
      exact (hh.handed_iff hu hqactive).mpr haudio'
    · intro data
      rw [hpush]
      exact (hh.handed_iff hu hqactive).mpr haudio'
    · intro data
      rw [hpull]
      exact (hh.handed_iff hs hpactive).mpr haudio

/-- A push and a pull stream of one name are made, and the handshake of each is run to its end. -/
def roomRun (audio video : Bool) : List PeerEvent :=
  [.operation (.createPush 1 1 "live" audio video 0) 1 (some 0) {},
    .operation (.createPull 2 2 "live" audio video 0) 2 (some 0) {}] ++
  [1, 2].flatMap fun a => (mediaNames audio video).flatMap fun name =>
    [.dtls a name (.remoteFingerprint "sha-256".toList [1] {}),
      .dtls a name (.iceWritable true {}), .dtls a name (.dtlsEvent [.opened])]

/-- The state that the run leads to. -/
def room (audio video : Bool) : Peers :=
  ((roomRun audio video).foldlM (Peers.step unwired.toOpening) Peers.initial).getD Peers.initial

lemma reachable_room (audio video : Bool) (hrun : ((roomRun audio video).foldlM
    (Peers.step unwired.toOpening) Peers.initial).isSome = true) :
    Reachable (PeerStep unwired.toOpening) Peers.initial (room audio video) := by
  obtain ⟨h, hh⟩ := Option.isSome_iff_exists.mp hrun
  have hroom : room audio video = h := by rw [room, hh, Option.getD_some]
  rw [hroom]
  exact (leads_of_foldlM (fun _ _ _ hstep => hstep) hh).reachable

lemma active_of_any (hany : ((h.pcOf p).bind h.pcs).any
    (fun pc => pc.transports.any fun t => t.srtp.isSrtpActive) = true) : h.Active p := by
  obtain ⟨pc, hpc, hactive⟩ := Option.any_eq_true _ _ |>.mp hany
  obtain ⟨a, ha, hpc⟩ := Option.bind_eq_some_iff.mp hpc
  obtain ⟨t, ht, hactive⟩ := List.any_eq_true.mp hactive
  exact ⟨a, pc, ha, hpc, t, ht, hactive⟩

theorem audioRoom_routed :
    (room true true).manager.pushStreams "live" = some 1 ∧
      (room true true).manager.pullStreams "live" = some 2 ∧ Routed (room true true) 1 2 := by
  refine ⟨by decide, by decide, (routed_iff (n := "live")
    (reachable_room true true ?_) ?_ ?_ (s := ⟨.kPush, 1, "live", true, true, 0, .kNew, none, true⟩)
    (u := ⟨.kPull, 2, "live", true, true, 0, .kNew, none, true⟩) ?_ ?_ ?_ ?_).mpr ⟨rfl, rfl⟩⟩
  · decide
  · decide
  · decide
  · decide
  · decide
  · exact active_of_any (by decide)
  · exact active_of_any (by decide)

/-- Two streams of video alone: no packet of one reaches the other. -/
theorem videoRoom_not_routed :
    Reachable (PeerStep unwired.toOpening) Peers.initial (room false true) ∧
      (room false true).manager.pushStreams "live" = some 1 ∧
      (room false true).manager.pullStreams "live" = some 2 ∧
      (room false true).Active 1 ∧ (room false true).Active 2 ∧ ¬ Routed (room false true) 1 2 := by
  have hreach := reachable_room false true (by decide)
  have hactive : (room false true).Active 2 := active_of_any (by decide)
  refine ⟨hreach, by decide, by decide, active_of_any (by decide), hactive, fun hrouted => ?_⟩
  have hpull : (room false true).manager.streams 2 =
      some ⟨.kPull, 2, "live", false, true, 0, .kNew, none, true⟩ := by decide
  have hrtp : (room false true).onRtpPacketReceived 1 [] =
      (room false true).sendMedia (.rtp []) 2 := rfl
  have hhanded := hrouted.rtp []
  rw [hrtp, (reachable_hosted hreach).handed_iff hpull hactive] at hhanded
  cases hhanded

end XrtcServer.Stream
