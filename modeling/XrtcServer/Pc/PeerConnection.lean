import XrtcServer.Pc.MediaPackets
import XrtcServer.Sdp.Description
import XrtcServer.Stream.Manager

/-!
# Peer connections and their offers

A `PeerConnection` writes an offer, and its `TransportController` makes a transport for each content
of the offer that does not share the transport of another. Transports are looked up by name when a
packet is sent.
-/

namespace XrtcServer.Pc
open XrtcServer.Base XrtcServer.Sdp XrtcServer.Stream

structure RTCOfferAnswerOptions where
  recvAudio : Bool := true
  recvVideo : Bool := true
  sendAudio : Bool := true
  sendVideo : Bool := true
  useRtpMux : Bool := true
  useRtcpMux : Bool := true
  dtlsOn : Bool := true
  deriving DecidableEq, Repr

/-- The options of `PushStream::create_offer` and `PullStream::create_offer`. -/
def offerOptions (type : RtcStreamType) (audio video : Bool) : RTCOfferAnswerOptions :=
  match type with
  | .kPush =>
    { sendAudio := false, sendVideo := false, recvAudio := audio, recvVideo := video }
  | .kPull =>
    { sendAudio := audio, sendVideo := video, recvAudio := false, recvVideo := false }

/-- What the making of an offer reads from elsewhere: the random ICE credentials, the fingerprint of
the certificate, the tracks of the push stream, the candidates that each channel signals, the crypto
suites, and what adapters and libsrtp will answer to each transport. -/
structure Surroundings where
  iceUfrag : Text := []
  icePwd : Text := []
  fingerprint : Option SSLFingerprint := none
  audioSource : List StreamParams := []
  videoSource : List StreamParams := []
  gathered : Text → Option (List Candidate) := fun _ => none
  srtpCiphers : List Nat := [1]
  answers : Text → Nat → SetupAnswers := fun _ _ => {}
  libsrtp : Text → Nat → SrtpFunction → Bytes → Option Bytes := fun _ _ _ _ => none

/-- A DTLS transport and the SRTP transport over it, by the name that both maps have them under. -/
structure MediaTransport where
  transportName : Text
  dtls : DtlsTransport
  srtp : DtlsSrtpTransport

/-- A `PeerConnection` with its `TransportController`. -/
structure PeerConnection where
  /-- The stream whose slots the signals are connected to. -/
  stream : Stream.Ptr
  certificate : Option Nat
  /-- `_local_certificate` of the controller. -/
  localCertificate : Option Nat
  localDesc : Option SessionDescription := none
  transports : List MediaTransport := []
  /-- The packets that `send_rtp` and `send_rtcp` were called with. -/
  asked : List Media := []

def getDirection (send recv : Bool) : RtpDirection :=
  if send && recv then .sendRecv
  else if send && !recv then .sendOnly
  else if !send && recv then .recvOnly
  else .inactive

section offer

variable (s : Surroundings)

/-- `add_transport_info` of an offer, which fails where the certificate gives no fingerprint. -/
def addTransportInfo (mid : Text) (certificate : Option Nat) (d : SessionDescription) :
    SessionDescription :=
  if certificate.isSome && s.fingerprint.isNone then d
  else
    { d with transportInfos := d.transportInfos ++
      [{ mid, iceUfrag := s.iceUfrag, icePwd := s.icePwd,
         identityFingerprint := if certificate.isSome then s.fingerprint else none,
         connectionRole := .actpass }] }

/-- The branch of `create_offer` for one type of media. -/
def offerMedia (type : MediaType) (send recv rtcpMux : Bool) (source : List StreamParams)
    (certificate : Option Nat) (d : SessionDescription) : SessionDescription :=
  if recv || send then
    addTransportInfo s type.mid certificate
      { d with contents := d.contents ++
        [{ type, direction := getDirection send recv, rtcpMux,
           streams := if send then source else [] }] }
  else d

/-- The group of all contents. -/
def offerBundle (d : SessionDescription) : SessionDescription :=
  let group := d.contents.foldl (fun g content => g.addContentName content.type.mid)
    { semantics := SessionDescription.bundle }
  if group.contentNames = [] then d
  else { d with contentGroups := d.contentGroups ++ [group] }

/-- The description that `create_offer` makes. -/
def offerDescription (options : RTCOfferAnswerOptions) (certificate : Option Nat) :
    SessionDescription :=
  let d := offerMedia s .audio options.sendAudio options.recvAudio options.useRtcpMux
    s.audioSource certificate {}
  let d := offerMedia s .video options.sendVideo options.recvVideo options.useRtcpMux
    s.videoSource certificate d
  if options.useRtpMux then offerBundle d else d

/-- The contents that `set_local_description` makes a transport for. -/
def transportNames (d : SessionDescription) : List Text :=
  (d.contents.map (·.type.mid)).filter fun mid =>
    !(d.isBundle mid && some mid ≠ d.getFirstBundleMid)

/-- `on_candidate_allocate_done`: the first content of that name takes the candidates. -/
def addCandidates (transportName : Text) (candidates : List Candidate) :
    List MediaContentDescription → List MediaContentDescription
  | [] => []
  | content :: contents =>
    if content.type.mid = transportName then { content with candidates } :: contents
    else content :: addCandidates transportName candidates contents

/-- `gathering_candidate` of the channels that were made. -/
def gatheringCandidate (names : List Text) (d : SessionDescription) : SessionDescription :=
  names.foldl (fun d name =>
    match s.gathered name with
    | none => d
    | some candidates => { d with contents := addCandidates name candidates d.contents }) d

/-- A transport of `set_local_description`. -/
def newTransport (certificate : Option Nat) (transportName : Text) : MediaTransport :=
  let dtls := .initial false s.srtpCiphers certificate
  { transportName, dtls
    srtp := .initial dtls (s.answers transportName) (s.libsrtp transportName) }

/-- `_add_dtls_transport` and `_add_dtls_srtp_transport`: a transport of that name is replaced. -/
def addTransport (transports : List MediaTransport) (t : MediaTransport) : List MediaTransport :=
  transports.filter (·.transportName ≠ t.transportName) ++ [t]

end offer

namespace PeerConnection

variable (s : Surroundings)

/-- A `PeerConnection` of the stream at `p` after `init`. -/
def init (p : Stream.Ptr) (certificate : Option Nat) : PeerConnection where
  stream := p
  certificate := certificate
  localCertificate := certificate

def setLocalDescription (d : SessionDescription) (pc : PeerConnection) : PeerConnection :=
  let names := transportNames d
  { pc with
    transports := (names.map (newTransport s pc.localCertificate)).foldl addTransport pc.transports
    localDesc := some (gatheringCandidate s names d) }

def createOffer (options : RTCOfferAnswerOptions) (pc : PeerConnection) : Text × PeerConnection :=
  if options.dtlsOn && pc.certificate.isNone then ([], pc)
  else
    let pc := pc.setLocalDescription s (offerDescription s options pc.certificate)
    ((pc.localDesc.map SessionDescription.toText).getD [], pc)

/-- `_get_dtls_srtp_transport` -/
def getDtlsSrtpTransport (pc : PeerConnection) (transportName : Text) : Option MediaTransport :=
  pc.transports.find? (·.transportName = transportName)

/-- The transports of that name become `t`. -/
def setTransport (t : MediaTransport) (pc : PeerConnection) : PeerConnection :=
  { pc with transports := pc.transports.map fun u =>
      if u.transportName = t.transportName then t else u }

end PeerConnection

/-- An event of the DTLS transport, which the SRTP transport takes part in. -/
def MediaTransport.dtlsEvent (opening : Opening) (e : DtlsInput) (t : MediaTransport) :
    MediaTransport :=
  let (dtls, srtp) := srtpStep opening (t.dtls, t.srtp) (.dtls e)
  { t with dtls, srtp }

namespace PeerConnection

/-- A call of the transport of that name; the first component is `none` where there is none. -/
def controllerSend
    (send : DtlsTransport → DtlsSrtpTransport → Option Bytes × DtlsSrtpTransport)
    (transportName : Text) (pc : PeerConnection) : Option Bytes × PeerConnection :=
  match pc.getDtlsSrtpTransport transportName with
  | none => (none, pc)
  | some t =>
    let (packet, srtp) := send t.dtls t.srtp
    (packet, pc.setTransport { t with srtp })

/-- `TransportController::send_rtp` -/
def controllerSendRtp (transportName : Text) (data : Bytes) (pc : PeerConnection) :=
  pc.controllerSend (fun d s => s.sendRtp d data) transportName

/-- `TransportController::send_rtcp` -/
def controllerSendRtcp (transportName : Text) (data : Bytes) (pc : PeerConnection) :=
  pc.controllerSend (fun d s => s.sendRtcp d data) transportName

/-- A call of `send_rtp` or `send_rtcp` is recorded. -/
def ask (m : Media) (pc : PeerConnection) : PeerConnection := { pc with asked := pc.asked ++ [m] }

def sendRtp (data : Bytes) (pc : PeerConnection) : Option Bytes × PeerConnection :=
  (pc.ask (.rtp data)).controllerSendRtp "audio".toList data

def sendRtcp (data : Bytes) (pc : PeerConnection) : Option Bytes × PeerConnection :=
  (pc.ask (.rtcp data)).controllerSendRtcp "audio".toList data

/-- An event of the transport of that name. -/
def dtlsEvent (opening : Opening) (transportName : Text) (e : DtlsInput) (pc : PeerConnection) :
    PeerConnection :=
  match pc.getDtlsSrtpTransport transportName with
  | none => pc
  | some t => pc.setTransport (t.dtlsEvent opening e)

end PeerConnection

/-! ## The transports of an offer -/

/-- The transport that all media of a stream share is named after the first of them. -/
def mediaNames (audio video : Bool) : List Text :=
  if audio then [MediaType.audio.mid] else if video then [MediaType.video.mid] else []

section offer

variable (s : Surroundings) {d : SessionDescription} {certificate : Option Nat}

@[simp] lemma contents_addTransportInfo (mid : Text) :
    (addTransportInfo s mid certificate d).contents = d.contents := by
  unfold addTransportInfo
  split <;> rfl

@[simp] lemma contentGroups_addTransportInfo (mid : Text) :
    (addTransportInfo s mid certificate d).contentGroups = d.contentGroups := by
  unfold addTransportInfo
  split <;> rfl

lemma contents_offerMedia (type : MediaType) (send recv rtcpMux : Bool)
    (source : List StreamParams) :
    (offerMedia s type send recv rtcpMux source certificate d).contents.map (·.type.mid) =
      d.contents.map (·.type.mid) ++ if recv || send then [type.mid] else [] := by
  unfold offerMedia
  split <;> simp

@[simp] lemma contentGroups_offerMedia (type : MediaType) (send recv rtcpMux : Bool)
    (source : List StreamParams) :
    (offerMedia s type send recv rtcpMux source certificate d).contentGroups =
      d.contentGroups := by
  unfold offerMedia
  split <;> simp

lemma foldl_addContentName (contents : List MediaContentDescription) (g : ContentGroup)
    (hnodup : (g.contentNames ++ contents.map (·.type.mid)).Nodup) :
    contents.foldl (fun g content => g.addContentName content.type.mid) g =
      { g with contentNames := g.contentNames ++ contents.map (·.type.mid) } := by
  induction contents generalizing g with
  | nil => simp
  | cons content contents ih =>
    have hnot : content.type.mid ∉ g.contentNames := by
      intro hmem
      exact (List.nodup_append.mp hnodup).2.2 _ hmem _ (by simp) rfl
    have hadd : g.addContentName content.type.mid =
        { g with contentNames := g.contentNames ++ [content.type.mid] } := by
      rw [ContentGroup.addContentName, if_neg hnot]
    rw [List.foldl_cons, hadd, ih]
    · simp
    · simpa using hnodup

/-- Where one group has all contents, the first content alone has a transport. -/
lemma transportNames_offerBundle (hgroups : d.contentGroups = [])
    (hnodup : (d.contents.map (·.type.mid)).Nodup) :
    transportNames (offerBundle d) = (d.contents.map (·.type.mid)).take 1 := by
  have hgroup := foldl_addContentName d.contents { semantics := SessionDescription.bundle } hnodup
  rw [offerBundle, hgroup]
  dsimp only
  rw [List.nil_append]
  cases hmids : d.contents.map (·.type.mid) with
  | nil => simp [transportNames, hmids]
  | cons mid mids =>
    rw [hmids, List.nodup_cons] at hnodup
    have hrest : mids.filter (fun m => !(decide (m ∈ mid :: mids) && decide (m ≠ mid))) = [] := by
      rw [List.filter_eq_nil_iff]
      intro m hm
      have hne : m ≠ mid := fun h => hnodup.1 (h ▸ hm)
      simp [hm, hne]
    rw [if_neg (List.cons_ne_nil _ _), transportNames]
    simp only [SessionDescription.isBundle, SessionDescription.getFirstBundleMid,
      SessionDescription.getGroupByName, hgroups, List.nil_append, hmids]
    simpa using hrest

lemma transportNames_offerDescription (type : RtcStreamType) (audio video : Bool) :
    transportNames (offerDescription s (offerOptions type audio video) certificate) =
      mediaNames audio video := by
  have hmids : (offerMedia s .video (offerOptions type audio video).sendVideo
      (offerOptions type audio video).recvVideo (offerOptions type audio video).useRtcpMux
      s.videoSource certificate
      (offerMedia s .audio (offerOptions type audio video).sendAudio
        (offerOptions type audio video).recvAudio (offerOptions type audio video).useRtcpMux
        s.audioSource certificate {})).contents.map (·.type.mid) =
      (if audio then [MediaType.audio.mid] else []) ++
        if video then [MediaType.video.mid] else [] := by
    rw [contents_offerMedia, contents_offerMedia]
    cases type <;> simp [offerOptions]
  have hmux : (offerOptions type audio video).useRtpMux = true := by cases type <;> rfl
  rw [offerDescription, hmux, if_pos rfl, transportNames_offerBundle (by simp), hmids]
  · cases audio <;> cases video <;> rfl
  · rw [hmids]
    cases audio <;> cases video <;> decide

lemma foldl_addTransport (new : List MediaTransport) (ts : List MediaTransport)
    (hnodup : ((ts ++ new).map (·.transportName)).Nodup) :
    new.foldl addTransport ts = ts ++ new := by
  induction new generalizing ts with
  | nil => simp
  | cons t new ih =>
    have hadd : addTransport ts t = ts ++ [t] := by
      rw [addTransport, List.filter_eq_self.mpr]
      intro u hu
      rw [List.map_append, List.nodup_append] at hnodup
      simpa using hnodup.2.2 u.transportName (List.mem_map_of_mem hu) t.transportName (by simp)
    rw [List.foldl_cons, hadd, ih]
    · simp
    · simpa using hnodup

/-- The peer connection of a stream that was just made. -/
def openedPeer (p : Stream.Ptr) (certificate : Option Nat) (type : RtcStreamType)
    (audio video : Bool) : PeerConnection :=
  ((PeerConnection.init p certificate).createOffer s (offerOptions type audio video)).2

lemma transports_openedPeer (p : Stream.Ptr) (certificate : Option Nat) (type : RtcStreamType)
    (audio video : Bool) :
    (openedPeer s p certificate type audio video).transports =
      if certificate.isSome then (mediaNames audio video).map (newTransport s certificate)
      else [] := by
  have hdtls : (offerOptions type audio video).dtlsOn = true := by cases type <;> rfl
  cases certificate with
  | none => simp [openedPeer, PeerConnection.createOffer, PeerConnection.init, hdtls]
  | some c =>
    have hnodup : (((mediaNames audio video).map (newTransport s (some c))).map
        (·.transportName)).Nodup := by
      cases audio <;> cases video <;> simp [mediaNames]
    simp only [openedPeer, PeerConnection.createOffer, PeerConnection.init,
      PeerConnection.setLocalDescription, hdtls, Option.isNone_some, Bool.and_false,
      Bool.false_eq_true, if_false, transportNames_offerDescription, Option.isSome_some, if_true]
    rw [foldl_addTransport _ [] hnodup, List.nil_append]

lemma names_openedPeer (p : Stream.Ptr) (certificate : Option Nat) (type : RtcStreamType)
    (audio video : Bool) :
    (openedPeer s p certificate type audio video).transports.map (·.transportName) = [] ∨
      (openedPeer s p certificate type audio video).transports.map (·.transportName) =
        mediaNames audio video := by
  rw [transports_openedPeer]
  split
  · right
    rw [List.map_map]
    exact List.map_id _
  · exact .inl rfl

lemma stream_openedPeer (p : Stream.Ptr) (certificate : Option Nat) (type : RtcStreamType)
    (audio video : Bool) : (openedPeer s p certificate type audio video).stream = p := by
  unfold openedPeer PeerConnection.createOffer
  split <;> rfl

end offer

/-! ## Packets and events -/

section transports

variable {t : MediaTransport} {pc : PeerConnection} {name : Text}

/-- What holds of the transports between two events. -/
def PeerConnection.Sound (pc : PeerConnection) : Prop :=
  ∀ t ∈ pc.transports, SrtpInv (t.dtls, t.srtp)

lemma sound_openedPeer (s : Surroundings) (p : Stream.Ptr) (certificate : Option Nat)
    (type : RtcStreamType) (audio video : Bool) :
    (openedPeer s p certificate type audio video).Sound := by
  intro t ht
  rw [transports_openedPeer] at ht
  split at ht
  · obtain ⟨mid, -, rfl⟩ := List.mem_map.mp ht
    exact srtpInv_initial ..
  · cases ht

/-- The certificates that a peer connection, its controller and its transports point to. -/
def PeerConnection.certificates (pc : PeerConnection) : List Nat :=
  pc.certificate.toList ++ pc.localCertificate.toList ++
    pc.transports.flatMap fun t => t.dtls.localCertificate.toList

lemma mem_certificates_openedPeer {s : Surroundings} {p : Stream.Ptr} {certificate : Option Nat}
    {type : RtcStreamType} {audio video : Bool} {c : Nat}
    (h : c ∈ (openedPeer s p certificate type audio video).certificates) :
    certificate = some c := by
  have hpc : (openedPeer s p certificate type audio video).certificate = certificate ∧
      (openedPeer s p certificate type audio video).localCertificate = certificate := by
    unfold openedPeer PeerConnection.createOffer
    split <;> exact ⟨rfl, rfl⟩
  simp only [PeerConnection.certificates, hpc.1, hpc.2, transports_openedPeer, List.mem_append,
    Option.mem_toList, or_self] at h
  rcases h with h | h
  · exact h
  · obtain ⟨t, ht, hc⟩ := List.mem_flatMap.mp h
    cases certificate with
    | none => simp at ht
    | some c' =>
      obtain ⟨mid, -, rfl⟩ := List.mem_map.mp ht
      exact Option.mem_toList.mp hc

/-- What an event leaves of a peer connection. -/
structure PeerConnection.Follows (pc pc' : PeerConnection) : Prop where
  stream : pc'.stream = pc.stream
  names : pc'.transports.map (·.transportName) = pc.transports.map (·.transportName)
  certificates : ∀ c ∈ pc'.certificates, c ∈ pc.certificates
  sound : pc'.Sound

lemma PeerConnection.Sound.follows (h : pc.Sound) : pc.Follows pc :=
  ⟨rfl, rfl, fun _ hc => hc, h⟩

lemma mem_of_getDtlsSrtpTransport (h : pc.getDtlsSrtpTransport name = some t) :
    t ∈ pc.transports ∧ t.transportName = name := by
  refine ⟨List.mem_of_find?_eq_some h, ?_⟩
  simpa using List.find?_some h

lemma PeerConnection.Sound.setTransport {t' : MediaTransport} (h : pc.Sound)
    (ht : t ∈ pc.transports) (hsound : SrtpInv (t'.dtls, t'.srtp))
    (hcertificate : t'.dtls.localCertificate = t.dtls.localCertificate) :
    pc.Follows (pc.setTransport t') := by
  refine ⟨rfl, ?_, fun c hc => ?_, fun u hu => ?_⟩
  · rw [PeerConnection.setTransport, List.map_map]
    refine List.map_congr_left fun u _ => ?_
    rw [Function.comp_apply]
    split
    · rename_i hname
      exact hname.symm
    · rfl
  · simp only [PeerConnection.certificates, PeerConnection.setTransport, List.mem_append,
      List.mem_flatMap, List.mem_map] at hc ⊢
    rcases hc with hc | ⟨_, ⟨u, hu, rfl⟩, hc⟩
    · exact .inl hc
    · right
      split at hc
      · exact ⟨t, ht, hcertificate ▸ hc⟩
      · exact ⟨u, hu, hc⟩
  · obtain ⟨v, hv, rfl⟩ := List.mem_map.mp hu
    split
    · exact hsound
    · exact h v hv

/-- `send_rtp` or `send_rtcp` of the SRTP transport. -/
def MediaTransport.sendMedia (t : MediaTransport) (m : Media) : Option Bytes × MediaTransport :=
  let (packet, srtp) := t.srtp.sendMedia t.dtls m
  (packet, { t with srtp })

/-- `send_rtp` or `send_rtcp`, as the packet is. -/
def PeerConnection.sendMedia (pc : PeerConnection) : Media → Option Bytes × PeerConnection
  | .rtp data => pc.sendRtp data
  | .rtcp data => pc.sendRtcp data

lemma PeerConnection.sendMedia_eq (pc : PeerConnection) (m : Media) : pc.sendMedia m =
    match pc.getDtlsSrtpTransport "audio".toList with
    | none => (none, pc.ask m)
    | some t => ((t.sendMedia m).1, (pc.ask m).setTransport (t.sendMedia m).2) := by
  have hget : ∀ m, (pc.ask m).getDtlsSrtpTransport "audio".toList =
      pc.getDtlsSrtpTransport "audio".toList := fun _ => rfl
  cases m <;> simp only [sendMedia, sendRtp, sendRtcp, controllerSendRtp, controllerSendRtcp,
      controllerSend, hget] <;> cases pc.getDtlsSrtpTransport "audio".toList <;> rfl

lemma PeerConnection.Sound.follows_sendMedia (h : pc.Sound) (m : Media) :
    pc.Follows (pc.sendMedia m).2 := by
  have hask : pc.Follows (pc.ask m) := ⟨rfl, rfl, fun _ hc => hc, h⟩
  rw [PeerConnection.sendMedia_eq]
  split
  · exact hask
  · rename_i t ht
    have hmem := (mem_of_getDtlsSrtpTransport ht).1
    have hinv := h t hmem
    have hsent : SrtpInv ((t.sendMedia m).2.dtls, (t.sendMedia m).2.srtp) :=
      ⟨hinv.wellFormed, hinv.fresh, hinv.keys.keep_sendMedia m⟩
    have hset := hask.sound.setTransport hmem hsent rfl
    exact ⟨hset.stream, hset.names, hset.certificates, hset.sound⟩

lemma PeerConnection.Sound.follows_dtlsEvent (h : pc.Sound) (opening : Opening) (name : Text)
    (e : DtlsInput) : pc.Follows (pc.dtlsEvent opening name e) := by
  unfold PeerConnection.dtlsEvent
  split
  · exact h.follows
  · rename_i t ht
    have hmem := (mem_of_getDtlsSrtpTransport ht).1
    have hinv := h t hmem
    have hmoves := (moves_dtlsStep (W := srtpWiring opening) (x := (t.dtls, t.srtp)) e
      hinv.wellFormed hinv.fresh).1
    exact h.setTransport hmem (hinv.step (.dtls e)) hmoves.localCertificate

/-- `t'` is `t` after one call of libsrtp, of the function that protects the packet, with the packet,
and the result went to the DTLS transport. -/
structure MediaTransport.Passes (m : Media) (packet : Option Bytes) (t t' : MediaTransport) :
    Prop where
  protect : packet = t.srtp.libsrtp t.srtp.packets m.protect m.data
  sends : ∃ u : KeyUse, u.function = m.protect ∧ u.packet = m.data ∧ u.result = packet ∧
    t' = { t with srtp := { t.srtp.called u with sent := t.srtp.sent ++ packet.toList } }

lemma MediaTransport.passes (h : SrtpInv (t.dtls, t.srtp)) (hactive : t.srtp.isSrtpActive = true)
    (m : Media) : t.Passes m (t.sendMedia m).1 (t.sendMedia m).2 := by
  obtain ⟨u, hu, heq⟩ := h.keys.sendMedia hactive m
  have hsend : t.sendMedia m = (u.result,
      { t with srtp := { t.srtp.called u with sent := t.srtp.sent ++ u.result.toList } }) := by
    rw [MediaTransport.sendMedia, heq]
  rw [hsend]
  exact ⟨hu.result, u, hu.function, hu.packet, rfl, rfl⟩

end transports

end XrtcServer.Pc
