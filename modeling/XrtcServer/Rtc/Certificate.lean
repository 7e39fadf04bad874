import XrtcServer.Signaling.Worker
import XrtcServer.Stream.Peers

/-!
# The certificate of the server

`RtcServer` holds the one counted reference to its certificate. The address goes with each message
to a worker and on to the peer connection that the message asks for. When the certificate has
expired the server takes another one in its place, and the old one is released whoever still has its
address.
-/

namespace XrtcServer.Rtc
open XrtcServer.Base XrtcServer.Core XrtcServer.Pc XrtcServer.Signaling XrtcServer.Stream

structure RTCCertificate where
  /-- `Expires()`, in milliseconds. -/
  expires : Nat
  deriving DecidableEq, Repr

def RTCCertificate.hasExpired (c : RTCCertificate) (now : Nat) : Bool := c.expires ≤ now

/-- An `RtcMsg` with its member `certificate`. -/
structure CertifiedMsg where
  msg : RtcMsg
  certificate : Option Nat
  deriving DecidableEq, Repr

structure CertifiedWorker where
  queue : List CertifiedMsg := []
  /-- The message that was taken from the queue and is being handled. -/
  inHand : Option CertifiedMsg := none
  peers : Peers := Peers.initial

/-- The RTC server thread, the RTC workers and what they have sent back to signaling workers. -/
structure CertifiedServer where
  certificates : Nat → Option RTCCertificate
  certificate : Option Nat
  workers : List CertifiedWorker
  workerNum : Nat
  /-- The messages in the queues of the signaling workers. -/
  replies : List CertifiedMsg := []

/-- A `std::string` as a key of the maps of streams. -/
def streamText (s : Bytes) : String := String.ofList (s.map fun c => Char.ofNat c.toNat)

/-- What `RtcWorker::_process_rtc_msg` calls of the stream manager, a new stream being placed at
`p`. -/
def operationOf (p : Stream.Ptr) (msg : RtcMsg) : Option Operation :=
  let name := streamText msg.streamName
  if msg.cmdno = 1 then
    some (.createPush p msg.uid name (msg.audio != 0) (msg.video != 0) (.ofNat msg.logId))
  else if msg.cmdno = 2 then
    some (.createPull p msg.uid name (msg.audio != 0) (msg.video != 0) (.ofNat msg.logId))
  else if msg.cmdno = 4 then some (.stopPush msg.uid name)
  else if msg.cmdno = 5 then some (.stopPull msg.uid name)
  else if msg.cmdno = 3 then
    some (.answer msg.uid name (streamText msg.sdp) (streamText msg.streamType))
  else none

/-- The operations that no message asks for. -/
def spontaneous : PeerEvent → Bool
  | .operation (.connectionState ..) .. => true
  | .operation (.iceTimeout _) .. => true
  | .operation .. => false
  | _ => true

/-- What happens to the certificates, the messages and the streams. -/
inductive CertifiedEvent
  /-- The server handles a message when it is `now`; `generated` is what `GenerateCertificate`
  returns if it is called. No other thread sees the message before it is in a queue. -/
  | serverMsg (msg : RtcMsg) (now : Nat) (generated : Option (Nat × RTCCertificate))
  | workerPop (k : Nat)
  /-- Worker `k` handles the message that it took; new objects are placed at `p` and `a`. -/
  | workerProcess (k : Nat) (p : Stream.Ptr) (a : Nat) (s : Surroundings)
  | peer (k : Nat) (e : PeerEvent)
  /-- A signaling worker takes the message `i` of those that wait. -/
  | reply (i : Nat)

namespace CertifiedServer

/-- The server of `init`, whose first certificate is at `p`. -/
def init (workerNum : Nat) (p : Nat) (c : RTCCertificate) : CertifiedServer where
  certificates := Function.update (fun _ => none) p (some c)
  certificate := some p
  workers := List.replicate workerNum {}
  workerNum := workerNum

/-- There is no certificate, or it has expired. -/
def needsCertificate (now : Nat) (s : CertifiedServer) : Bool :=
  match s.certificate.bind s.certificates with
  | none => true
  | some c => c.hasExpired now

/-- The reference is given up, and with it the object. -/
def release (s : CertifiedServer) : CertifiedServer :=
  match s.certificate with
  | none => s
  | some p =>
    { s with certificates := Function.update s.certificates p none, certificate := none }

/-- `_certificate = GenerateCertificate(…)`; the new object is there before the old one goes. -/
def assign (generated : Option (Nat × RTCCertificate)) (s : CertifiedServer) :
    Option CertifiedServer :=
  match generated with
  | none => some s.release
  | some (p, c) =>
    if (s.certificates p).isNone then
      some
        { s.release with
          certificates := Function.update s.release.certificates p (some c)
          certificate := some p }
    else none

/-- `_gengerate_and_check_certificate`, up to the check. -/
def gengerateAndCheckCertificate (now : Nat) (generated : Option (Nat × RTCCertificate))
    (s : CertifiedServer) : Option CertifiedServer :=
  if s.needsCertificate now then s.assign generated else some s

variable (crc32 : Bytes → UInt32)

/-- `_get_worker` -/
def getWorker (s : CertifiedServer) (streamName : Bytes) : Option Nat :=
  if s.workers.length = 0 ∨ s.workers.length ≠ s.workerNum then none
  else some ((crc32 streamName).toNat % s.workerNum)

/-- `RtcWorker::send_rtc_msg` of the worker at `k`. -/
def sendRtcMsg (k : Nat) (m : CertifiedMsg) (s : CertifiedServer) : CertifiedServer :=
  match s.workers[k]? with
  | none => s
  | some w => { s with workers := s.workers.set k { w with queue := w.queue ++ [m] } }

/-- `_process_rtc_msg` of the server from where the certificate was checked: the message goes to its
worker with the address of the certificate. -/
def dispatch (msg : RtcMsg) (s : CertifiedServer) : CertifiedServer :=
  match s.certificate, s.getWorker crc32 msg.streamName with
  | some p, some k => s.sendRtcMsg k ⟨msg, some p⟩
  | _, _ => s

/-- `pop_msg` of a worker that has finished with the message before. -/
def workerPop (w : CertifiedWorker) : Option CertifiedWorker :=
  match w.inHand, w.queue with
  | none, m :: queue => some { w with inHand := some m, queue }
  | _, _ => none

/-- Requests to push and to pull are answered, if the message names a signaling worker. -/
def repliesOf (m : CertifiedMsg) : List CertifiedMsg :=
  if (m.msg.cmdno = 1 ∨ m.msg.cmdno = 2) ∧ m.msg.worker then [m] else []

/-- `_process_rtc_msg` of a worker from where the message was popped. -/
def workerProcess (m : CertifiedMsg) (p : Stream.Ptr) (a : Nat) (x : Surroundings)
    (w : CertifiedWorker) : Option CertifiedWorker :=
  match operationOf p m.msg with
  | none => some { w with inHand := none }
  | some o =>
    (w.peers.operate o a m.certificate x).map fun peers => { w with inHand := none, peers }

def step (opening : Opening) (s : CertifiedServer) : CertifiedEvent → Option CertifiedServer
  | .serverMsg msg now generated =>
    (s.gengerateAndCheckCertificate now generated).map (dispatch crc32 msg)
  | .workerPop k =>
    (s.workers[k]?.bind workerPop).map fun w => { s with workers := s.workers.set k w }
  | .workerProcess k p a x =>
    s.workers[k]?.bind fun w => w.inHand.bind fun m =>
      (workerProcess m p a x w).map fun w =>
        { s with workers := s.workers.set k w, replies := s.replies ++ repliesOf m }
  | .peer k e =>
    s.workers[k]?.bind fun w =>
      if spontaneous e then
        (w.peers.step opening e).map fun peers =>
          { s with workers := s.workers.set k { w with peers } }
      else none
  | .reply i =>
    if i < s.replies.length then some { s with replies := s.replies.eraseIdx i } else none

end CertifiedServer

/-- The transition relation of the server and its workers. -/
def CertifiedStep (crc32 : Bytes → UInt32) (opening : Opening) (s : CertifiedServer)
    (e : CertifiedEvent) (t : CertifiedServer) : Prop :=
  s.step crc32 opening e = some t

/-! ## Who has an address -/

/-- A message of the worker or one of its peer connections has the address `c`. -/
def CertifiedWorker.Holds (w : CertifiedWorker) (c : Nat) : Prop :=
  (∃ m ∈ w.queue, m.certificate = some c) ∨ (∃ m ∈ w.inHand, m.certificate = some c) ∨
    ∃ a pc, w.peers.pcs a = some pc ∧ c ∈ pc.certificates

/-- A message that waits or is being handled, or a peer connection with its controller and its
transports, has the address `c`. -/
def CertifiedServer.Holds (s : CertifiedServer) (c : Nat) : Prop :=
  (∃ w ∈ s.workers, w.Holds c) ∨ ∃ m ∈ s.replies, m.certificate = some c

/-- Every address of a certificate is that of one that has not been released. -/
def CertifiedServer.Valid (s : CertifiedServer) : Prop :=
  ∀ c, s.Holds c → (s.certificates c).isSome = true

/-- The condition on an event: when the server replaces its certificate, nobody has the address of
one. -/
def Unheld (s : CertifiedServer) : CertifiedEvent → Prop
  | .serverMsg _ now _ => s.needsCertificate now = true → ∀ c, ¬ s.Holds c
  | _ => True

/-- What runs that meet the condition keep. -/
structure CertifiedServer.Inv (s : CertifiedServer) : Prop where
  current : ∀ c, s.Holds c → s.certificate = some c
  live : ∀ c, s.certificate = some c → (s.certificates c).isSome = true
  hosted : ∀ w ∈ s.workers, Hosted w.peers

namespace CertifiedServer

variable {crc32 : Bytes → UInt32} {opening : Opening} {s t : CertifiedServer}
  {w w' : CertifiedWorker} {m : CertifiedMsg} {msg : RtcMsg} {k c : Nat} {now : Nat}
  {generated : Option (Nat × RTCCertificate)}

lemma Inv.valid (hs : s.Inv) : s.Valid := fun c hc => hs.live c (hs.current c hc)

/-! ## The server -/

/-- A certificate that is replaced is released, and the one that takes its place is not. -/
lemma assign_spec (h : s.assign generated = some t) :
    t.workers = s.workers ∧ t.replies = s.replies ∧
      (∀ c, t.certificate = some c → (t.certificates c).isSome = true) ∧
      ∀ c, s.certificate = some c → (s.certificates c).isSome = true → t.certificates c = none := by
  have hrelease : s.release.workers = s.workers ∧ s.release.replies = s.replies ∧
      s.release.certificate = none ∧
      ∀ c, s.certificate = some c → s.release.certificates c = none := by
    unfold release
    split
    · rename_i hnone
      exact ⟨rfl, rfl, hnone, fun c hc => by cases hnone.symm.trans hc⟩
    · rename_i p hp
      refine ⟨rfl, rfl, rfl, fun c hc => ?_⟩
      cases hp.symm.trans hc
      exact Function.update_self ..
  obtain ⟨hworkers, hreplies, hnone, hreleased⟩ := hrelease
  unfold assign at h
  split at h
  · cases h
    exact ⟨hworkers, hreplies, fun c hc => (by cases hnone.symm.trans hc),
      fun c hc _ => hreleased c hc⟩
  · rename_i p cert
    obtain ⟨hfree, h⟩ := Option.ite_none_right_eq_some.mp h
    cases h
    refine ⟨hworkers, hreplies, fun c hc => ?_, fun c hc hlive => ?_⟩
    · cases hc
      dsimp only
      rw [Function.update_self]
      rfl
    · have hne : c ≠ p := by
        rintro rfl
        rw [Option.isNone_iff_eq_none.mp hfree] at hlive
        cases hlive
      exact (Function.update_of_ne hne ..).trans (hreleased c hc)

lemma Inv.setWorker (hs : s.Inv) {replies : List CertifiedMsg}
    (hw : ∀ c, w'.Holds c → s.certificate = some c)
    (hreplies : ∀ m ∈ replies, ∀ c, m.certificate = some c → s.certificate = some c)
    (hhosted : Hosted w'.peers) :
    Inv { s with workers := s.workers.set k w', replies } := by
  refine ⟨fun c hc => ?_, hs.live, fun v hv => ?_⟩
  · rcases hc with ⟨v, hv, hc⟩ | ⟨m, hm, hc⟩
    · rcases List.mem_or_eq_of_mem_set hv with hv | rfl
      · exact hs.current c (.inl ⟨v, hv, hc⟩)
      · exact hw c hc
    · exact hreplies m hm c hc
  · rcases List.mem_or_eq_of_mem_set hv with hv | rfl
    · exact hs.hosted v hv
    · exact hhosted

lemma Inv.reply (hs : s.Inv) (hm : m ∈ s.replies) (hc : m.certificate = some c) :
    s.certificate = some c :=
  hs.current c (.inr ⟨m, hm, hc⟩)

lemma Inv.worker (hs : s.Inv) (hw : s.workers[k]? = some w) (hc : w.Holds c) :
    s.certificate = some c :=
  hs.current c (.inl ⟨w, List.mem_of_getElem? hw, hc⟩)

lemma Inv.dispatch (hs : s.Inv) : (s.dispatch crc32 msg).Inv := by
  unfold CertifiedServer.dispatch
  split
  · rename_i p k hp _
    unfold sendRtcMsg
    split
    · exact hs
    · rename_i w hw
      refine hs.setWorker (fun c hc => ?_) (fun m hm c hc => hs.reply hm hc)
        (hs.hosted w (List.mem_of_getElem? hw))
      rcases hc with ⟨m, hm, hc⟩ | hc | hc
      · rcases List.mem_append.mp hm with hm | hm
        · exact hs.worker hw (.inl ⟨m, hm, hc⟩)
        · rw [List.mem_singleton.mp hm] at hc
          exact hp.trans hc
      · exact hs.worker hw (.inr (.inl hc))
      · exact hs.worker hw (.inr (.inr hc))
  · exact hs

lemma Inv.gengerateAndCheckCertificate (hs : s.Inv)
    (hunheld : s.needsCertificate now = true → ∀ c, ¬ s.Holds c)
    (h : s.gengerateAndCheckCertificate now generated = some t) : t.Inv := by
  unfold CertifiedServer.gengerateAndCheckCertificate at h
  split at h
  · rename_i hneeds
    obtain ⟨hworkers, hreplies, hlive, -⟩ := assign_spec h
    refine ⟨fun c hc => absurd ?_ (hunheld hneeds c), hlive, hworkers ▸ hs.hosted⟩
    unfold Holds at hc ⊢
    rwa [hworkers, hreplies] at hc
  · cases h
    exact hs

/-! ## The workers -/

lemma workerPop_spec (h : workerPop w = some w') :
    (∀ c, w'.Holds c → w.Holds c) ∧ w'.peers = w.peers := by
  unfold workerPop at h
  split at h
  · rename_i m queue hhand hqueue
    cases h
    refine ⟨fun c hc => ?_, rfl⟩
    rcases hc with ⟨m', hm', hc⟩ | ⟨m', hm', hc⟩ | hc
    · exact .inl ⟨m', by rw [hqueue]; exact List.mem_cons_of_mem _ hm', hc⟩
    · cases hm'
      exact .inl ⟨m, by rw [hqueue]; exact List.mem_cons_self, hc⟩
    · exact .inr (.inr hc)
  · cases h

/-- A new peer connection has the address that came with the message. -/
lemma certificates_operate {h h' : Peers} {o : Operation} {a : Nat} {certificate : Option Nat}
    {x : Surroundings} {b : Nat} {pc : PeerConnection}
    (ho : h.operate o a certificate x = some h') (hpc : h'.pcs b = some pc)
    (hc : c ∈ pc.certificates) : certificate = some c ∨ ∃ b pc, h.pcs b = some pc ∧
      c ∈ pc.certificates := by
  obtain ⟨-, ⟨-, -, hpcs⟩ | ⟨p, u, -, -, -, -, hpcs⟩⟩ := operate_cases ho
  · exact .inr ⟨b, pc, hpcs ▸ hpc, hc⟩
  · rw [hpcs] at hpc
    rcases update_some_eq_some hpc with ⟨-, rfl⟩ | ⟨-, hpc⟩
    · exact .inl (mem_certificates_openedPeer hc)
    · exact .inr ⟨b, pc, hpc, hc⟩

lemma workerProcess_spec {p : Stream.Ptr} {a : Nat} {x : Surroundings} (hm : w.inHand = some m)
    (h : workerProcess m p a x w = some w') (hhosted : Hosted w.peers) :
    (∀ c, w'.Holds c → w.Holds c) ∧ Hosted w'.peers := by
  unfold workerProcess at h
  split at h
  · cases h
    refine ⟨fun c hc => ?_, hhosted⟩
    rcases hc with hc | ⟨m', hm', -⟩ | hc
    · exact .inl hc
    · cases hm'
    · exact .inr (.inr hc)
  · obtain ⟨peers, ho, h⟩ := Option.map_eq_some_iff.mp h
    cases h
    refine ⟨fun c hc => ?_, hhosted.operate ho⟩
    rcases hc with hc | ⟨m', hm', -⟩ | ⟨b, pc, hpc, hc⟩
    · exact .inl hc
    · cases hm'
    · rcases certificates_operate ho hpc hc with hc | hc
      · exact .inr (.inl ⟨m, hm, hc⟩)
      · exact .inr (.inr hc)

/-- What happens to streams without a message gives no address to a peer connection. -/
lemma certificates_step {h h' : Peers} {e : PeerEvent} {b : Nat} {pc : PeerConnection}
    (hh : Hosted h) (he : spontaneous e = true) (hstep : PeerStep opening h e h')
    (hpc : h'.pcs b = some pc) (hc : c ∈ pc.certificates) :
    ∃ b pc, h.pcs b = some pc ∧ c ∈ pc.certificates := by
  obtain ⟨o, a, certificate, x, rfl, ho⟩ | hchange := hh.change hstep
  · obtain ⟨m', -, ho⟩ := Option.bind_eq_some_iff.mp ho
    have hnew : newStream h.manager o = none := by
      cases o <;> first | rfl | cases he
    rw [hnew] at ho
    cases ho
    exact ⟨b, pc, hpc, hc⟩
  cases hchange with
  | same => exact ⟨b, pc, hpc, hc⟩
  | @store a pa pa' ha hfollows =>
    rcases update_some_eq_some hpc with ⟨-, rfl⟩ | ⟨-, hpc⟩
    · exact ⟨a, pa, ha, hfollows.certificates c hc⟩
    · exact ⟨b, pc, hpc, hc⟩
  | destroy => exact ⟨b, pc, (update_none_eq_some hpc).2, hc⟩

/-! ## Runs -/

lemma Inv.step (hs : s.Inv) {e : CertifiedEvent} (he : Unheld s e)
    (hstep : CertifiedStep crc32 opening s e t) : t.Inv := by
  cases e with
  | serverMsg msg now generated =>
    obtain ⟨u, hu, rfl⟩ := Option.map_eq_some_iff.mp hstep
    exact (hs.gengerateAndCheckCertificate he hu).dispatch
  | workerPop k =>
    obtain ⟨w', hw', rfl⟩ := Option.map_eq_some_iff.mp hstep
    obtain ⟨w, hw, hpop⟩ := Option.bind_eq_some_iff.mp hw'
    obtain ⟨hholds, hpeers⟩ := workerPop_spec hpop
    exact hs.setWorker (fun c hc => hs.worker hw (hholds c hc)) (fun m hm c hc => hs.reply hm hc)
      (hpeers ▸ hs.hosted w (List.mem_of_getElem? hw))
  | workerProcess k p a x =>
    obtain ⟨w, hw, hstep⟩ := Option.bind_eq_some_iff.mp hstep
    obtain ⟨m, hm, hstep⟩ := Option.bind_eq_some_iff.mp hstep
    obtain ⟨w', hw', rfl⟩ := Option.map_eq_some_iff.mp hstep
    obtain ⟨hholds, hhosted⟩ :=
      workerProcess_spec hm hw' (hs.hosted w (List.mem_of_getElem? hw))
    refine hs.setWorker (fun c hc => hs.worker hw (hholds c hc)) (fun m' hm' c hc => ?_) hhosted
    rcases List.mem_append.mp hm' with hm' | hm'
    · exact hs.reply hm' hc
    · unfold repliesOf at hm'
      split at hm'
      · rw [List.mem_singleton.mp hm'] at hc
        exact hs.worker hw (.inr (.inl ⟨m, hm, hc⟩))
      · cases hm'
  | peer k e =>
    obtain ⟨w, hw, hstep⟩ := Option.bind_eq_some_iff.mp hstep
    obtain ⟨hspont, hstep⟩ := Option.ite_none_right_eq_some.mp hstep
    obtain ⟨peers, hpeers, rfl⟩ := Option.map_eq_some_iff.mp hstep
    have hhosted := hs.hosted w (List.mem_of_getElem? hw)
    refine hs.setWorker (fun c hc => ?_) (fun m hm c hc => hs.reply hm hc)
      (hhosted.step hpeers)
    rcases hc with hc | hc | ⟨b, pc, hpc, hc⟩
    · exact hs.worker hw (.inl hc)
    · exact hs.worker hw (.inr (.inl hc))
    · exact hs.worker hw (.inr (.inr (certificates_step hhosted hspont hpeers hpc hc)))
  | reply i =>
    obtain ⟨-, hstep⟩ := Option.ite_none_right_eq_some.mp hstep
    cases hstep
    refine ⟨fun c hc => ?_, hs.live, hs.hosted⟩
    rcases hc with hc | ⟨m, hm, hc⟩
    · exact hs.current c (.inl hc)
    · exact hs.reply (List.mem_of_mem_eraseIdx hm) hc

lemma certificates_dispatch : (s.dispatch crc32 msg).certificates = s.certificates := by
  unfold dispatch sendRtcMsg
  split
  · split <;> rfl
  · rfl

/-- A message more takes no address from anybody. -/
lemma Holds.dispatch (hc : s.Holds c) : (s.dispatch crc32 msg).Holds c := by
  unfold CertifiedServer.dispatch
  split
  · unfold sendRtcMsg
    split
    · exact hc
    · rename_i p k _ _ _ v hv
      rcases hc with ⟨w, hw, hc⟩ | hc
      · obtain ⟨i, hi, rfl⟩ := List.getElem_of_mem hw
        by_cases hik : k = i
        · subst hik
          rw [List.getElem?_eq_getElem hi, Option.some.injEq] at hv
          subst hv
          refine .inl ⟨_, List.mem_set hi _, ?_⟩
          rcases hc with ⟨m, hm, hc⟩ | hc | hc
          · exact .inl ⟨m, List.mem_append_left _ hm, hc⟩
          · exact .inr (.inl hc)
          · exact .inr (.inr hc)
        · refine .inl ⟨s.workers[i], ?_, hc⟩
          rw [List.mem_iff_getElem?]
          exact ⟨i, by rw [List.getElem?_set_ne hik, List.getElem?_eq_getElem hi]⟩
      · exact .inr hc
  · exact hc

/-- Where somebody has the address of the certificate that is replaced, it is of one that has been
released from then on. -/
lemma Inv.unheld_of_valid (hs : s.Inv) {e : CertifiedEvent}
    (hstep : CertifiedStep crc32 opening s e t) (ht : t.Valid) : Unheld s e := by
  cases e with
  | serverMsg msg now generated =>
    intro hneeds c hc
    obtain ⟨u, hu, rfl⟩ := Option.map_eq_some_iff.mp hstep
    rw [CertifiedServer.gengerateAndCheckCertificate, if_pos hneeds] at hu
    obtain ⟨hworkers, hreplies, -, hreleased⟩ := assign_spec hu
    have hcertificate := hs.current c hc
    have hnone := hreleased c hcertificate (hs.live c hcertificate)
    have hholds : u.Holds c := by
      unfold Holds at hc ⊢
      rwa [hworkers, hreplies]
    have hvalid := ht c hholds.dispatch
    rw [certificates_dispatch, hnone] at hvalid
    cases hvalid
  | _ => trivial

lemma inv_init (workerNum p : Nat) (cert : RTCCertificate) : (init workerNum p cert).Inv := by
  have hworkers : ∀ w ∈ (init workerNum p cert).workers, w = {} := fun w hw =>
    List.eq_of_mem_replicate hw
  refine ⟨fun c hc => ?_, fun c hc => ?_, fun w hw => ?_⟩
  · rcases hc with ⟨w, hw, hc⟩ | ⟨m, hm, -⟩
    · rw [hworkers w hw] at hc
      rcases hc with ⟨m, hm, -⟩ | ⟨m, hm, -⟩ | ⟨a, pc, hpc, -⟩
      · cases hm
      · cases hm
      · cases hpc
    · cases hm
  · cases hc
    simp [init]
  · rw [hworkers w hw]
    exact hosted_initial

/-- The addresses of certificates stay valid throughout a run exactly when the server never replaces
a certificate while somebody has its address. -/
theorem certificates_valid_iff (crc32 : Bytes → UInt32) (opening : Opening) (workerNum p : Nat)
    (cert : RTCCertificate) (es : List CertifiedEvent) :
    Along (CertifiedStep crc32 opening) Valid (init workerNum p cert) es ↔
      Meets (CertifiedStep crc32 opening) Unheld (init workerNum p cert) es :=
  along_iff_meets (fun _ hs => hs.valid) (fun _ _ _ hs he hstep => hs.step he hstep)
    (fun _ _ _ hs hstep ht => hs.unheld_of_valid hstep ht) (inv_init workerNum p cert)

/-- No adapter opens. -/
def unopened : Opening where
  mayOpen _ := false
  started_of_mayOpen _ h := by cases h

/-- Two requests, one second before and at the end of the year that a certificate lasts: the first
still waits for its worker when the second has the certificate replaced. -/
theorem waitingPush_not_valid :
    ¬ Along (CertifiedStep (fun _ => 0) unopened) Valid (init 1 0 ⟨31536000000⟩)
      [.serverMsg { cmdno := 1 } 31535999000 none,
        .serverMsg { cmdno := 1 } 31536000000 (some (1, ⟨63072000000⟩))] := by
  intro h
  have hvalid := ((h.2 _ rfl).2 _ rfl).head
  have hlive := hvalid 0 (.inl ⟨_, List.mem_cons_self, .inl ⟨_, List.mem_cons_self, rfl⟩⟩)
  cases hlive

end CertifiedServer

end XrtcServer.Rtc
