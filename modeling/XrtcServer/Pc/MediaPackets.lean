import XrtcServer.Pc.SrtpKeys

/-!
# What becomes of media packets

A datagram is given to libsrtp if it comes while the transport has keys, is no DTLS packet and looks
like RTP or RTCP, and a packet that is to be sent if there are keys. `uses` has these calls in their
order. What a transport hands up and what it sends are their results.
-/

namespace XrtcServer.Pc
open XrtcServer.Base XrtcServer.Core DtlsTransport DtlsSrtpTransport

/-- What libsrtp returned for the calls of some functions. -/
def results (functions : List SrtpFunction) (uses : List KeyUse) : List Bytes :=
  (uses.filter (·.function ∈ functions)).filterMap KeyUse.result

lemma results_append (functions : List SrtpFunction) (uses uses' : List KeyUse) :
    results functions (uses ++ uses') = results functions uses ++ results functions uses' := by
  rw [results, List.filter_append, List.filterMap_append]
  rfl

lemma results_singleton (functions : List SrtpFunction) (u : KeyUse) :
    results functions [u] = if u.function ∈ functions then u.result.toList else [] := by
  unfold results
  split
  · rename_i h
    rw [List.filter_singleton, decide_eq_true h]
    cases hu : u.result <;> simp [hu]
  · rename_i h
    rw [List.filter_singleton, decide_eq_false h]
    rfl

namespace KeyUse

/-- The datagram that was to be unprotected. -/
def datagram (u : KeyUse) : Option Bytes :=
  match u.function with
  | .srtpUnprotect | .srtpUnprotectRtcp => some u.packet
  | _ => none

/-- The packet that was to be protected. -/
def media (u : KeyUse) : Option Media :=
  match u.function with
  | .srtpProtect => some (.rtp u.packet)
  | .srtpProtectRtcp => some (.rtcp u.packet)
  | _ => none

/-- The packet is what the function is for. -/
def Fits (u : KeyUse) : Prop :=
  ∀ buf, u.datagram = some buf → ¬ isDtlsPacket buf ∧ isRtpPacket buf ∧
    inferRtpPacketType buf = if u.function = .srtpUnprotect then .kRtp else .kRtcp

end KeyUse

namespace SrtpInput

/-- The datagram that comes in with an event. -/
def datagram : SrtpInput → Option Bytes
  | .dtls (.packet buf _) => some buf
  | _ => none

/-- The packet that is to be sent. -/
def media : SrtpInput → Option Media
  | .sendRtp buf => some (.rtp buf)
  | .sendRtcp buf => some (.rtcp buf)
  | _ => none

/-- The event brings a packet for libsrtp. -/
def isMedia : SrtpInput → Bool
  | .dtls (.packet buf _) =>
    !isDtlsPacket buf && isRtpPacket buf && inferRtpPacketType buf ≠ .kUnknown
  | .dtls _ => false
  | .sendRtp _ => true
  | .sendRtcp _ => true

end SrtpInput

variable {opening : Opening} {d : DtlsTransport} {s s' : DtlsSrtpTransport}
  {x y : DtlsTransport × DtlsSrtpTransport} {buf : Bytes} {u : KeyUse}

/-! ## What touches no media -/

/-- All but the sessions. -/
def DtlsSrtpTransport.record (s : DtlsSrtpTransport) :
    (Nat → SrtpFunction → Bytes → Option Bytes) × Nat × List KeyUse × List Bytes × List Bytes ×
      List Bytes :=
  (s.libsrtp, s.packets, s.uses, s.rtpReceived, s.rtcpReceived, s.sent)

lemma record_installKeys (newSession : Bool) (a : SetupAnswers) (sendKey recvKey : SrtpKey)
    (send recv : SrtpSession) (s : DtlsSrtpTransport) :
    (s.installKeys newSession a sendKey recvKey send recv).2.record = s.record := by
  cases newSession <;> unfold installKeys <;> dsimp only
  all_goals
    simp only [Bool.false_eq_true, if_true, if_false]
    split
    · rfl
    · split <;> rfl

lemma record_onDtlsState (d : DtlsTransport) (s : DtlsSrtpTransport) :
    (s.onDtlsState d).record = s.record := by
  unfold onDtlsState maybeSetupDtlsSrtp setupDtlsSrtp setRtpParams
  dsimp only
  split
  · rfl
  · split
    · rfl
    · split
      · rfl
      · rename_i sendKey recvKey _
        by_cases hnew : s.sendSession.isNone = true
        · simp only [hnew, if_true, createSrtpSession]
          exact record_installKeys ..
        · simp only [hnew]
          split
          · exact record_installKeys ..
          · rfl

/-- The wiring of a transport whose packets go nowhere. -/
def silent (opening : Opening) : Wiring DtlsSrtpTransport :=
  { srtpWiring opening with onReadPacket := fun _ _ s => s }

lemma record_setDtlsState (state : DtlsTransportState) (x : DtlsTransport × DtlsSrtpTransport) :
    (setDtlsState (silent opening) state x).2.record = x.2.record := by
  unfold setDtlsState
  split
  · rfl
  · exact record_onDtlsState ..

lemma record_setWritableState (b : Bool) (x : DtlsTransport × DtlsSrtpTransport) :
    (setWritableState (silent opening) b x).2.record = x.2.record := by
  unfold setWritableState
  split <;> rfl

lemma record_move (h : Move (silent opening) x y) : y.2.record = x.2.record := by
  cases h with
  | channel writable =>
    unfold noticeWritable
    dsimp only
    split
    · exact record_setWritableState ..
    · rfl
  | receiving =>
    unfold setReceiving
    split <;> rfl
  | drop => exact (record_setWritableState ..).trans (record_setDtlsState ..)
  | start => exact record_setDtlsState ..
  | fail => exact record_setDtlsState ..
  | opened => exact (record_setDtlsState ..).trans (record_setWritableState ..)
  | shut => exact (record_setDtlsState ..).trans (record_setWritableState ..)
  | _ => rfl

/-- Only packets get to the slot for packets. -/
lemma dtlsStep_silent (e : DtlsInput) (he : ∀ buf calls, e ≠ .packet buf calls) :
    dtlsStep (srtpWiring opening) x e = dtlsStep (silent opening) x e := by
  cases e with
  | packet buf calls => exact absurd rfl (he buf calls)
  | _ => rfl

/-- Only media packets of a session do. -/
lemma onReadPacket_eq (calls : Calls) :
    DtlsTransport.onReadPacket (srtpWiring opening) buf calls x =
      if x.1.dtlsState = .kConnected ∧ ¬ isDtlsPacket buf ∧ isRtpPacket buf then
        (x.1, x.2.onReadPacket x.1 buf)
      else DtlsTransport.onReadPacket (silent opening) buf calls x := by
  unfold DtlsTransport.onReadPacket
  cases hstate : x.1.dtlsState with
  | kConnected =>
    dsimp only
    by_cases hdtls : isDtlsPacket buf = true
    · simp only [hdtls, if_true, not_true, false_and, and_false, if_false]
      rfl
    · by_cases hrtp : isRtpPacket buf = true
      · simp only [hdtls, hrtp, if_true]
        rfl
      · simp only [hdtls, hrtp, Bool.false_eq_true, and_false, if_false]
  | _ => rfl

lemma record_dtlsStep (hx : SrtpInv x) (e : DtlsInput) :
    (dtlsStep (silent opening) x e).2.record = x.2.record :=
  (moves_dtlsStep (W := silent opening) e hx.wellFormed hx.fresh).1.invariant
    (J := fun y => y.2.record = x.2.record) rfl fun _ _ hy hm => (record_move hm).trans hy

/-! ## Calls of libsrtp -/

/-- One more call was made, and its result went where it goes. -/
def DtlsSrtpTransport.take (u : KeyUse) (s : DtlsSrtpTransport) : DtlsSrtpTransport :=
  { s.called u with
    rtpReceived := s.rtpReceived ++ results [.srtpUnprotect] [u]
    rtcpReceived := s.rtcpReceived ++ results [.srtpUnprotectRtcp] [u]
    sent := s.sent ++ results [.srtpProtect, .srtpProtectRtcp] [u] }

/-- What an event does to the packets of a transport: one call of libsrtp, for the packet that it
brings, where keys are installed, and otherwise nothing. -/
inductive Takes (e : SrtpInput) (s s' : DtlsSrtpTransport) : Prop
  | nothing (h : s'.record = s.record) (hidle : (s.isSrtpActive && e.isMedia) = false)
  | call (u : KeyUse) (h : s'.record = (s.take u).record)
      (hbusy : (s.isSrtpActive && e.isMedia) = true)
      (hresult : u.result = s.libsrtp s.packets u.function u.packet)
      (hdatagram : u.datagram = e.datagram) (hmedia : u.media = e.media) (hfits : u.Fits)

/-- A datagram while keys are installed. -/
lemma takes_onReadPacket (h : KeysCurrent d s) (hactive : s.isSrtpActive)
    (hdtls : isDtlsPacket buf = false) (hrtp : isRtpPacket buf = true) (calls : Calls) :
    Takes (.dtls (.packet buf calls)) s (s.onReadPacket d buf) := by
  unfold DtlsSrtpTransport.onReadPacket
  cases htype : inferRtpPacketType buf with
  | kUnknown => exact .nothing rfl (by simp [SrtpInput.isMedia, htype])
  | kRtp =>
    obtain ⟨u, hu, heq⟩ := h.onRtpPacketReceived hactive buf
    dsimp only
    rw [heq]
    refine .call u ?_ (by simp [SrtpInput.isMedia, htype, hactive, hdtls, hrtp]) ?_ ?_ ?_ ?_
    · simp [DtlsSrtpTransport.record, DtlsSrtpTransport.take, DtlsSrtpTransport.called,
        results_singleton, hu.function]
    · rw [hu.function, hu.packet, hu.result]
    · simp [KeyUse.datagram, hu.function, hu.packet, SrtpInput.datagram]
    · simp [KeyUse.media, hu.function, SrtpInput.media]
    · simp [KeyUse.Fits, KeyUse.datagram, hu.function, hu.packet, hdtls, hrtp, htype]
  | kRtcp =>
    obtain ⟨u, hu, heq⟩ := h.onRtcpPacketReceived hactive buf
    dsimp only
    rw [heq]
    refine .call u ?_ (by simp [SrtpInput.isMedia, htype, hactive, hdtls, hrtp]) ?_ ?_ ?_ ?_
    · simp [DtlsSrtpTransport.record, DtlsSrtpTransport.take, DtlsSrtpTransport.called,
        results_singleton, hu.function]
    · rw [hu.function, hu.packet, hu.result]
    · simp [KeyUse.datagram, hu.function, hu.packet, SrtpInput.datagram]
    · simp [KeyUse.media, hu.function, SrtpInput.media]
    · simp [KeyUse.Fits, KeyUse.datagram, hu.function, hu.packet, hdtls, hrtp, htype]

/-- The event that asks for a packet to be sent. -/
def Media.input : Media → SrtpInput
  | .rtp buf => .sendRtp buf
  | .rtcp buf => .sendRtcp buf

lemma takes_sendMedia (h : KeysCurrent d s) (m : Media) :
    Takes m.input s (s.sendMedia d m).2 := by
  have hinput : m.input.isMedia = true ∧ m.input.datagram = none ∧ m.input.media = some m := by
    cases m <;> exact ⟨rfl, rfl, rfl⟩
  by_cases hactive : s.isSrtpActive = true
  · obtain ⟨u, hu, heq⟩ := h.sendMedia hactive m
    rw [heq]
    refine .call u ?_ (by rw [hactive, hinput.1]; rfl) ?_ ?_ ?_ ?_
    · cases m <;> simp [DtlsSrtpTransport.record, DtlsSrtpTransport.take,
        DtlsSrtpTransport.called, results_singleton, hu.function, Media.protect]
    · rw [hu.function, hu.packet, hu.result]
    · rw [hinput.2.1]
      cases m <;> simp [KeyUse.datagram, hu.function, Media.protect]
    · rw [hinput.2.2]
      cases m <;> simp [KeyUse.media, hu.function, hu.packet, Media.protect, Media.data]
    · cases m <;> simp [KeyUse.Fits, KeyUse.datagram, hu.function, Media.protect]
  · have hinactive := Bool.eq_false_iff.mpr hactive
    rw [sendMedia_inactive hinactive]
    exact .nothing rfl (by rw [hinactive]; rfl)

lemma takes_packet (hx : SrtpInv x) (calls : Calls) :
    Takes (.dtls (.packet buf calls)) x.2
      (DtlsTransport.onReadPacket (srtpWiring opening) buf calls x).2 := by
  rw [onReadPacket_eq]
  split
  · rename_i hmedia
    obtain ⟨-, hdtls, hrtp⟩ := hmedia
    by_cases hactive : x.2.isSrtpActive = true
    · exact takes_onReadPacket hx.keys hactive (Bool.eq_false_iff.mpr hdtls) hrtp calls
    · have hinactive := Bool.eq_false_iff.mpr hactive
      rw [onReadPacket_inactive hinactive]
      exact .nothing rfl (by rw [hinactive]; rfl)
  · rename_i hmedia
    refine .nothing (record_dtlsStep hx (.packet buf calls)) ?_
    by_contra hbusy
    simp only [Bool.not_eq_false, Bool.and_eq_true, SrtpInput.isMedia, Bool.not_eq_true',
      decide_eq_true_eq] at hbusy
    obtain ⟨hactive, ⟨hdtls, hrtp⟩, -⟩ := hbusy
    exact hmedia ⟨(hx.keys.active hactive).1, Bool.eq_false_iff.mp hdtls, hrtp⟩

/-! ## Runs -/

lemma takes_srtpStep (hx : SrtpInv x) (e : SrtpInput) : Takes e x.2 (srtpStep opening x e).2 := by
  cases e with
  | dtls e =>
    by_cases he : ∀ buf calls, e ≠ .packet buf calls
    · have hidle : SrtpInput.isMedia (.dtls e) = false := by
        cases e with
        | packet buf calls => exact absurd rfl (he buf calls)
        | _ => rfl
      refine .nothing ?_ (by rw [hidle, Bool.and_false])
      change (dtlsStep (srtpWiring opening) x e).2.record = x.2.record
      rw [dtlsStep_silent e he]
      exact record_dtlsStep hx e
    · push Not at he
      obtain ⟨buf, calls, rfl⟩ := he
      exact takes_packet hx calls
  | sendRtp buf => exact takes_sendMedia hx.keys (.rtp buf)
  | sendRtcp buf => exact takes_sendMedia hx.keys (.rtcp buf)

/-- What a transport handed up and sent, and what its calls of libsrtp were. -/
structure Accounted (libsrtp : Nat → SrtpFunction → Bytes → Option Bytes) (es : List SrtpInput)
    (s : DtlsSrtpTransport) : Prop where
  rtpReceived : s.rtpReceived = results [.srtpUnprotect] s.uses
  rtcpReceived : s.rtcpReceived = results [.srtpUnprotectRtcp] s.uses
  sent : s.sent = results [.srtpProtect, .srtpProtectRtcp] s.uses
  result : ∀ i u, s.uses[i]? = some u → u.result = libsrtp i u.function u.packet
  datagrams : (s.uses.filterMap KeyUse.datagram).Sublist (es.filterMap SrtpInput.datagram)
  media : (s.uses.filterMap KeyUse.media).Sublist (es.filterMap SrtpInput.media)
  fits : ∀ u ∈ s.uses, u.Fits

/-- What is the same all along. -/
structure Counted (libsrtp : Nat → SrtpFunction → Bytes → Option Bytes) (s : DtlsSrtpTransport) :
    Prop where
  libsrtp : s.libsrtp = libsrtp
  packets : s.packets = s.uses.length

variable {libsrtp : Nat → SrtpFunction → Bytes → Option Bytes} {es : List SrtpInput}
  {e : SrtpInput}

lemma Takes.counted (h : Takes e s s') (hs : Counted libsrtp s) : Counted libsrtp s' := by
  cases h with
  | nothing h =>
    simp only [DtlsSrtpTransport.record, Prod.mk.injEq] at h
    obtain ⟨hlibsrtp, hpackets, huses, -⟩ := h
    exact ⟨hlibsrtp.trans hs.libsrtp, by rw [hpackets, huses, hs.packets]⟩
  | call u h =>
    simp only [DtlsSrtpTransport.record, DtlsSrtpTransport.take, DtlsSrtpTransport.called,
      Prod.mk.injEq] at h
    obtain ⟨hlibsrtp, hpackets, huses, -⟩ := h
    refine ⟨hlibsrtp.trans hs.libsrtp, ?_⟩
    rw [hpackets, huses, List.length_append, hs.packets]
    rfl

lemma Takes.accounted (h : Takes e s s') (hc : Counted libsrtp s) (hs : Accounted libsrtp es s) :
    Accounted libsrtp (es ++ [e]) s' := by
  cases h with
  | nothing h =>
    simp only [DtlsSrtpTransport.record, Prod.mk.injEq] at h
    obtain ⟨-, -, huses, hrtp, hrtcp, hsent⟩ := h
    constructor
    · rw [hrtp, huses, hs.rtpReceived]
    · rw [hrtcp, huses, hs.rtcpReceived]
    · rw [hsent, huses, hs.sent]
    · rw [huses]
      exact hs.result
    · rw [huses, List.filterMap_append]
      exact hs.datagrams.trans (List.sublist_append_left ..)
    · rw [huses, List.filterMap_append]
      exact hs.media.trans (List.sublist_append_left ..)
    · rw [huses]
      exact hs.fits
  | call u h _ hresult hdatagram hmedia hfits =>
    simp only [DtlsSrtpTransport.record, DtlsSrtpTransport.take, DtlsSrtpTransport.called,
      Prod.mk.injEq] at h
    obtain ⟨-, -, huses, hrtp, hrtcp, hsent⟩ := h
    constructor
    · rw [hrtp, huses, results_append, hs.rtpReceived]
    · rw [hrtcp, huses, results_append, hs.rtcpReceived]
    · rw [hsent, huses, results_append, hs.sent]
    · intro i v hv
      rw [huses] at hv
      rcases Nat.lt_trichotomy i s.uses.length with hi | rfl | hi
      · rw [List.getElem?_append_left hi] at hv
        exact hs.result i v hv
      · rw [List.getElem?_append_right le_rfl, Nat.sub_self] at hv
        cases hv
        rw [hresult, hc.libsrtp, hc.packets]
      · rw [List.getElem?_eq_none (by rw [List.length_append]; exact hi)] at hv
        cases hv
    · rw [huses, List.filterMap_append, List.filterMap_append]
      refine hs.datagrams.append ?_
      simp only [List.filterMap_cons, List.filterMap_nil, hdatagram, List.Sublist.refl]
    · rw [huses, List.filterMap_append, List.filterMap_append]
      refine hs.media.append ?_
      simp only [List.filterMap_cons, List.filterMap_nil, hmedia, List.Sublist.refl]
    · rw [huses]
      exact List.forall_mem_append.mpr ⟨hs.fits, by simpa using hfits⟩

lemma Takes.length_uses (h : Takes e s s') :
    s'.uses.length = s.uses.length + if s.isSrtpActive && e.isMedia then 1 else 0 := by
  cases h with
  | nothing h hidle =>
    simp only [DtlsSrtpTransport.record, Prod.mk.injEq] at h
    rw [h.2.2.1, hidle]
    rfl
  | call u h hbusy =>
    simp only [DtlsSrtpTransport.record, DtlsSrtpTransport.take, DtlsSrtpTransport.called,
      Prod.mk.injEq] at h
    rw [h.2.2.1, hbusy, List.length_append]
    rfl

lemma record_initial (iceWritable : Bool) (srtpCiphers : List Nat) (cert : Option Nat)
    (answers : Nat → SetupAnswers) (libsrtp : Nat → SrtpFunction → Bytes → Option Bytes) :
    (DtlsSrtpTransport.initial (DtlsTransport.initial iceWritable srtpCiphers cert) answers
      libsrtp).record = (libsrtp, 0, [], [], [], []) := by
  unfold DtlsSrtpTransport.initial maybeSetupDtlsSrtp
  cases cert <;> rfl

lemma accounted_initial (iceWritable : Bool) (srtpCiphers : List Nat) (cert : Option Nat)
    (answers : Nat → SetupAnswers) (libsrtp : Nat → SrtpFunction → Bytes → Option Bytes) :
    Counted libsrtp (DtlsSrtpTransport.initial (.initial iceWritable srtpCiphers cert) answers
        libsrtp) ∧
      Accounted libsrtp [] (DtlsSrtpTransport.initial (.initial iceWritable srtpCiphers cert)
        answers libsrtp) := by
  have hinitial := record_initial iceWritable srtpCiphers cert answers libsrtp
  simp only [DtlsSrtpTransport.record, Prod.mk.injEq] at hinitial
  obtain ⟨hlibsrtp, hpackets, huses, hrtp, hrtcp, hsent⟩ := hinitial
  refine ⟨⟨hlibsrtp, by rw [hpackets, huses]; rfl⟩, ?_⟩
  constructor <;> simp [huses, hrtp, hrtcp, hsent, results]

/-- Whatever the adapter and libsrtp answer: a transport hands up and sends the results of its calls
of libsrtp in their order and nothing else, each call is for a media datagram that came in or for a
packet that was to be sent, of the kind that the function is for, in their order and none twice, and
while keys are installed each of these packets leads to one call. -/
theorem media_accounted (opening : Opening) (answers : Nat → SetupAnswers)
    (libsrtp : Nat → SrtpFunction → Bytes → Option Bytes) (iceWritable : Bool)
    (srtpCiphers : List Nat) (cert : Option Nat) (es : List SrtpInput) :
    let d := DtlsTransport.initial iceWritable srtpCiphers cert
    let x := es.foldl (srtpStep opening) (d, DtlsSrtpTransport.initial d answers libsrtp)
    Accounted libsrtp es x.2 ∧ ∀ e, (srtpStep opening x e).2.uses.length =
      x.2.uses.length + if x.2.isSrtpActive && e.isMedia then 1 else 0 := by
  dsimp only
  set start := (DtlsTransport.initial iceWritable srtpCiphers cert, DtlsSrtpTransport.initial
    (DtlsTransport.initial iceWritable srtpCiphers cert) answers libsrtp) with hstart
  have hinv : ∀ es, SrtpInv (es.foldl (srtpStep opening) start) ∧
      Counted libsrtp (es.foldl (srtpStep opening) start).2 ∧
      Accounted libsrtp es (es.foldl (srtpStep opening) start).2 := by
    intro es
    induction es using List.reverseRecOn with
    | nil =>
      exact ⟨srtpInv_initial iceWritable srtpCiphers cert answers libsrtp,
        accounted_initial iceWritable srtpCiphers cert answers libsrtp⟩
    | append_singleton es e ih =>
      obtain ⟨hx, hc, hs⟩ := ih
      have htakes := @takes_srtpStep opening _ hx e
      rw [List.foldl_append, List.foldl_cons, List.foldl_nil]
      exact ⟨hx.step e, htakes.counted hc, htakes.accounted hc hs⟩
  obtain ⟨hx, -, hs⟩ := hinv es
  exact ⟨hs, fun e => (takes_srtpStep hx e).length_uses⟩

/-! ## What a transport was asked to send -/

/-- What was sent are the results of calls for packets that the transport was asked to send, in
their order. -/
structure Sends (asked : List Media) (s : DtlsSrtpTransport) : Prop where
  sent : s.sent = results [.srtpProtect, .srtpProtectRtcp] s.uses
  asked : (s.uses.filterMap KeyUse.media).Sublist asked

lemma sends_initial (iceWritable : Bool) (srtpCiphers : List Nat) (cert : Option Nat)
    (answers : Nat → SetupAnswers) (libsrtp : Nat → SrtpFunction → Bytes → Option Bytes) :
    Sends [] (DtlsSrtpTransport.initial (.initial iceWritable srtpCiphers cert) answers
      libsrtp) := by
  obtain ⟨-, haccounted⟩ := accounted_initial iceWritable srtpCiphers cert answers libsrtp
  exact ⟨haccounted.sent, haccounted.media⟩

lemma Takes.sends {asked : List Media} (h : Takes e s s') (hs : Sends asked s) :
    Sends (asked ++ e.media.toList) s' := by
  cases h with
  | nothing h =>
    simp only [DtlsSrtpTransport.record, Prod.mk.injEq] at h
    obtain ⟨-, -, huses, -, -, hsent⟩ := h
    refine ⟨by rw [hsent, huses, hs.sent], ?_⟩
    rw [huses]
    exact hs.asked.trans (List.sublist_append_left ..)
  | call u h _ _ _ hmedia =>
    simp only [DtlsSrtpTransport.record, DtlsSrtpTransport.take, DtlsSrtpTransport.called,
      Prod.mk.injEq] at h
    obtain ⟨-, -, huses, -, -, hsent⟩ := h
    refine ⟨by rw [hsent, huses, results_append, hs.sent], ?_⟩
    rw [huses, List.filterMap_append]
    refine hs.asked.append ?_
    cases he : e.media <;> simp [hmedia, he]

lemma Sends.length_le {asked : List Media} (hs : Sends asked s) :
    s.sent.length ≤ asked.length := by
  have hmedia : ∀ uses : List KeyUse, (results [.srtpProtect, .srtpProtectRtcp] uses).length ≤
      (uses.filterMap KeyUse.media).length := by
    intro uses
    induction uses with
    | nil => exact le_rfl
    | cons u uses ih =>
      have hcons : u :: uses = [u] ++ uses := rfl
      rw [hcons, results_append, List.length_append, List.filterMap_append, List.length_append]
      refine Nat.add_le_add ?_ ih
      rw [results_singleton]
      cases hfunction : u.function <;> cases u.result <;> simp [KeyUse.media, hfunction]
  rw [hs.sent]
  exact (hmedia _).trans hs.asked.length_le

end XrtcServer.Pc
