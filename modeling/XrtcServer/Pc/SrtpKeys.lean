import XrtcServer.Pc.DtlsMoves
import XrtcServer.Pc.DtlsSrtpTransport

/-!
# The keys are those of the session

Each way out of `k_connected` drops the keys before another adapter can export new ones, so keys
that are installed are those of the adapter that is there, and no packet is passed through others.
-/

namespace XrtcServer.Pc
open XrtcServer.Base XrtcServer.Core DtlsTransport DtlsSrtpTransport

variable {opening : Opening} {d d' : DtlsTransport} {s s' : DtlsSrtpTransport}
  {x y : DtlsTransport × DtlsSrtpTransport} {id : Nat}

/-- A key that the adapter `id` exported is installed in the session. -/
def Installed (id : Nat) (session : Option SrtpSession) : Prop :=
  ∃ ses ∈ session, ∃ key ∈ ses.session, key.origin = id

/-- The keys that are installed are those of the current session, and so was each that was used. -/
structure KeysCurrent (d : DtlsTransport) (s : DtlsSrtpTransport) : Prop where
  paired : s.sendSession.isSome = s.recvSession.isSome
  active : s.isSrtpActive → d.dtlsState = .kConnected ∧
    ∃ a ∈ d.dtls, Installed a.id s.sendSession ∧ Installed a.id s.recvSession
  uses : ∀ u ∈ s.uses, u.current = some u.origin

/-! ## Setting a session up -/

/-- A session was set up with keys of the adapter `id`, or there is none. -/
structure SetUp (id : Nat) (s s' : DtlsSrtpTransport) : Prop where
  sessions : s'.sendSession = none ∧ s'.recvSession = none ∨
    Installed id s'.sendSession ∧ Installed id s'.recvSession
  uses : s'.uses = s.uses

lemma SrtpSession.session_of_doSetKey {a : KeyAnswers} {key : SrtpKey} {ses ses' : SrtpSession}
    (h : ses.doSetKey a key = (true, ses')) : ses'.session = some key := by
  unfold SrtpSession.doSetKey at h
  split at h
  · cases h
  split at h
  · cases h
    rfl
  · cases h

lemma SrtpSession.session_of_setKey {a : KeyAnswers} {key : SrtpKey} {ses ses' : SrtpSession}
    (h : ses.setKey a key = (true, ses')) : ses'.session = some key := by
  unfold SrtpSession.setKey at h
  split at h
  · cases h
  split at h
  · exact session_of_doSetKey h
  · cases h

/-- On a transport without sessions, both keys are installed or there is no session again. -/
lemma setUp_setRtpParams (a : SetupAnswers) {sendKey recvKey : SrtpKey}
    (hsend : sendKey.origin = id) (hrecv : recvKey.origin = id) (hnone : s.sendSession = none) :
    SetUp id s (s.setRtpParams a sendKey recvKey).2 := by
  have hnew : s.sendSession.isNone = true := by simp [hnone]
  simp only [setRtpParams, hnew, if_true, createSrtpSession, installKeys]
  rcases hs : SrtpSession.setKey a.send sendKey {} with ⟨ret, send⟩
  cases ret with
  | false => exact ⟨.inl ⟨rfl, rfl⟩, rfl⟩
  | true =>
    rcases hr : SrtpSession.setKey a.recv recvKey {} with ⟨ret, recv⟩
    cases ret with
    | false => exact ⟨.inl ⟨rfl, rfl⟩, by simp [resetParams]⟩
    | true =>
      refine ⟨.inr ?_, by simp⟩
      exact ⟨⟨send, rfl, sendKey, SrtpSession.session_of_setKey hs, hsend⟩,
        ⟨recv, rfl, recvKey, SrtpSession.session_of_setKey hr, hrecv⟩⟩

/-- The keys come from the adapter that is there. -/
lemma origin_extractParams {a : SetupAnswers} {sendKey recvKey : SrtpKey}
    (h : extractParams d a = some (sendKey, recvKey)) :
    ∃ b ∈ d.dtls, sendKey.origin = b.id ∧ recvKey.origin = b.id := by
  unfold extractParams at h
  split at h
  · cases h
  split at h
  · rename_i keyLen saltLen dtlsBuffer origin _ _ hexport
    cases h
    unfold exportKeyingMaterial at hexport
    cases hd : d.dtls with
    | none => simp [hd] at hexport
    | some b =>
      simp only [hd, Option.map_eq_some_iff, Prod.mk.injEq] at hexport
      obtain ⟨_, -, -, rfl⟩ := hexport
      exact ⟨b, rfl, rfl, rfl⟩
  · cases h

lemma setUp_setupDtlsSrtp {a : SSLStreamAdapter} (ha : d.dtls = some a)
    (hsend : s.sendSession = none) (hrecv : s.recvSession = none) :
    SetUp a.id s (s.setupDtlsSrtp d) := by
  unfold setupDtlsSrtp
  dsimp only
  split
  · exact ⟨.inl ⟨hsend, hrecv⟩, rfl⟩
  · rename_i sendKey recvKey hkeys
    obtain ⟨b, hb, horigin⟩ := origin_extractParams hkeys
    cases ha.symm.trans hb
    have hset := setUp_setRtpParams (s := { s with setups := s.setups + 1 })
      (s.answers s.setups) horigin.1 horigin.2 hsend
    exact ⟨hset.sessions, hset.uses⟩

/-! ## What keeps the keys -/

lemma Installed.isSome {session : Option SrtpSession} (h : Installed id session) :
    session.isSome = true := by
  obtain ⟨ses, hses, -⟩ := h
  rw [hses]
  rfl

lemma keysCurrent_of_none (hsend : s.sendSession = none) (hrecv : s.recvSession = none)
    (huses : ∀ u ∈ s.uses, u.current = some u.origin) : KeysCurrent d s :=
  ⟨by rw [hsend, hrecv], fun h => by simp [isSrtpActive, hsend] at h, huses⟩

lemma KeysCurrent.sessions (h : KeysCurrent d s) (hstate : d.dtlsState ≠ .kConnected) :
    s.sendSession = none ∧ s.recvSession = none := by
  have hinactive : s.isSrtpActive ≠ true := fun hactive => hstate (h.active hactive).1
  have hpaired := h.paired
  cases hsend : s.sendSession <;> cases hrecv : s.recvSession <;>
    simp_all [isSrtpActive]

lemma KeysCurrent.congr (h : KeysCurrent d s) (hstate : d'.dtlsState = d.dtlsState)
    (hdtls : ∀ a ∈ d.dtls, ∃ b ∈ d'.dtls, b.id = a.id) : KeysCurrent d' s := by
  refine ⟨h.paired, fun hactive => ?_, h.uses⟩
  obtain ⟨hconnected, a, ha, hkeys⟩ := h.active hactive
  obtain ⟨b, hb, hid⟩ := hdtls a ha
  exact ⟨hstate.trans hconnected, b, hb, hid ▸ hkeys⟩

lemma KeysCurrent.same (h : KeysCurrent d s) (hstate : d'.dtlsState = d.dtlsState)
    (hdtls : d'.dtls = d.dtls) : KeysCurrent d' s :=
  h.congr hstate fun a ha => ⟨a, hdtls ▸ ha, rfl⟩

/-- Where the transport leaves `k_connected`, its slot drops the keys. -/
lemma KeysCurrent.leave (h : KeysCurrent d x.2) (hstate : x.1.dtlsState = d.dtlsState)
    {state : DtlsTransportState} (hne : state ≠ .kConnected) :
    KeysCurrent (setDtlsState (srtpWiring opening) state x).1
      (setDtlsState (srtpWiring opening) state x).2 := by
  unfold setDtlsState
  split
  · rename_i heq
    obtain ⟨hsend, hrecv⟩ := h.sessions (by rw [← hstate, heq]; exact hne)
    exact keysCurrent_of_none hsend hrecv h.uses
  · have hreset : onDtlsState { x.1 with dtlsState := state } x.2 = x.2.resetParams := by
      simp [onDtlsState, hne]
    simp only [srtpWiring, hreset]
    exact keysCurrent_of_none rfl rfl h.uses

/-- Where a session opens, the keys are taken from the adapter that is there. -/
lemma KeysCurrent.open (h : KeysCurrent x.1 x.2) (hdtls : x.1.dtls.isSome = true) :
    KeysCurrent (setDtlsState (srtpWiring opening) .kConnected x).1
      (setDtlsState (srtpWiring opening) .kConnected x).2 := by
  unfold setDtlsState
  split
  · exact h
  · rename_i hne
    obtain ⟨hsend, hrecv⟩ := h.sessions hne
    obtain ⟨a, ha⟩ := Option.isSome_iff_exists.mp hdtls
    have hset := setUp_setupDtlsSrtp (d := { x.1 with dtlsState := .kConnected }) ha hsend hrecv
    simp only [srtpWiring, onDtlsState, maybeSetupDtlsSrtp]
    simp only [ne_eq, not_true_eq_false, if_false]
    split
    · exact keysCurrent_of_none hsend hrecv h.uses
    have huses : ∀ u ∈ (x.2.setupDtlsSrtp { x.1 with dtlsState := .kConnected }).uses,
        u.current = some u.origin := by
      rw [hset.uses]
      exact h.uses
    rcases hset.sessions with ⟨hsend', hrecv'⟩ | ⟨hsend', hrecv'⟩
    · exact keysCurrent_of_none hsend' hrecv' huses
    · refine ⟨?_, fun _ => ⟨rfl, a, ha, hsend', hrecv'⟩, huses⟩
      rw [hsend'.isSome, hrecv'.isSome]

/-! ## Calls of libsrtp -/

/-- The call `u` is the next one: of this function with this packet, with a key of the current
session. -/
structure NextUse (s : DtlsSrtpTransport) (fn : SrtpFunction) (p : Bytes) (u : KeyUse) : Prop where
  function : u.function = fn
  packet : u.packet = p
  result : u.result = s.libsrtp s.packets fn p
  current : u.current = some u.origin

/-- One more call was made. -/
def DtlsSrtpTransport.called (u : KeyUse) (s : DtlsSrtpTransport) : DtlsSrtpTransport :=
  { s with packets := s.packets + 1, uses := s.uses ++ [u] }

variable {fn : SrtpFunction} {p : Bytes} {session : SrtpSession} {u : KeyUse}
  {f : SrtpSession → DtlsSrtpTransport → Option Bytes × DtlsSrtpTransport}

lemma useKey_eq (hsession : ∃ a ∈ d.dtls, Installed a.id (some session))
    (fn : SrtpFunction) (p : Bytes) :
    ∃ u, NextUse s fn p u ∧ s.useKey fn d p session = (u.result, s.called u) := by
  obtain ⟨a, ha, ses, hses, key, hkey, horigin⟩ := hsession
  cases hses
  have hcurrent : d.dtls.map SSLStreamAdapter.id = some key.origin := by
    rw [Option.mem_def.mp ha, horigin]
    rfl
  refine ⟨⟨fn, p, _, key.origin, d.dtls.map SSLStreamAdapter.id⟩,
    ⟨rfl, rfl, rfl, hcurrent⟩, ?_⟩
  unfold useKey
  rw [Option.mem_def.mp hkey]
  rfl

lemma KeysCurrent.called (h : KeysCurrent d s) (hu : NextUse s fn p u) :
    KeysCurrent d (s.called u) := by
  refine ⟨h.paired, h.active, fun v hv => ?_⟩
  rcases List.mem_append.mp hv with hv | hv
  · exact h.uses v hv
  · rw [List.mem_singleton.mp hv]
    exact hu.current

/-- While keys are installed, the session is called with a key of the adapter that is there. -/
lemma KeysCurrent.withRecvSession (h : KeysCurrent d s) (hactive : s.isSrtpActive) :
    ∃ recv, (∃ a ∈ d.dtls, Installed a.id (some recv)) ∧ ∀ f, s.withRecvSession f = f recv s := by
  obtain ⟨-, a, ha, -, hkey⟩ := h.active hactive
  obtain ⟨hsend, hrecv⟩ := Bool.and_eq_true_iff.mp hactive
  obtain ⟨send, hsend⟩ := Option.isSome_iff_exists.mp hsend
  obtain ⟨recv, hrecv⟩ := Option.isSome_iff_exists.mp hrecv
  refine ⟨recv, ⟨a, ha, hrecv ▸ hkey⟩, fun f => ?_⟩
  unfold DtlsSrtpTransport.withRecvSession
  rw [hsend, hrecv]

lemma KeysCurrent.withSendSession (h : KeysCurrent d s) (hactive : s.isSrtpActive) :
    ∃ send, s.sendSession = some send ∧ (∃ a ∈ d.dtls, Installed a.id (some send)) ∧
      ∀ f, s.withSendSession f = f send s := by
  obtain ⟨-, a, ha, hkey, -⟩ := h.active hactive
  obtain ⟨hsend, hrecv⟩ := Bool.and_eq_true_iff.mp hactive
  obtain ⟨send, hsend⟩ := Option.isSome_iff_exists.mp hsend
  obtain ⟨recv, hrecv⟩ := Option.isSome_iff_exists.mp hrecv
  refine ⟨send, hsend, ⟨a, ha, hsend ▸ hkey⟩, fun f => ?_⟩
  unfold DtlsSrtpTransport.withSendSession
  rw [hsend, hrecv]

/-- The call that a packet leads to while keys are installed, and where its result goes. -/
lemma KeysCurrent.onRtpPacketReceived (h : KeysCurrent d s) (hactive : s.isSrtpActive) (p : Bytes) :
    ∃ u, NextUse s .srtpUnprotect p u ∧ s.onRtpPacketReceived d p =
      { s.called u with rtpReceived := s.rtpReceived ++ u.result.toList } := by
  obtain ⟨recv, hkey, heq⟩ := h.withRecvSession hactive
  obtain ⟨u, hu, huse⟩ := useKey_eq hkey .srtpUnprotect p
  refine ⟨u, hu, ?_⟩
  unfold DtlsSrtpTransport.onRtpPacketReceived unprotectRtp SrtpSession.unprotectRtp
  rw [hactive, heq, huse]
  rfl

lemma KeysCurrent.onRtcpPacketReceived (h : KeysCurrent d s) (hactive : s.isSrtpActive)
    (p : Bytes) :
    ∃ u, NextUse s .srtpUnprotectRtcp p u ∧ s.onRtcpPacketReceived d p =
      { s.called u with rtcpReceived := s.rtcpReceived ++ u.result.toList } := by
  obtain ⟨recv, hkey, heq⟩ := h.withRecvSession hactive
  obtain ⟨u, hu, huse⟩ := useKey_eq hkey .srtpUnprotectRtcp p
  refine ⟨u, hu, ?_⟩
  unfold DtlsSrtpTransport.onRtcpPacketReceived unprotectRtcp SrtpSession.unprotectRtcp
  rw [hactive, heq, huse]
  rfl

lemma onReadPacket_inactive (hactive : s.isSrtpActive = false) (data : Bytes) :
    s.onReadPacket d data = s := by
  unfold DtlsSrtpTransport.onReadPacket onRtpPacketReceived onRtcpPacketReceived
  simp only [hactive, Bool.not_false, if_true]
  split <;> rfl

/-- The buffer has room for what the session adds. -/
lemma KeysCurrent.sendMedia (h : KeysCurrent d s) (hactive : s.isSrtpActive) (m : Media) :
    ∃ u, NextUse s m.protect m.data u ∧ s.sendMedia d m =
      (u.result, { s.called u with sent := s.sent ++ u.result.toList }) := by
  obtain ⟨send, hsend, hkey, heq⟩ := h.withSendSession hactive
  obtain ⟨u, hu, huse⟩ := useKey_eq hkey m.protect m.data
  refine ⟨u, hu, ?_⟩
  have hprotect : ∀ extra, SrtpSession.protect m.protect extra d m.data (m.data.length + extra)
      send s = (u.result, s.called u) := by
    intro extra
    rw [SrtpSession.protect, if_neg (Nat.lt_irrefl _), huse]
  cases m with
  | rtp buf =>
    have hcall := hprotect send.rtpExtra
    simp only [DtlsSrtpTransport.sendMedia, sendRtp, DtlsSrtpTransport.send, hactive,
      Bool.not_true, Bool.false_eq_true, if_false, hsend, Option.getD_some,
      DtlsSrtpTransport.protectRtp, heq, SrtpSession.protectRtp]
    simp only [Media.data, Media.protect] at hcall
    rw [hcall]
    rfl
  | rtcp buf =>
    have hcall := hprotect send.rtcpExtra
    simp only [DtlsSrtpTransport.sendMedia, sendRtcp, DtlsSrtpTransport.send, hactive,
      Bool.not_true, Bool.false_eq_true, if_false, hsend, Option.getD_some,
      DtlsSrtpTransport.protectRtcp, heq, SrtpSession.protectRtcp]
    simp only [Media.data, Media.protect] at hcall
    rw [hcall]
    rfl

lemma sendMedia_inactive (hactive : s.isSrtpActive = false) (m : Media) :
    s.sendMedia d m = (none, s) := by
  cases m <;> exact if_pos (by rw [hactive]; rfl)

/-- What is passed through libsrtp is passed with the key of the current session. -/
lemma KeysCurrent.keep_sendMedia (h : KeysCurrent d s) (m : Media) :
    KeysCurrent d (s.sendMedia d m).2 := by
  by_cases hactive : s.isSrtpActive = true
  · obtain ⟨u, hu, heq⟩ := h.sendMedia hactive m
    have hcalled := h.called hu
    rw [heq]
    exact ⟨hcalled.paired, hcalled.active, hcalled.uses⟩
  · rw [sendMedia_inactive (Bool.eq_false_iff.mpr hactive)]
    exact h

lemma KeysCurrent.onReadPacket (h : KeysCurrent d s) (data : Bytes) :
    KeysCurrent d (s.onReadPacket d data) := by
  by_cases hactive : s.isSrtpActive = true
  · unfold DtlsSrtpTransport.onReadPacket
    cases inferRtpPacketType data with
    | kUnknown => exact h
    | kRtp =>
      obtain ⟨u, hu, heq⟩ := h.onRtpPacketReceived hactive data
      have hcalled := h.called hu
      dsimp only
      rw [heq]
      exact ⟨hcalled.paired, hcalled.active, hcalled.uses⟩
    | kRtcp =>
      obtain ⟨u, hu, heq⟩ := h.onRtcpPacketReceived hactive data
      have hcalled := h.called hu
      dsimp only
      rw [heq]
      exact ⟨hcalled.paired, hcalled.active, hcalled.uses⟩
  · rw [onReadPacket_inactive (Bool.eq_false_iff.mpr hactive)]
    exact h

/-! ## Runs -/

@[simp] lemma setWritableState_srtp (b : Bool) :
    (setWritableState (srtpWiring opening) b x).2 = x.2 := by
  unfold setWritableState
  split <;> rfl

@[simp] lemma setReceiving_srtp (b : Bool) :
    (setReceiving (srtpWiring opening) b x).2 = x.2 := by
  unfold setReceiving
  split <;> rfl

lemma KeysCurrent.move (hwf : WellFormed x.1) (hx : KeysCurrent x.1 x.2)
    (h : Move (srtpWiring opening) x y) : KeysCurrent y.1 y.2 := by
  cases h with
  | channel writable =>
    unfold noticeWritable
    dsimp only
    split
    · rw [setWritableState_fst, setWritableState_srtp]
      exact hx.same rfl rfl
    · exact hx.same rfl rfl
  | receiving =>
    rw [setReceiving_fst, setReceiving_srtp]
    exact hx.same rfl rfl
  | deactivate => exact hx.same rfl rfl
  | cache => exact hx.same rfl rfl
  | fingerprint => exact hx.same rfl rfl
  | drop digestAlg digest =>
    rw [dropDtls, setWritableState_fst, setWritableState_srtp]
    set z := write (fun d =>
      { d with
        remoteFingerprintValue := digest
        remoteFingerprintAlg := digestAlg
        dtls := none }) x
    have hleave : KeysCurrent (setDtlsState (srtpWiring opening) .kNew z).1
        (setDtlsState (srtpWiring opening) .kNew z).2 := by
      refine KeysCurrent.leave (d := x.1) ?_ ?_ ?_
      · exact hx
      · rfl
      · decide
    exact hleave.same rfl rfl
  | create h =>
    have hstate : x.1.dtlsState ≠ .kConnected := fun hstate => by
      obtain ⟨a, ha, -⟩ := hwf.session (.inr hstate)
      simp [h] at ha
    obtain ⟨hsend, hrecv⟩ := hx.sessions hstate
    exact keysCurrent_of_none hsend hrecv hx.uses
  | digest ok h =>
    refine hx.congr rfl fun a ha => ⟨_, rfl, ?_⟩
    cases h.symm.trans ha
    rfl
  | call ok h =>
    refine hx.congr rfl fun a ha => ⟨_, rfl, ?_⟩
    cases h.symm.trans ha
    rfl
  | start =>
    refine KeysCurrent.leave (d := x.1) ?_ ?_ ?_
    · exact hx
    · rfl
    · decide
  | handle => exact hx.same rfl rfl
  | clear => exact hx.same rfl rfl
  | fail =>
    refine KeysCurrent.leave (d := x.1) ?_ ?_ ?_
    · exact hx
    · rfl
    · decide
  | opened hopen =>
    obtain ⟨a, ha, -⟩ := opening.started_of_mayOpen _ hopen
    refine KeysCurrent.open ?_ ?_
    · rw [setWritableState_fst, setWritableState_srtp]
      exact hx.same rfl rfl
    · rw [setWritableState_fst, ha]
      rfl
  | shut hstate =>
    refine KeysCurrent.leave (d := x.1) ?_ ?_ ?_
    · rw [setWritableState_srtp]
      exact hx
    · rw [setWritableState_fst]
    · rcases hstate with rfl | rfl <;> decide
  | closed => exact hx
  | packet buf => exact hx.onReadPacket buf

/-- What holds between two events of an SRTP transport. -/
structure SrtpInv (x : DtlsTransport × DtlsSrtpTransport) : Prop where
  wellFormed : WellFormed x.1
  fresh : Fresh x.1
  keys : KeysCurrent x.1 x.2

lemma SrtpInv.step (hx : SrtpInv x) (e : SrtpInput) : SrtpInv (srtpStep opening x e) := by
  cases e with
  | dtls e =>
    have hstep := moves_dtlsStep (W := srtpWiring opening) e hx.wellFormed hx.fresh
    have hinv := hstep.1.invariant (J := fun x => WellFormed x.1 ∧ KeysCurrent x.1 x.2)
      ⟨hx.wellFormed, hx.keys⟩ fun _ _ hx hm => ⟨hx.1.move hm, hx.2.move hx.1 hm⟩
    exact ⟨hinv.1, hstep.2, hinv.2⟩
  | sendRtp buf => exact ⟨hx.wellFormed, hx.fresh, hx.keys.keep_sendMedia (.rtp buf)⟩
  | sendRtcp buf => exact ⟨hx.wellFormed, hx.fresh, hx.keys.keep_sendMedia (.rtcp buf)⟩

lemma srtpInv_initial (iceWritable : Bool) (srtpCiphers : List Nat) (cert : Option Nat)
    (answers : Nat → SetupAnswers) (libsrtp : Nat → SrtpFunction → Bytes → Option Bytes) :
    SrtpInv (DtlsTransport.initial iceWritable srtpCiphers cert,
      DtlsSrtpTransport.initial (DtlsTransport.initial iceWritable srtpCiphers cert) answers
        libsrtp) := by
  refine ⟨wellFormed_initial _ _ _, fresh_initial _ _ _, ?_⟩
  have hwritable : (DtlsTransport.initial iceWritable srtpCiphers cert).writable = false := by
    cases cert <;> rfl
  rw [DtlsSrtpTransport.initial, maybeSetupDtlsSrtp, if_pos (by simp [hwritable])]
  exact keysCurrent_of_none rfl rfl fun _ hu => by cases hu

/-- Whatever the adapter and libsrtp answer, the keys are those of the current session, and so was
each key that a packet was passed through libsrtp with. -/
theorem keys_current (opening : Opening) (answers : Nat → SetupAnswers)
    (libsrtp : Nat → SrtpFunction → Bytes → Option Bytes) (iceWritable : Bool)
    (srtpCiphers : List Nat) (cert : Option Nat) (es : List SrtpInput) :
    let d := DtlsTransport.initial iceWritable srtpCiphers cert
    let x := es.foldl (srtpStep opening) (d, DtlsSrtpTransport.initial d answers libsrtp)
    KeysCurrent x.1 x.2 := by
  dsimp only
  suffices h : ∀ x, SrtpInv x → SrtpInv (es.foldl (srtpStep opening) x) from
    (h _ (srtpInv_initial iceWritable srtpCiphers cert answers libsrtp)).keys
  induction es with
  | nil => exact fun _ hx => hx
  | cons e es ih => exact fun x hx => ih _ (hx.step e)

end XrtcServer.Pc
