import XrtcServer.Pc.DtlsMoves
import Mathlib.Data.List.Nodup

/-!
# The handshake goes on

The handshake needs a channel that can send, an adapter and, for the digest, a fingerprint, which
come in any order, and a ClientHello that arrives before the adapter was started has to be kept for
it. Whatever the order, a transport that has an adapter and a writable channel has started it.
-/

namespace XrtcServer.Pc
open XrtcServer.Base XrtcServer.Core DtlsTransport

variable {ω : Type} {W : Wiring ω} {d d' : DtlsTransport} {x y : DtlsTransport × ω}
  {l : List Handling} {buf : Bytes}

/-! ## What was done with packets -/

/-- The packet that was cached last, and what happened since. -/
def sinceCached (l : List Handling) : Option (Bytes × List Handling) :=
  l.foldl (fun last h =>
    match h with
    | .cached buf => some (buf, [])
    | h => last.map fun (buf, since) => (buf, since ++ [h])) none

/-- The packet that was cached last was handled once, as the first thing after a successful
`StartSSL`. -/
def Delivered (l : List Handling) : Prop :=
  ∀ buf since, sinceCached l = some (buf, since) → ∃ before id after,
    since = before ++ .startSSL id true :: .handled buf :: after ∧
      (∀ b, .handled b ∉ before) ∧ ∀ b, .handled b ∉ after

/-- The packet was cached last and not handled yet. -/
def Pending (buf : Bytes) (l : List Handling) : Prop :=
  ∃ since, sinceCached l = some (buf, since) ∧ ∀ b, .handled b ∉ since

/-- The objects on which `StartSSL` was called. -/
def startSSLIds (l : List Handling) : List Nat :=
  l.filterMap fun
    | .startSSL id _ => some id
    | _ => none

lemma sinceCached_append (h : Handling) : sinceCached (l ++ [h]) =
    match h with
    | .cached buf => some (buf, [])
    | h => (sinceCached l).map fun (buf, since) => (buf, since ++ [h]) := by
  rw [sinceCached, List.foldl_append]
  rfl

@[simp] lemma startSSLIds_append_cached : startSSLIds (l ++ [.cached buf]) = startSSLIds l := by
  simp [startSSLIds]

@[simp] lemma startSSLIds_append_handled : startSSLIds (l ++ [.handled buf]) = startSSLIds l := by
  simp [startSSLIds]

@[simp] lemma startSSLIds_append_startSSL (id : Nat) (ok : Bool) :
    startSSLIds (l ++ [.startSSL id ok]) = startSSLIds l ++ [id] := by
  simp [startSSLIds]

lemma delivered_nil : Delivered [] := fun _ _ h => by cases h

lemma pending_cached : Pending buf (l ++ [.cached buf]) :=
  ⟨[], sinceCached_append _, fun _ h => by cases h⟩

lemma Pending.startSSL (h : Pending buf l) (id : Nat) (ok : Bool) :
    Pending buf (l ++ [.startSSL id ok]) := by
  obtain ⟨since, hsince, hnone⟩ := h
  exact ⟨since ++ [.startSSL id ok], by simp [sinceCached_append, hsince], by simpa using hnone⟩

lemma Delivered.startSSL (h : Delivered l) (id : Nat) (ok : Bool) :
    Delivered (l ++ [.startSSL id ok]) := by
  intro buf since hsince
  simp only [sinceCached_append, Option.map_eq_some_iff, Prod.exists, Prod.mk.injEq] at hsince
  obtain ⟨buf, since, hlast, rfl, rfl⟩ := hsince
  obtain ⟨before, id', after, rfl, hbefore, hafter⟩ := h buf since hlast
  exact ⟨before, id', after ++ [.startSSL id ok], by simp, hbefore, by simpa using hafter⟩

/-- A packet that is pending when `StartSSL` succeeds is delivered by handling it. -/
lemma Pending.handled (h : Pending buf l) (id : Nat) :
    Delivered (l ++ [.startSSL id true] ++ [.handled buf]) := by
  obtain ⟨since, hlast, hnone⟩ := h
  intro buf' since' hsince
  simp only [sinceCached_append, hlast, Option.map_some, Option.some.injEq, Prod.mk.injEq] at hsince
  obtain ⟨rfl, rfl⟩ := hsince
  exact ⟨since, id, [], by simp, hnone, fun _ h => by cases h⟩

/-! ## No adapter is started twice -/

structure StartedOnce (d : DtlsTransport) : Prop where
  nodup : (startSSLIds d.handlings).Nodup
  created : ∀ id ∈ startSSLIds d.handlings, id < d.created
  current : ∀ a ∈ d.dtls, a.id < d.created ∧ (a.called = false → a.id ∉ startSSLIds d.handlings)

lemma StartedOnce.move (hx : StartedOnce x.1) (h : Move W x y) : StartedOnce y.1 := by
  obtain ⟨hnodup, hcreated, hcurrent⟩ := hx
  cases h with
  | channel writable =>
    unfold noticeWritable
    dsimp only
    split
    · rw [setWritableState_fst]
      exact ⟨hnodup, hcreated, hcurrent⟩
    · exact ⟨hnodup, hcreated, hcurrent⟩
  | receiving =>
    rw [setReceiving_fst]
    exact ⟨hnodup, hcreated, hcurrent⟩
  | deactivate => exact ⟨hnodup, hcreated, hcurrent⟩
  | cache => exact ⟨by simpa using hnodup, by simpa using hcreated, by simpa using hcurrent⟩
  | fingerprint => exact ⟨hnodup, hcreated, hcurrent⟩
  | drop =>
    rw [dropDtls, setWritableState_fst, setDtlsState_fst]
    exact ⟨hnodup, hcreated, by simp⟩
  | create =>
    refine ⟨hnodup, fun id hid => Nat.lt_succ_of_lt (hcreated id hid), ?_⟩
    rintro a ⟨⟩
    exact ⟨Nat.lt_succ_self _, fun _ hid => Nat.lt_irrefl _ (hcreated _ hid)⟩
  | digest ok h =>
    refine ⟨hnodup, hcreated, ?_⟩
    rintro b ⟨⟩
    have hcurrent := hcurrent _ h
    exact hcurrent
  | call ok h hcalled =>
    obtain ⟨hlt, hnot⟩ := hcurrent _ h
    refine ⟨?_, ?_, ?_⟩
    · rw [write_fst, startSSLIds_append_startSSL]
      exact List.nodup_append.mpr ⟨hnodup, List.nodup_singleton _, fun id hid j hj heq =>
        hnot hcalled (List.mem_singleton.mp hj ▸ heq ▸ hid)⟩
    · intro id hid
      rw [write_fst, startSSLIds_append_startSSL, List.mem_append, List.mem_singleton] at hid
      rcases hid with hid | rfl
      · exact hcreated id hid
      · exact hlt
    · rintro b ⟨⟩
      exact ⟨hlt, fun h => by simp at h⟩
  | start h hcalled =>
    rw [setDtlsState_fst]
    refine ⟨hnodup, hcreated, ?_⟩
    rintro b ⟨⟩
    have hcurrent := hcurrent _ h
    exact hcurrent
  | handle => exact ⟨by simpa using hnodup, by simpa using hcreated, by simpa using hcurrent⟩
  | clear => exact ⟨hnodup, hcreated, hcurrent⟩
  | fail =>
    rw [setDtlsState_fst]
    exact ⟨hnodup, hcreated, hcurrent⟩
  | opened =>
    rw [setDtlsState_fst, setWritableState_fst]
    exact ⟨hnodup, hcreated, hcurrent⟩
  | shut =>
    rw [shut_fst]
    exact ⟨hnodup, hcreated, hcurrent⟩
  | closed => exact ⟨hnodup, hcreated, hcurrent⟩
  | packet => exact ⟨hnodup, hcreated, hcurrent⟩

/-! ## Between two events -/

/-- What holds of a transport with a certificate between two events, where the adapters that are
created are also set up. -/
structure AtRest (d : DtlsTransport) : Prop where
  active : d.dtlsActive = true
  certificate : d.localCertificate.isSome = true
  not_stalled : d.dtlsState = .kNew → d.dtls.isSome = true → d.iceWritable = false
  setUp : d.remoteFingerprintValue ≠ [] → d.dtls.isSome = true
  delivered : d.cachedClientHello = [] → Delivered d.handlings
  pending : d.cachedClientHello ≠ [] → Pending d.cachedClientHello d.handlings
  cleared : ∀ a ∈ d.dtls, a.started → d.cachedClientHello = []

/-- What the calls of the adapter are taken to be where they can fail for no reason of the code's:
an adapter is made, and it takes the crypto suites. -/
def Calls.SetUp (calls : Calls) : Prop := calls.create ∧ calls.setDtlsSrtpCryptoSuites.ok

/-- The calls of the event go through. A fingerprint comes from `set_remote_sdp`, which knows its
algorithm. -/
def DtlsInput.SetUp : DtlsInput → Prop
  | .iceWritable _ calls => calls.SetUp
  | .packet _ calls => calls.SetUp
  | .remoteFingerprint digestAlg _ calls => digestAlg ≠ [] ∧ calls.SetUp
  | .iceReceiving _ => True
  | .dtlsEvent _ => True

lemma AtRest.signalled (hd : AtRest d) (h : Signalled d d') : AtRest d' := by
  have hnew : d'.dtlsState = .kNew → d.dtlsState = .kNew := fun hnew =>
    not_not.mp fun hstate => h.not_new hstate hnew
  rw [h.eq] at hnew ⊢
  exact ⟨hd.active, hd.certificate, fun hstate => hd.not_stalled (hnew hstate), hd.setUp,
    hd.delivered, hd.pending, hd.cleared⟩

/-- A transport that has left `k_new` may have a writable channel. -/
lemma AtRest.leave (hd : AtRest d) {state : DtlsTransportState} (hstate : state ≠ .kNew) :
    AtRest { d with dtlsState := state } :=
  ⟨hd.active, hd.certificate, fun hnew => absurd hnew hstate, hd.setUp, hd.delivered, hd.pending,
    hd.cleared⟩

/-- What has to hold before `_maybe_start_dtls` is called. -/
structure Startable (d : DtlsTransport) : Prop where
  active : d.dtlsActive = true
  certificate : d.localCertificate.isSome = true
  setUp : d.remoteFingerprintValue ≠ [] → d.dtls.isSome = true
  delivered : d.cachedClientHello = [] → Delivered d.handlings
  pending : d.cachedClientHello ≠ [] → Pending d.cachedClientHello d.handlings
  unstarted : ∀ a ∈ d.dtls, a.started = false

lemma Startable.signalled (hd : Startable d) (h : Signalled d d') : Startable d' := by
  rw [h.eq]
  exact ⟨hd.active, hd.certificate, hd.setUp, hd.delivered, hd.pending, hd.unstarted⟩

lemma Startable.atRest (hd : Startable d)
    (hstalled : d.dtlsState = .kNew → d.dtls.isSome = true → d.iceWritable = false) : AtRest d :=
  ⟨hd.active, hd.certificate, hstalled, hd.setUp, hd.delivered, hd.pending, fun a ha hstarted => by
    simp [hd.unstarted a ha] at hstarted⟩

lemma Startable.leave (hd : Startable d) {state : DtlsTransportState} (hstate : state ≠ .kNew) :
    AtRest { d with dtlsState := state } :=
  have hd' : Startable { d with dtlsState := state } :=
    ⟨hd.active, hd.certificate, hd.setUp, hd.delivered, hd.pending, hd.unstarted⟩
  hd'.atRest fun hnew => absurd hnew hstate

lemma atRest_handleCached (calls : Calls) (id : Nat) (pre : List Handling)
    (hstate : x.1.dtlsState = .kConnecting) (hlast : x.1.handlings = pre ++ [.startSSL id true])
    (hactive : x.1.dtlsActive = true) (hcertificate : x.1.localCertificate.isSome = true)
    (hsetUp : x.1.remoteFingerprintValue ≠ [] → x.1.dtls.isSome = true)
    (hdelivered : x.1.cachedClientHello = [] → Delivered pre)
    (hpending : x.1.cachedClientHello ≠ [] → Pending x.1.cachedClientHello pre) :
    AtRest (handleCached W calls x).1 := by
  unfold handleCached
  split
  · rename_i hnil
    exact ⟨hactive, hcertificate, fun hnew => by simp [hstate] at hnew, hsetUp,
      fun _ => hlast ▸ (hdelivered hnil).startSSL id true, fun hne => absurd hnil hne,
      fun _ _ _ => hnil⟩
  · rename_i hne
    set y := write (fun d =>
      { d with handlings := d.handlings ++ [.handled d.cachedClientHello] }) x with hy
    have hhandled : Delivered y.1.handlings := by
      rw [hy, write_fst, hlast]
      exact (hpending hne).handled id
    -- the state that the records or the signals lead to is not k_new
    have hrest : ∀ z : DtlsTransport × ω,
        Signalled y.1 z.1 ∨ z.1 = { y.1 with dtlsState := .kFailed } →
        AtRest (write ({ · with cachedClientHello := [] }) z).1 := by
      intro z hz
      have hnew : z.1.dtlsState ≠ .kNew := by
        rcases hz with hz | hz
        · exact hz.not_new (by simp [hy, hstate])
        · simp [hz]
      have heq : z.1 = { y.1 with dtlsState := z.1.dtlsState, writable := z.1.writable } := by
        rcases hz with hz | hz
        · exact hz.eq
        · rw [hz]
      rw [write_fst, heq]
      exact ⟨hactive, hcertificate, fun h => absurd h hnew, hsetUp, fun _ => hhandled,
        fun h => absurd rfl h, fun _ _ _ => rfl⟩
    unfold handleDtlsPacket
    by_cases hrecords : wholeRecords x.1.cachedClientHello
    · rw [if_pos hrecords]
      exact hrest _ (.inl (moves_onDtlsSignals calls.onReceivedPacket y).2)
    · rw [if_neg hrecords]
      exact hrest _ (.inr setDtlsState_fst)

lemma atRest_maybeStartDtls (calls : Calls) (hx : Startable x.1) :
    AtRest (maybeStartDtls W calls x).1 := by
  unfold maybeStartDtls
  cases ha : x.1.dtls with
  | none => exact hx.atRest fun _ hsome => by simp [ha] at hsome
  | some a =>
    by_cases hice : x.1.iceWritable = true
    · simp only [if_pos hice]
      have hframe := (moves_onDtlsSignals (W := W) calls.startSSL.signals
        (write (fun d =>
          { d with
            dtls := some { a with called := true }
            handlings := d.handlings ++ [.startSSL a.id calls.startSSL.ok] }) x)).2
      change Signalled _ (callStartSSL W a calls.startSSL x).1 at hframe
      set y := callStartSSL W a calls.startSSL x
      have hcalled : Startable { x.1 with
          dtls := some { a with called := true }
          handlings := x.1.handlings ++ [.startSSL a.id calls.startSSL.ok] } :=
        ⟨hx.active, hx.certificate, fun _ => rfl,
          fun hnil => (hx.delivered hnil).startSSL _ _, fun hne => (hx.pending hne).startSSL _ _, by
            rintro b ⟨⟩
            exact hx.unstarted a ha⟩
      have hy := hcalled.signalled hframe
      by_cases hok : calls.startSSL.ok = true
      · rw [if_pos hok]
        have heq := hframe.eq
        refine atRest_handleCached calls a.id x.1.handlings ?_ ?_ ?_ ?_ ?_ ?_ ?_
        all_goals rw [setDtlsState_fst, write_fst, heq]
        · simp [hok]
        · exact hx.active
        · exact hx.certificate
        · simp
        · exact hx.delivered
        · exact hx.pending
      · rw [if_neg hok, setDtlsState_fst]
        exact hy.leave (by decide)
    · simp only [if_neg hice]
      exact hx.atRest fun _ _ => by simpa using hice

lemma Startable.callSetPeerCertificateDigest (hx : Startable x.1) (call : Call) :
    Startable (callSetPeerCertificateDigest W call x).1 := by
  have hwritten : Startable
      { x.1 with dtls := x.1.dtls.map ({ · with digestSet := call.ok }) } := by
    refine ⟨hx.active, hx.certificate, fun hfp => ?_, hx.delivered, hx.pending, fun a ha => ?_⟩
    · simpa using hx.setUp hfp
    · obtain ⟨b, hb, rfl⟩ := Option.map_eq_some_iff.mp ha
      exact hx.unstarted b hb
  exact hwritten.signalled (moves_onDtlsSignals (W := W) call.signals
    (write (fun d => { d with dtls := d.dtls.map ({ · with digestSet := call.ok }) }) x)).2

/-- Where `_setup_dtls` goes through, the handshake goes on; where it does not, the caller fails. -/
lemma startable_setupCreated (calls : Calls) (hx : Startable x.1) :
    ((setupCreated W calls x).1 = true → AtRest (setupCreated W calls x).2.1) ∧
      ((setupCreated W calls x).1 = false → Startable (setupCreated W calls x).2.1) := by
  unfold setupCreated
  have hdigest : ∃ y, (if x.1.remoteFingerprintValue ≠ [] then
      callSetPeerCertificateDigest W calls.setPeerCertificateDigest x else x) = y ∧
      Startable y.1 := by
    refine ⟨_, rfl, ?_⟩
    split
    · exact hx.callSetPeerCertificateDigest _
    · exact hx
  obtain ⟨y, hy, hstartable⟩ := hdigest
  simp only [hy]
  split
  · exact ⟨fun h => by simp at h, fun _ => hstartable⟩
  have hciphers : ∃ z, (if y.1.srtpCiphers ≠ [] then
      onDtlsSignals W calls.setDtlsSrtpCryptoSuites.signals y else y) = z ∧ Startable z.1 := by
    refine ⟨_, rfl, ?_⟩
    split
    · exact hstartable.signalled (moves_onDtlsSignals _ y).2
    · exact hstartable
  obtain ⟨z, hz, hstartable⟩ := hciphers
  simp only [hz]
  split
  · exact ⟨fun h => by simp at h, fun _ => hstartable⟩
  · exact ⟨fun _ => atRest_maybeStartDtls calls hstartable, fun h => by simp at h⟩

/-- What holds of a transport without an adapter before another one is created. -/
structure Bare (d : DtlsTransport) : Prop where
  active : d.dtlsActive = true
  certificate : d.localCertificate.isSome = true
  dtls : d.dtls = none
  delivered : d.cachedClientHello = [] → Delivered d.handlings
  pending : d.cachedClientHello ≠ [] → Pending d.cachedClientHello d.handlings

lemma Bare.startable (hd : Bare d) {n : Nat} :
    Startable { d with dtls := some { id := d.created }, created := n } :=
  ⟨hd.active, hd.certificate, fun _ => rfl, hd.delivered, hd.pending, by
    rintro a ⟨⟩
    rfl⟩

lemma Bare.setupDtls (hx : Bare x.1) {calls : Calls} (hcalls : calls.SetUp) :
    ((setupDtls W calls x).1 = true → AtRest (setupDtls W calls x).2.1) ∧
      ((setupDtls W calls x).1 = false → Startable (setupDtls W calls x).2.1) := by
  unfold DtlsTransport.setupDtls
  rw [if_pos hcalls.1]
  exact startable_setupCreated calls hx.startable

lemma Bare.renewDtls (hx : Bare x.1) {calls : Calls} (hcalls : calls.SetUp) :
    AtRest (renewDtls W calls x).2.1 := by
  have hsetup := hx.setupDtls (W := W) hcalls
  unfold DtlsTransport.renewDtls
  rcases hs : DtlsTransport.setupDtls W calls x with ⟨ok, y⟩
  rw [hs] at hsetup
  cases ok with
  | true => exact hsetup.1 rfl
  | false =>
    dsimp only
    rw [if_neg (by simp), setDtlsState_fst]
    exact (hsetup.2 rfl).leave (by decide)

/-- Without a fingerprint `_setup_dtls` goes through. -/
lemma setupDtls_fst (calls : Calls) (hcalls : calls.SetUp) (hfp : x.1.remoteFingerprintValue = []) :
    (setupDtls W calls x).1 = true := by
  unfold setupDtls setupCreated
  rw [if_pos hcalls.1]
  simp [hfp, hcalls.2]

/-! ## Events -/

lemma AtRest.onWritableState (hx : AtRest x.1) (hwf : WellFormed x.1) (hfresh : Fresh x.1)
    (writable : Bool) (calls : Calls) : AtRest (onWritableState W writable calls x).1 := by
  unfold DtlsTransport.onWritableState
  have hother : ∀ w, x.1.dtlsState ≠ .kNew →
      AtRest { x.1 with iceWritable := writable, writable := w } := fun w hstate =>
    ⟨hx.active, hx.certificate, fun hnew => absurd hnew hstate, hx.setUp, hx.delivered, hx.pending,
      hx.cleared⟩
  dsimp only
  rw [if_neg (by simp [hx.active])]
  split
  · rename_i hstate
    refine atRest_maybeStartDtls calls ⟨hx.active, hx.certificate, hx.setUp, hx.delivered,
      hx.pending, fun a ha => ?_⟩
    have hnot := (hwf.called a ha).mt (by simp [hfresh hstate a ha])
    simpa using hnot
  · rename_i hstate
    rw [setWritableState_fst]
    exact hother writable fun hnew => by simp [hnew] at hstate
  · rename_i hstate _
    exact hother x.1.writable hstate

lemma AtRest.onReadPacket (hx : AtRest x.1) (hwf : WellFormed x.1) (hfresh : Fresh x.1)
    (buf : Bytes) {calls : Calls} (hcalls : calls.SetUp) :
    AtRest (onReadPacket W buf calls x).1 := by
  unfold DtlsTransport.onReadPacket
  have hhandle : AtRest (handleDtlsPacket W calls.onReceivedPacket buf x).2.1 :=
    hx.signalled (moves_handleDtlsPacket calls.onReceivedPacket buf x).2
  cases hstate : x.1.dtlsState with
  | kNew =>
    dsimp only
    split
    · rename_i hhello
      have hne := isDtlsClientHelloPacket_ne_nil hhello
      split
      · rename_i hsetup
        have hnone : x.1.dtls = none := by simpa using (Bool.and_eq_true_iff.mp hsetup).1
        have hfp : x.1.remoteFingerprintValue = [] := by
          by_contra hfp
          simpa [hnone] using hx.setUp hfp
        have hbare : Bare { x.1 with
            cachedClientHello := buf, handlings := x.1.handlings ++ [.cached buf] } :=
          ⟨hx.active, hx.certificate, hnone, fun hnil => absurd hnil hne,
            fun _ => pending_cached⟩
        exact (Bare.setupDtls (W := W) (x := write (fun d =>
          { d with cachedClientHello := buf, handlings := d.handlings ++ [.cached buf] }) x)
          hbare hcalls).1 (setupDtls_fst calls hcalls hfp)
      · refine ⟨hx.active, hx.certificate, hx.not_stalled, hx.setUp, fun hnil => absurd hnil hne,
          fun _ => pending_cached, fun a ha hstarted => ?_⟩
        have hcalled := hwf.called a ha hstarted
        rw [hfresh hstate a ha] at hcalled
        cases hcalled
    · exact hx
  | kConnecting =>
    dsimp only
    split
    · exact hhandle
    · exact hx
  | kConnected =>
    dsimp only
    split
    · exact hhandle
    split <;> exact hx
  | kClosed => exact hx
  | kFailed => exact hx

lemma AtRest.setRemoteFingerprint (hx : AtRest x.1) {digestAlg : Text} (halg : digestAlg ≠ [])
    (digest : Bytes) {calls : Calls} (hcalls : calls.SetUp) :
    AtRest (setRemoteFingerprint W digestAlg digest calls x).2.1 := by
  unfold DtlsTransport.setRemoteFingerprint
  split
  · exact hx
  split
  · exact hx
  dsimp only
  cases ha : x.1.dtls with
  | none =>
    simp only [write_fst, ha]
    exact Bare.renewDtls (W := W) (x := write (fun d =>
      { d with remoteFingerprintValue := digest, remoteFingerprintAlg := digestAlg }) x)
      ⟨hx.active, hx.certificate, ha, hx.delivered, hx.pending⟩ hcalls
  | some a =>
    by_cases hold : x.1.remoteFingerprintValue = []
    · rw [if_pos (by simp [ha, hold])]
      have hwritten : AtRest { x.1 with
          remoteFingerprintValue := digest
          remoteFingerprintAlg := digestAlg
          dtls := x.1.dtls.map ({ · with digestSet := calls.setPeerCertificateDigest.ok }) } := by
        refine ⟨hx.active, hx.certificate, ?_, ?_, hx.delivered, hx.pending, ?_⟩
        · simpa using hx.not_stalled
        · simp [ha]
        · simpa using hx.cleared
      have hcall := hwritten.signalled (moves_onDtlsSignals (W := W) (x := write (fun d =>
        { d with
          remoteFingerprintValue := digest
          remoteFingerprintAlg := digestAlg
          dtls := d.dtls.map ({ · with digestSet := calls.setPeerCertificateDigest.ok }) }) x)
        calls.setPeerCertificateDigest.signals).2
      change AtRest (callSetPeerCertificateDigest W calls.setPeerCertificateDigest (write (fun d =>
        { d with remoteFingerprintValue := digest, remoteFingerprintAlg := digestAlg }) x)).1 at hcall
      split
      · exact hcall
      · rw [setDtlsState_fst]
        exact hcall.leave (by decide)
    · rw [if_neg (by simp [hold]), if_pos (by simp [ha, hold])]
      refine Bare.renewDtls (W := W) ?_ hcalls
      rw [setWritableState_fst, setDtlsState_fst]
      exact ⟨hx.active, hx.certificate, rfl, hx.delivered, hx.pending⟩

lemma AtRest.step (hx : AtRest x.1) (hwf : WellFormed x.1) (hfresh : Fresh x.1) {e : DtlsInput}
    (he : e.SetUp) : AtRest (dtlsStep W x e).1 := by
  cases e with
  | iceWritable writable calls => exact hx.onWritableState hwf hfresh writable calls
  | iceReceiving receiving =>
    rw [dtlsStep, onReceivingState, setReceiving_fst]
    exact ⟨hx.active, hx.certificate, hx.not_stalled, hx.setUp, hx.delivered, hx.pending,
      hx.cleared⟩
  | packet buf calls => exact hx.onReadPacket hwf hfresh buf he
  | remoteFingerprint digestAlg digest calls => exact hx.setRemoteFingerprint he.1 digest he.2
  | dtlsEvent signals => exact hx.signalled (moves_onDtlsSignals signals x).2

/-- The handshake is not waiting for anything that has come. -/
structure GoesOn (d : DtlsTransport) : Prop where
  not_stalled : d.dtlsState = .kNew → d.dtls.isSome = true → d.iceWritable = false
  startSSL_once : (startSSLIds d.handlings).Nodup
  delivered : d.dtlsState = .kConnecting ∨ d.dtlsState = .kConnected →
    d.cachedClientHello = [] ∧ Delivered d.handlings

lemma atRest_initial (iceWritable : Bool) (srtpCiphers : List Nat) (cert : Nat) :
    AtRest (initial iceWritable srtpCiphers (some cert)) :=
  ⟨rfl, rfl, by simp, by simp [initial, setLocalCertificate], fun _ => delivered_nil,
    fun h => absurd rfl h, by simp⟩

lemma startedOnce_initial (iceWritable : Bool) (srtpCiphers : List Nat) (cert : Option Nat) :
    StartedOnce (initial iceWritable srtpCiphers cert) := by
  refine ⟨?_, ?_, by simp⟩
  all_goals
    rw [initial_handlings]
    simp [startSSLIds]

lemma AtRest.steps (hx : AtRest x.1) (hwf : WellFormed x.1) (hfresh : Fresh x.1)
    {es : List DtlsInput} (hes : ∀ e ∈ es, e.SetUp) : AtRest (es.foldl (dtlsStep W) x).1 := by
  induction es generalizing x with
  | nil => exact hx
  | cons e es ih =>
    have hstep := moves_dtlsStep (W := W) e hwf hfresh
    have he := hx.step (W := W) hwf hfresh (hes e List.mem_cons_self)
    exact ih he (hstep.1.wellFormed hwf) hstep.2 fun e he => hes e (List.mem_cons_of_mem _ he)

/-- Whatever order the channel, the fingerprints, the packets and the adapter's signals come in,
the handshake of a transport with a certificate goes on. -/
theorem handshake_goes_on (W : Wiring ω) (w : ω) (iceWritable : Bool) (srtpCiphers : List Nat)
    (cert : Nat) (es : List DtlsInput) (hes : ∀ e ∈ es, e.SetUp) :
    GoesOn (es.foldl (dtlsStep W) (initial iceWritable srtpCiphers (some cert), w)).1 := by
  have hwf := wellFormed_initial iceWritable srtpCiphers (some cert)
  have hfresh := fresh_initial iceWritable srtpCiphers (some cert)
  have hrest := AtRest.steps (W := W) (x := (initial iceWritable srtpCiphers (some cert), w))
    (atRest_initial iceWritable srtpCiphers cert) hwf hfresh hes
  have honce := dtlsSteps_invariant (W := W) (J := fun x => StartedOnce x.1)
    (x := (initial iceWritable srtpCiphers (some cert), w)) hwf hfresh
    (startedOnce_initial iceWritable srtpCiphers (some cert)) (fun _ _ hx hm => hx.move hm) es
  have hsession := dtlsSteps_invariant (W := W) (J := fun x => WellFormed x.1)
    (x := (initial iceWritable srtpCiphers (some cert), w)) hwf hfresh hwf
    (fun _ _ hx hm => hx.move hm) es
  refine ⟨hrest.not_stalled, honce.nodup, fun hstate => ?_⟩
  obtain ⟨a, ha, hstarted⟩ := hsession.session hstate
  have hnil := hrest.cleared a ha hstarted
  exact ⟨hnil, hrest.delivered hnil⟩

/-- No slot is connected, and an adapter opens once it was started. -/
def unwired : Wiring Unit :=
  { onDtlsState := fun _ w => w
    onWritableState := fun _ w => w
    onReceivingState := fun _ w => w
    onReadPacket := fun _ _ w => w
    onClosed := fun _ w => w
    mayOpen := fun d => d.dtls.any (·.started)
    started_of_mayOpen := fun d h => by simpa [Option.any_eq_true] using h }

/-- A ClientHello, then the fingerprint, and only then a channel that can send. -/
def earlyHello : List DtlsInput :=
  [.packet [22, 254, 253, 0, 0, 0, 0, 0, 0, 0, 0, 0, 5, 1, 0, 0, 0, 0] {},
    .remoteFingerprint "sha-256".toList [1] {}, .iceWritable true {}]

theorem earlyHello_goes_on :
    (∀ e ∈ earlyHello, e.SetUp) ∧
      (earlyHello.foldl (dtlsStep unwired) (initial false [1] (some 0), ())).1.dtlsState =
        .kConnecting ∧
      GoesOn (earlyHello.foldl (dtlsStep unwired) (initial false [1] (some 0), ())).1 := by
  have hes : ∀ e ∈ earlyHello, e.SetUp := by simp [earlyHello, DtlsInput.SetUp, Calls.SetUp]
  exact ⟨hes, by decide +kernel, handshake_goes_on unwired () false [1] 0 earlyHello hes⟩

end XrtcServer.Pc
