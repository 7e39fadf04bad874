import XrtcServer.Core.Run
import XrtcServer.Pc.DtlsTransport
import Mathlib.Logic.Relation

/-!
# What a DTLS transport can do

Each event of a transport is a sequence of the moves below. What they all keep holds after every
event, whatever the adapter answers and whatever the slots do.
-/

namespace XrtcServer.Pc
open XrtcServer.Base XrtcServer.Core DtlsTransport

variable {ω : Type} {W : Wiring ω} {d d' : DtlsTransport} {x y z : DtlsTransport × ω}

/-- The adapter has not both been started and taken a digest, or its handshake is going on. -/
def Unopened (d : DtlsTransport) : Prop :=
  d.dtlsState = .kConnecting ∨ ∀ a ∈ d.dtls, ¬ (a.started ∧ a.digestSet)

/-- What `_on_writable_state` does unless it starts the handshake. -/
def noticeWritable (W : Wiring ω) (writable : Bool) (x : DtlsTransport × ω) : DtlsTransport × ω :=
  let x := write ({ · with iceWritable := writable }) x
  if !x.1.dtlsActive || x.1.dtlsState = .kConnected then setWritableState W writable x else x

/-- What the change of a fingerprint does before another adapter is created. -/
def dropDtls (W : Wiring ω) (digestAlg : Text) (digest : Bytes) (x : DtlsTransport × ω) :
    DtlsTransport × ω :=
  setWritableState W false (setDtlsState W .kNew
    (write (fun d =>
      { d with
        remoteFingerprintValue := digest
        remoteFingerprintAlg := digestAlg
        dtls := none }) x))

inductive Move (W : Wiring ω) (x : DtlsTransport × ω) : DtlsTransport × ω → Prop
  | channel (writable : Bool) : Move W x (noticeWritable W writable x)
  | receiving (receiving : Bool) : Move W x (setReceiving W receiving x)
  | deactivate : Move W x (write ({ · with dtlsActive := false }) x)
  | cache (buf : Bytes) (hstate : x.1.dtlsState = .kNew) (hbuf : isDtlsClientHelloPacket buf) :
    Move W x (write (fun d =>
      { d with cachedClientHello := buf, handlings := d.handlings ++ [.cached buf] }) x)
  | fingerprint (digestAlg : Text) (digest : Bytes) (h : digest ≠ [] ∨ x.1.dtls = none) :
    Move W x (write (fun d =>
      { d with remoteFingerprintValue := digest, remoteFingerprintAlg := digestAlg }) x)
  | drop (digestAlg : Text) (digest : Bytes) : Move W x (dropDtls W digestAlg digest x)
  | create (h : x.1.dtls = none) :
    Move W x (write (fun d =>
      { d with dtls := some { id := d.created }, created := d.created + 1 }) x)
  | digest {a : SSLStreamAdapter} (ok : Bool) (h : x.1.dtls = some a) (hset : a.digestSet = false)
      (hfp : x.1.remoteFingerprintValue ≠ []) :
    Move W x (write ({ · with dtls := some { a with digestSet := ok } }) x)
  | call {a : SSLStreamAdapter} (ok : Bool) (h : x.1.dtls = some a) (hcalled : a.called = false) :
    Move W x (write (fun d =>
      { d with
        dtls := some { a with called := true }
        handlings := d.handlings ++ [.startSSL a.id ok] }) x)
  | start {a : SSLStreamAdapter} (h : x.1.dtls = some a) (hcalled : a.called)
      (hstarted : a.started = false) :
    Move W x (setDtlsState W .kConnecting
      (write ({ · with dtls := some { a with started := true } }) x))
  | handle (hne : x.1.cachedClientHello ≠ [])
      (hlast : ∃ pre id, x.1.handlings = pre ++ [.startSSL id true]) :
    Move W x (write (fun d =>
      { d with handlings := d.handlings ++ [.handled d.cachedClientHello] }) x)
  | clear (hlast : ∃ pre id, x.1.handlings =
      pre ++ [.startSSL id true, .handled x.1.cachedClientHello]) :
    Move W x (write ({ · with cachedClientHello := [] }) x)
  | fail (h : Unopened x.1) : Move W x (setDtlsState W .kFailed x)
  | opened (hopen : W.mayOpen x.1) :
    Move W x (setDtlsState W .kConnected (setWritableState W true x))
  | shut {state : DtlsTransportState} (hstate : state = .kClosed ∨ state = .kFailed) :
    Move W x (shut W state x)
  | closed : Move W x (signalClosed W x)
  | packet (buf : Bytes) (hstate : x.1.dtlsState = .kConnected) :
    Move W x (x.1, W.onReadPacket x.1 buf x.2)

def Moves (W : Wiring ω) : DtlsTransport × ω → DtlsTransport × ω → Prop :=
  Relation.ReflTransGen (Move W)

lemma Moves.refl : Moves W x x := Relation.ReflTransGen.refl

lemma Moves.trans (h : Moves W x y) (h' : Moves W y z) : Moves W x z :=
  Relation.ReflTransGen.trans h h'

lemma Move.moves (h : Move W x y) : Moves W x y := Relation.ReflTransGen.single h

/-- What every move keeps holds after any number of them. -/
theorem Moves.invariant {J : DtlsTransport × ω → Prop} (h : Moves W x y) (hx : J x)
    (hmove : ∀ x y, J x → Move W x y → J y) : J y := by
  induction h with
  | refl => exact hx
  | tail _ hm ih => exact hmove _ _ ih hm

section setters

variable {state : DtlsTransportState} {b : Bool}

@[simp] lemma write_fst (f : DtlsTransport → DtlsTransport) : (write f x).1 = f x.1 := rfl

@[simp] lemma write_snd (f : DtlsTransport → DtlsTransport) : (write f x).2 = x.2 := rfl

@[simp] lemma setDtlsState_fst :
    (setDtlsState W state x).1 = { x.1 with dtlsState := state } := by
  unfold setDtlsState
  split
  · rename_i h
    rw [← h]
  · rfl

@[simp] lemma setWritableState_fst :
    (setWritableState W b x).1 = { x.1 with writable := b } := by
  unfold setWritableState
  split
  · rename_i h
    rw [← h]
  · rfl

@[simp] lemma setReceiving_fst : (setReceiving W b x).1 = { x.1 with receiving := b } := by
  unfold setReceiving
  split
  · rename_i h
    rw [← h]
  · rfl

@[simp] lemma shut_fst :
    (shut W state x).1 = { x.1 with dtlsState := state, writable := false } := by
  simp [shut]

@[simp] lemma signalClosed_fst : (signalClosed W x).1 = x.1 := rfl

end setters

/-! ## Signals -/

/-- What signals leave as it was, and the states they can lead to. -/
structure Signalled (d d' : DtlsTransport) : Prop where
  eq : d' = { d with dtlsState := d'.dtlsState, writable := d'.writable }
  state : d'.dtlsState = d.dtlsState ∨ d'.dtlsState = .kClosed ∨ d'.dtlsState = .kFailed ∨
    d'.dtlsState = .kConnected ∧ ∃ a, d.dtls = some a ∧ a.started

lemma Signalled.refl : Signalled d d := ⟨rfl, .inl rfl⟩

lemma Signalled.dtls (h : Signalled d d') : d'.dtls = d.dtls := by
  rw [h.eq]

lemma Signalled.trans {d'' : DtlsTransport} (h : Signalled d d') (h' : Signalled d' d'') :
    Signalled d d'' := by
  refine ⟨?_, ?_⟩
  · rw [h'.eq, h.eq]
  · rcases h'.state with heq | hclosed | hfailed | ⟨hconnected, a, ha, hopen⟩
    · rw [heq]
      exact h.state
    · exact .inr (.inl hclosed)
    · exact .inr (.inr (.inl hfailed))
    · exact .inr (.inr (.inr ⟨hconnected, a, h.dtls ▸ ha, hopen⟩))

lemma Signalled.not_new (h : Signalled d d') (hd : d.dtlsState ≠ .kNew) :
    d'.dtlsState ≠ .kNew := by
  rcases h.state with heq | heq | heq | ⟨heq, -⟩
  · rwa [heq]
  all_goals
    rw [heq]
    decide

lemma signalled_shut {state : DtlsTransportState} (hstate : state = .kClosed ∨ state = .kFailed) :
    Signalled x.1 (shut W state x).1 := by
  rw [shut_fst]
  exact ⟨rfl, hstate.elim (fun h => .inr (.inl h)) fun h => .inr (.inr (.inl h))⟩

lemma moves_onDtlsSignal (s : DtlsSignal) (h : x.1.hears W s = true) :
    Moves W x (onDtlsSignal W x s) ∧ Signalled x.1 (onDtlsSignal W x s).1 := by
  cases s with
  | opened =>
    have hopen : W.mayOpen x.1 = true := by
      simp only [hears, Bool.and_eq_true] at h
      simpa using h.2
    refine ⟨(Move.opened hopen).moves, ?_⟩
    simp only [onDtlsSignal, setDtlsState_fst, setWritableState_fst]
    exact ⟨rfl, .inr (.inr (.inr ⟨rfl, W.started_of_mayOpen _ hopen⟩))⟩
  | read result =>
    cases result with
    | success => exact ⟨.refl, .refl⟩
    | block => exact ⟨.refl, .refl⟩
    | eos => exact ⟨(Move.shut (.inl rfl)).moves.trans Move.closed.moves, signalled_shut (.inl rfl)⟩
    | error =>
      exact ⟨(Move.shut (.inr rfl)).moves.trans Move.closed.moves, signalled_shut (.inr rfl)⟩
  | closed error =>
    rw [onDtlsSignal]
    split
    · exact ⟨(Move.shut (.inl rfl)).moves, signalled_shut (.inl rfl)⟩
    · exact ⟨(Move.shut (.inr rfl)).moves, signalled_shut (.inr rfl)⟩

lemma moves_onDtlsSignals (signals : List DtlsSignal) (x : DtlsTransport × ω) :
    Moves W x (onDtlsSignals W signals x) ∧ Signalled x.1 (onDtlsSignals W signals x).1 := by
  refine rel_foldl (r := fun x y => Moves W x y ∧ Signalled x.1 y.1) (fun x => ⟨.refl, .refl⟩)
    (fun x y z h h' => ⟨h.1.trans h'.1, h.2.trans h'.2⟩) (fun x s => ?_) signals x
  by_cases h : x.1.hears W s = true
  · rw [if_pos h]
    exact moves_onDtlsSignal s h
  · rw [if_neg h]
    exact ⟨.refl, .refl⟩

/-! ## The handshake -/

/-- `StartSSL` was not called on an adapter that has been told of no channel. -/
def Fresh (d : DtlsTransport) : Prop := d.dtlsState = .kNew → ∀ a ∈ d.dtls, a.called = false

lemma write_congr {f g : DtlsTransport → DtlsTransport} (h : f x.1 = g x.1) :
    write f x = write g x := Prod.ext h rfl

lemma moves_handleDtlsPacket (signals : List DtlsSignal) (buf : Bytes) (x : DtlsTransport × ω) :
    Moves W x (handleDtlsPacket W signals buf x).2 ∧
      Signalled x.1 (handleDtlsPacket W signals buf x).2.1 := by
  unfold handleDtlsPacket
  split
  · exact moves_onDtlsSignals signals x
  · exact ⟨.refl, .refl⟩

/-- After a successful `StartSSL` the packet that was kept is handled, and none is kept. -/
lemma moves_handleCached (calls : Calls) (hstate : x.1.dtlsState = .kConnecting)
    (hlast : ∃ pre id, x.1.handlings = pre ++ [.startSSL id true]) :
    Moves W x (handleCached W calls x) ∧ (handleCached W calls x).1.dtlsState ≠ .kNew ∧
      (handleCached W calls x).1.cachedClientHello = [] := by
  unfold handleCached
  split
  · rename_i hnil
    exact ⟨.refl, by simp [hstate], hnil⟩
  · rename_i hne
    have hhandle := (Move.handle (W := W) hne hlast).moves
    set y := write (fun d =>
      { d with handlings := d.handlings ++ [.handled d.cachedClientHello] }) x with hy
    obtain ⟨pre, id, hpre⟩ := hlast
    have hhandled : y.1.handlings = pre ++ [.startSSL id true, .handled y.1.cachedClientHello] := by
      simp [hy, hpre]
    unfold handleDtlsPacket
    by_cases hrecords : wholeRecords x.1.cachedClientHello
    · have hsignals := moves_onDtlsSignals (W := W) calls.onReceivedPacket y
      rw [if_pos hrecords]
      have hclear := Move.clear (W := W) (x := onDtlsSignals W calls.onReceivedPacket y)
        ⟨pre, id, by rw [hsignals.2.eq]; exact hhandled⟩
      refine ⟨(hhandle.trans hsignals.1).trans hclear.moves, ?_, rfl⟩
      exact hsignals.2.not_new (by simp [hy, hstate])
    · rw [if_neg hrecords]
      have hfail := Move.fail (W := W) (x := y) (.inl hstate)
      have hclear := Move.clear (W := W) (x := setDtlsState W .kFailed y)
        ⟨pre, id, by rw [setDtlsState_fst]; exact hhandled⟩
      exact ⟨(hhandle.trans hfail.moves).trans hclear.moves, by simp, rfl⟩

lemma moves_maybeStartDtls (calls : Calls)
    (hx : ∀ a ∈ x.1.dtls, a.called = false ∧ a.started = false) :
    Moves W x (maybeStartDtls W calls x) ∧ Fresh (maybeStartDtls W calls x).1 := by
  unfold maybeStartDtls
  cases ha : x.1.dtls with
  | none => exact ⟨.refl, fun _ a h => by simp [ha] at h⟩
  | some a =>
    obtain ⟨hcalled, hstarted⟩ := hx a ha
    by_cases hice : x.1.iceWritable = true
    · simp only [if_pos hice]
      have hcall := (Move.call (W := W) calls.startSSL.ok ha hcalled).moves
      have hsignals := moves_onDtlsSignals (W := W) calls.startSSL.signals
        (write (fun d =>
          { d with
            dtls := some { a with called := true }
            handlings := d.handlings ++ [.startSSL a.id calls.startSSL.ok] }) x)
      have hmoves := hcall.trans hsignals.1
      change Moves W x (callStartSSL W a calls.startSSL x) at hmoves
      have hframe : Signalled _ (callStartSSL W a calls.startSSL x).1 := hsignals.2
      set y := callStartSSL W a calls.startSSL x
      have hdtls : y.1.dtls = some { a with called := true } := hframe.dtls
      have hhandlings : y.1.handlings = x.1.handlings ++ [.startSSL a.id calls.startSSL.ok] := by
        rw [hframe.eq]
        rfl
      by_cases hok : calls.startSSL.ok = true
      · rw [if_pos hok]
        have hwrite : write (fun d => { d with dtls := d.dtls.map ({ · with started := true }) }) y =
            write ({ · with dtls := some { a with called := true, started := true } }) y :=
          write_congr (by simp [hdtls])
        rw [hwrite]
        have hstart := (Move.start (W := W) hdtls rfl hstarted).moves
        have hcached := moves_handleCached (W := W) calls
          (x := setDtlsState W .kConnecting
            (write ({ · with dtls := some { a with called := true, started := true } }) y))
          (by simp) ⟨x.1.handlings, a.id, by simp [hhandlings, hok]⟩
        exact ⟨(hmoves.trans hstart).trans hcached.1, fun hnew => absurd hnew hcached.2.1⟩
      · rw [if_neg hok]
        have hfail := Move.fail (W := W) (x := y) (.inr fun b hb => by
          rw [hdtls] at hb
          cases hb
          simp [hstarted])
        exact ⟨hmoves.trans hfail.moves, fun hnew => by simp at hnew⟩
    · simp only [if_neg hice]
      exact ⟨.refl, fun _ b hb => (hx b hb).1⟩

/-- The adapter was just created, whatever is set in it since. -/
def Unstarted (d : DtlsTransport) : Prop :=
  ∀ a ∈ d.dtls, a.called = false ∧ a.started = false

lemma Unstarted.unopened (h : Unstarted d) : Unopened d :=
  .inr fun a ha hopen => by simp [(h a ha).2] at hopen

lemma Unstarted.fresh (h : Unstarted d) : Fresh d := fun _ a ha => (h a ha).1

lemma Signalled.unstarted (h : Signalled d d') (hd : Unstarted d) : Unstarted d' := by
  rw [Unstarted, h.dtls]
  exact hd

lemma moves_callSetPeerCertificateDigest {a : SSLStreamAdapter} (call : Call)
    (ha : x.1.dtls = some a) (hset : a.digestSet = false)
    (hfp : x.1.remoteFingerprintValue ≠ []) :
    Moves W x (callSetPeerCertificateDigest W call x) ∧
      Signalled { x.1 with dtls := some { a with digestSet := call.ok } }
        (callSetPeerCertificateDigest W call x).1 := by
  unfold callSetPeerCertificateDigest
  have hwrite : write (fun d => { d with dtls := d.dtls.map ({ · with digestSet := call.ok }) }) x =
      write ({ · with dtls := some { a with digestSet := call.ok } }) x :=
    write_congr (by simp [ha])
  rw [hwrite]
  have hsignals := moves_onDtlsSignals (W := W) call.signals
    (write ({ · with dtls := some { a with digestSet := call.ok } }) x)
  exact ⟨(Move.digest call.ok ha hset hfp).moves.trans hsignals.1, hsignals.2⟩

lemma moves_setupCreated {a : SSLStreamAdapter} (calls : Calls) (ha : x.1.dtls = some a)
    (hset : a.digestSet = false) (hx : Unstarted x.1) :
    Moves W x (setupCreated W calls x).2 ∧ Fresh (setupCreated W calls x).2.1 ∧
      ((setupCreated W calls x).1 = false → Unopened (setupCreated W calls x).2.1) := by
  unfold setupCreated
  have hdigest : ∃ y, (if x.1.remoteFingerprintValue ≠ [] then
      callSetPeerCertificateDigest W calls.setPeerCertificateDigest x else x) = y ∧
      Moves W x y ∧ Unstarted y.1 := by
    refine ⟨_, rfl, ?_⟩
    by_cases hfp : x.1.remoteFingerprintValue = []
    · rw [if_neg (not_not.mpr hfp)]
      exact ⟨.refl, hx⟩
    · rw [if_pos hfp]
      obtain ⟨hmoves, hframe⟩ := moves_callSetPeerCertificateDigest (W := W)
        calls.setPeerCertificateDigest ha hset hfp
      exact ⟨hmoves, hframe.unstarted (by simpa [Unstarted] using hx a ha)⟩
  obtain ⟨y, hy, hmoves, hunstarted⟩ := hdigest
  simp only [hy]
  split
  · exact ⟨hmoves, hunstarted.fresh, fun _ => hunstarted.unopened⟩
  have hciphers : ∃ z, (if y.1.srtpCiphers ≠ [] then
      onDtlsSignals W calls.setDtlsSrtpCryptoSuites.signals y else y) = z ∧
      Moves W x z ∧ Unstarted z.1 := by
    refine ⟨_, rfl, ?_⟩
    split
    · have hsignals := moves_onDtlsSignals (W := W) calls.setDtlsSrtpCryptoSuites.signals y
      exact ⟨hmoves.trans hsignals.1, hsignals.2.unstarted hunstarted⟩
    · exact ⟨hmoves, hunstarted⟩
  obtain ⟨z, hz, hmoves, hunstarted⟩ := hciphers
  simp only [hz]
  split
  · exact ⟨hmoves, hunstarted.fresh, fun _ => hunstarted.unopened⟩
  · have hstart := moves_maybeStartDtls (W := W) calls hunstarted
    exact ⟨hmoves.trans hstart.1, hstart.2, fun h => by simp at h⟩

lemma moves_setupDtls (calls : Calls) (hx : x.1.dtls = none) :
    Moves W x (setupDtls W calls x).2 ∧ Fresh (setupDtls W calls x).2.1 ∧
      ((setupDtls W calls x).1 = false → Unopened (setupDtls W calls x).2.1) := by
  unfold setupDtls
  split
  · have hcreate := (Move.create (W := W) hx).moves
    have hsetup := moves_setupCreated (W := W) calls
      (x := write (fun d =>
        { d with dtls := some { id := d.created }, created := d.created + 1 }) x)
      rfl rfl (by simp [Unstarted])
    exact ⟨hcreate.trans hsetup.1, hsetup.2⟩
  · have hwrite : write ({ · with dtls := none }) x = x := by
      rw [write, ← hx]
    rw [hwrite]
    have hunstarted : Unstarted x.1 := by simp [Unstarted, hx]
    exact ⟨.refl, hunstarted.fresh, fun _ => hunstarted.unopened⟩

lemma moves_renewDtls (calls : Calls) (hx : x.1.dtls = none) :
    Moves W x (renewDtls W calls x).2 ∧ Fresh (renewDtls W calls x).2.1 := by
  have hsetup := moves_setupDtls (W := W) calls hx
  unfold renewDtls
  rcases hs : setupDtls W calls x with ⟨ok, y⟩
  rw [hs] at hsetup
  cases ok with
  | true => exact ⟨hsetup.1, hsetup.2.1⟩
  | false =>
    have hfail := (Move.fail (W := W) (hsetup.2.2 rfl)).moves
    exact ⟨hsetup.1.trans hfail, fun hnew => by simp at hnew⟩

/-! ## Events -/

/-- What holds of a transport wherever a move ends. -/
structure WellFormed (d : DtlsTransport) : Prop where
  digest : ∀ a ∈ d.dtls, a.digestSet → d.remoteFingerprintValue ≠ []
  called : ∀ a ∈ d.dtls, a.started → a.called
  session : d.dtlsState = .kConnecting ∨ d.dtlsState = .kConnected → ∃ a ∈ d.dtls, a.started

lemma WellFormed.move (hx : WellFormed x.1) (h : Move W x y) : WellFormed y.1 := by
  obtain ⟨hdigest, hcalled, hsession⟩ := hx
  cases h with
  | channel writable =>
    unfold noticeWritable
    dsimp only
    split
    · rw [setWritableState_fst]
      exact ⟨hdigest, hcalled, hsession⟩
    · exact ⟨hdigest, hcalled, hsession⟩
  | receiving => 
    rw [setReceiving_fst]
    exact ⟨hdigest, hcalled, hsession⟩
  | deactivate => exact ⟨hdigest, hcalled, hsession⟩
  | cache => exact ⟨hdigest, hcalled, hsession⟩
  | fingerprint digestAlg digest h =>
    refine ⟨fun a ha hset => ?_, hcalled, hsession⟩
    rcases h with h | h
    · exact h
    · exact absurd (h ▸ ha) (by simp)
  | drop => simp [dropDtls]; exact ⟨by simp, by simp, by simp⟩
  | create h =>
    refine ⟨?_, ?_, fun hs => ?_⟩
    · simp
    · simp
    · obtain ⟨a, ha, -⟩ := hsession hs
      simp [h] at ha
  | digest ok h hset hfp =>
    refine ⟨fun _ _ _ => hfp, ?_, fun hs => ?_⟩
    · simpa [h] using hcalled _ h
    · obtain ⟨b, hb, hstarted⟩ := hsession hs
      cases h.symm.trans hb
      exact ⟨_, rfl, hstarted⟩
  | call ok h hcalled' =>
    refine ⟨?_, ?_, fun hs => ?_⟩
    · simpa using hdigest _ h
    · simp
    · obtain ⟨b, hb, hstarted⟩ := hsession hs
      cases h.symm.trans hb
      exact ⟨_, rfl, hstarted⟩
  | start h hcalled' =>
    rw [setDtlsState_fst]
    refine ⟨?_, ?_, fun _ => ⟨_, rfl, rfl⟩⟩
    · simpa using hdigest _ h
    · simpa using hcalled'
  | handle => exact ⟨hdigest, hcalled, hsession⟩
  | clear => exact ⟨hdigest, hcalled, hsession⟩
  | fail =>
    rw [setDtlsState_fst]
    exact ⟨hdigest, hcalled, fun hs => by simp at hs⟩
  | opened hopen =>
    have hstarted := W.started_of_mayOpen _ hopen
    rw [setDtlsState_fst, setWritableState_fst]
    exact ⟨hdigest, hcalled, fun _ => hstarted⟩
  | shut hstate =>
    rw [shut_fst]
    refine ⟨hdigest, hcalled, fun hs => ?_⟩
    rcases hstate with rfl | rfl <;> simp at hs
  | closed => exact ⟨hdigest, hcalled, hsession⟩
  | packet => exact ⟨hdigest, hcalled, hsession⟩

/-- No event of a transport changes its certificate. -/
lemma Move.localCertificate (h : Move W x y) : y.1.localCertificate = x.1.localCertificate := by
  cases h with
  | channel writable =>
    unfold noticeWritable
    dsimp only
    split <;> simp
  | drop => simp [dropDtls]
  | _ => simp

lemma Moves.localCertificate (h : Moves W x y) : y.1.localCertificate = x.1.localCertificate :=
  h.invariant (J := fun y => y.1.localCertificate = x.1.localCertificate) rfl
    fun _ _ hx hm => hm.localCertificate.trans hx

lemma Moves.wellFormed (h : Moves W x y) (hx : WellFormed x.1) : WellFormed y.1 :=
  h.invariant (J := fun x => WellFormed x.1) hx fun _ _ hx hm => hx.move hm

lemma moves_onWritableState (writable : Bool) (calls : Calls) (hx : WellFormed x.1)
    (hfresh : Fresh x.1) :
    Moves W x (onWritableState W writable calls x) ∧
      Fresh (onWritableState W writable calls x).1 := by
  have hchannel := (Move.channel (W := W) (x := x) writable).moves
  unfold onWritableState
  unfold noticeWritable at hchannel
  dsimp only at hchannel ⊢
  cases hactive : x.1.dtlsActive with
  | false =>
    simp only [write_fst, hactive] at hchannel ⊢
    refine ⟨hchannel, ?_⟩
    simpa [Fresh] using hfresh
  | true =>
    cases hstate : x.1.dtlsState with
    | kNew =>
      simp only [write_fst, hactive, hstate] at hchannel ⊢
      have hstart := moves_maybeStartDtls (W := W) calls
        (x := write ({ · with iceWritable := writable }) x) fun a ha => by
          have hcalled := hfresh hstate a ha
          have hnot := (hx.called a ha).mt (by simp [hcalled])
          exact ⟨hcalled, by simpa using hnot⟩
      exact ⟨hchannel.trans hstart.1, hstart.2⟩
    | kConnected =>
      simp only [write_fst, hactive, hstate] at hchannel ⊢
      refine ⟨hchannel, fun hnew => ?_⟩
      simp [hstate] at hnew
    | _ =>
      simp only [write_fst, hactive, hstate] at hchannel ⊢
      exact ⟨hchannel, fun hnew => by simp [hstate] at hnew⟩

lemma Signalled.fresh (h : Signalled d d') (hd : Fresh d) : Fresh d' := by
  intro hnew a ha
  by_cases hstate : d.dtlsState = .kNew
  · exact hd hstate a (h.dtls ▸ ha)
  · exact absurd hnew (h.not_new hstate)

lemma moves_onReadPacket (buf : Bytes) (calls : Calls) (hfresh : Fresh x.1) :
    Moves W x (onReadPacket W buf calls x) ∧ Fresh (onReadPacket W buf calls x).1 := by
  unfold onReadPacket
  have hhandle := moves_handleDtlsPacket (W := W) calls.onReceivedPacket buf x
  cases hstate : x.1.dtlsState with
  | kNew =>
    dsimp only
    split
    · rename_i hhello
      have hcache := (Move.cache (W := W) buf hstate hhello).moves
      split
      · rename_i hsetup
        have hnone : x.1.dtls = none := by simpa using (Bool.and_eq_true_iff.mp hsetup).1
        have h := moves_setupDtls (W := W) calls
          (x := write (fun d =>
            { d with cachedClientHello := buf, handlings := d.handlings ++ [.cached buf] }) x) hnone
        exact ⟨hcache.trans h.1, h.2.1⟩
      · exact ⟨hcache, hfresh⟩
    · exact ⟨.refl, hfresh⟩
  | kConnecting =>
    dsimp only
    split
    · exact ⟨hhandle.1, hhandle.2.fresh hfresh⟩
    · exact ⟨.refl, hfresh⟩
  | kConnected =>
    dsimp only
    split
    · exact ⟨hhandle.1, hhandle.2.fresh hfresh⟩
    split
    · exact ⟨(Move.packet buf hstate).moves, hfresh⟩
    · exact ⟨.refl, hfresh⟩
  | kClosed => exact ⟨.refl, hfresh⟩
  | kFailed => exact ⟨.refl, hfresh⟩

lemma moves_setRemoteFingerprint (digestAlg : Text) (digest : Bytes) (calls : Calls)
    (hx : WellFormed x.1) (hfresh : Fresh x.1) :
    Moves W x (setRemoteFingerprint W digestAlg digest calls x).2 ∧
      Fresh (setRemoteFingerprint W digestAlg digest calls x).2.1 := by
  unfold setRemoteFingerprint
  split
  · exact ⟨.refl, hfresh⟩
  rename_i hidentical
  split
  · exact ⟨Move.deactivate.moves, hfresh⟩
  rename_i halg
  split
  · exact ⟨.refl, hfresh⟩
  rename_i hactive
  dsimp only
  cases ha : x.1.dtls with
  | none =>
    have hfp := (Move.fingerprint (W := W) (x := x) digestAlg digest (.inr ha)).moves
    have hrenew := moves_renewDtls (W := W) calls
      (x := write (fun d =>
        { d with remoteFingerprintValue := digest, remoteFingerprintAlg := digestAlg }) x) ha
    simp only [write_fst, ha]
    exact ⟨hfp.trans hrenew.1, hrenew.2⟩
  | some a =>
    by_cases hold : x.1.remoteFingerprintValue = []
    · have hdigest : digest ≠ [] := by
        rintro rfl
        exact hidentical ⟨by simpa using hactive, hold, halg⟩
      have hset : a.digestSet = false := by
        have hnot := (hx.digest a ha).mt (by simp [hold])
        simpa using hnot
      have hfp := (Move.fingerprint (W := W) (x := x) digestAlg digest (.inl hdigest)).moves
      obtain ⟨hcall, hframe⟩ := moves_callSetPeerCertificateDigest (W := W)
        (x := write (fun d =>
          { d with remoteFingerprintValue := digest, remoteFingerprintAlg := digestAlg }) x)
        calls.setPeerCertificateDigest ha hset hdigest
      rw [if_pos (by simp [ha, hold])]
      split
      · refine ⟨hfp.trans hcall, hframe.fresh fun hnew b hb => ?_⟩
        cases hb
        exact hfresh hnew a ha
      · rename_i hok
        have hfail := Move.fail (W := W) (x := callSetPeerCertificateDigest W
          calls.setPeerCertificateDigest (write (fun d =>
            { d with remoteFingerprintValue := digest, remoteFingerprintAlg := digestAlg }) x))
          (.inr fun b hb => by
            rw [hframe.dtls] at hb
            cases hb
            simp [hok])
        exact ⟨(hfp.trans hcall).trans hfail.moves, fun hnew => by simp at hnew⟩
    · have hdrop := (Move.drop (W := W) (x := x) digestAlg digest).moves
      have hrenew := moves_renewDtls (W := W) calls (x := dropDtls W digestAlg digest x)
        (by simp [dropDtls])
      rw [if_neg (by simp [hold]), if_pos (by simp [ha, hold])]
      exact ⟨hdrop.trans hrenew.1, hrenew.2⟩

/-- Each event is a sequence of moves. -/
theorem moves_dtlsStep (e : DtlsInput) (hx : WellFormed x.1) (hfresh : Fresh x.1) :
    Moves W x (dtlsStep W x e) ∧ Fresh (dtlsStep W x e).1 := by
  cases e with
  | iceWritable writable calls => exact moves_onWritableState writable calls hx hfresh
  | iceReceiving receiving =>
    refine ⟨(Move.receiving receiving).moves, ?_⟩
    simpa [dtlsStep, onReceivingState, Fresh] using hfresh
  | packet buf calls => exact moves_onReadPacket buf calls hfresh
  | remoteFingerprint digestAlg digest calls =>
    exact moves_setRemoteFingerprint digestAlg digest calls hx hfresh
  | dtlsEvent signals =>
    have h := moves_onDtlsSignals (W := W) signals x
    exact ⟨h.1, h.2.fresh hfresh⟩

section initial

variable (iceWritable : Bool) (srtpCiphers : List Nat) (cert : Option Nat)

@[simp] lemma initial_dtls : (initial iceWritable srtpCiphers cert).dtls = none := by
  cases cert <;> rfl

@[simp] lemma initial_dtlsState : (initial iceWritable srtpCiphers cert).dtlsState = .kNew := by
  cases cert <;> rfl

@[simp] lemma initial_handlings : (initial iceWritable srtpCiphers cert).handlings = [] := by
  cases cert <;> rfl

lemma wellFormed_initial : WellFormed (initial iceWritable srtpCiphers cert) :=
  ⟨by simp, by simp, by simp⟩

lemma fresh_initial : Fresh (initial iceWritable srtpCiphers cert) := by simp [Fresh]

end initial

/-- The run rule: what every move keeps holds after any events. -/
theorem dtlsSteps_invariant {J : DtlsTransport × ω → Prop} (hx : WellFormed x.1)
    (hfresh : Fresh x.1) (hJ : J x) (hmove : ∀ x y, J x → Move W x y → J y) (es : List DtlsInput) :
    J (es.foldl (dtlsStep W) x) := by
  induction es generalizing x with
  | nil => exact hJ
  | cons e es ih =>
    have hstep := moves_dtlsStep (W := W) e hx hfresh
    exact ih (hstep.1.wellFormed hx) hstep.2 (hstep.1.invariant hJ hmove)

end XrtcServer.Pc
