import XrtcServer.Pc.DtlsMoves

/-!
# When a transport can send

A transport with a session can send when its channel can, and one without a session cannot. The
channel's changes are heard in `k_new` and `k_connected` only, and the end of the handshake takes
the channel to be writable whatever has happened to it in between.
-/

namespace XrtcServer.Pc
open XrtcServer.Base XrtcServer.Core DtlsTransport

variable {ω : Type} {W : Wiring ω} {d d' : DtlsTransport} {x y : DtlsTransport × ω}

/-- Where DTLS is active, `writable()` is that of the channel with a session and false without. -/
def Current (d : DtlsTransport) : Prop :=
  d.dtlsActive = true →
    (d.dtlsState = .kConnected → d.writable = d.iceWritable) ∧
      (d.dtlsState ≠ .kConnected → d.writable = false)

instance (d : DtlsTransport) : Decidable (Current d) := by
  unfold Current
  infer_instance

/-- An adapter opens only after it was started and its digest was set. -/
def OpensVerified (W : Wiring ω) : Prop :=
  ∀ d, W.mayOpen d → ∃ a ∈ d.dtls, a.started ∧ a.digestSet

/-- The adapter does not signal `SE_OPEN` while the channel is not writable. -/
def Wiring.whileWritable (W : Wiring ω) : Wiring ω :=
  { W with
    mayOpen := fun d => W.mayOpen d && d.iceWritable
    started_of_mayOpen := fun d h => W.started_of_mayOpen d (Bool.and_eq_true_iff.mp h).1 }

def DtlsStep (W : Wiring ω) (x : DtlsTransport × ω) (e : DtlsInput) (y : DtlsTransport × ω) : Prop :=
  dtlsStep W x e = y

/-- In this step the adapter signals `SE_OPEN` only while the channel is writable. -/
def OpensWritable (W : Wiring ω) (x : DtlsTransport × ω) (e : DtlsInput) : Prop :=
  dtlsStep W x e = dtlsStep W.whileWritable x e

instance [DecidableEq ω] (x : DtlsTransport × ω) (e : DtlsInput) :
    Decidable (OpensWritable W x e) := inferInstanceAs (Decidable (_ = _))

structure Opened (W : Wiring ω) (d : DtlsTransport) : Prop where
  unwritable : d.dtlsActive = true → d.dtlsState ≠ .kConnected → d.writable = false
  current : (∀ d, W.mayOpen d → d.iceWritable) → d.dtlsActive = true →
    d.dtlsState = .kConnected → d.writable = d.iceWritable
  session : d.dtlsState = .kConnected → ∃ a ∈ d.dtls, a.started ∧ a.digestSet

/-- Without a session a transport may change in whatever does not open one. -/
lemma Opened.unconnected (hd : Opened W d) (hstate : d.dtlsState ≠ .kConnected)
    (hstate' : d'.dtlsState ≠ .kConnected) (hactive : d'.dtlsActive = d.dtlsActive)
    (hwritable : d'.writable = d.writable) : Opened W d' := by
  refine ⟨fun hd' _ => ?_, fun _ _ h => absurd h hstate', fun h => absurd h hstate'⟩
  rw [hwritable]
  exact hd.unwritable (hactive ▸ hd') hstate

lemma Opened.move (hverified : OpensVerified W) (hx : Opened W x.1) (h : Move W x y) :
    Opened W y.1 := by
  obtain ⟨hunwritable, hcurrent, hsession⟩ := hx
  have hclosed : ∀ a, x.1.dtls = some a → ¬ (a.started ∧ a.digestSet) →
      x.1.dtlsState ≠ .kConnected := by
    intro a ha hnot hstate
    obtain ⟨b, hb, hopen⟩ := hsession hstate
    cases ha.symm.trans hb
    exact hnot hopen
  cases h with
  | channel writable =>
    unfold noticeWritable
    dsimp only
    cases hactive : x.1.dtlsActive with
    | false =>
      rw [if_pos (by simp [hactive]), setWritableState_fst]
      exact ⟨fun h => by simp [hactive] at h, fun _ h => by simp [hactive] at h, hsession⟩
    | true =>
      by_cases hstate : x.1.dtlsState = .kConnected
      · rw [if_pos (by simp [hstate]), setWritableState_fst]
        exact ⟨fun _ h => absurd hstate h, fun _ _ _ => rfl, hsession⟩
      · rw [if_neg (by simp [hactive, hstate])]
        exact Opened.unconnected ⟨hunwritable, hcurrent, hsession⟩ hstate hstate rfl rfl
  | receiving =>
    rw [setReceiving_fst]
    exact ⟨hunwritable, hcurrent, hsession⟩
  | deactivate => exact ⟨fun h => by simp at h, fun _ h => by simp at h, hsession⟩
  | cache => exact ⟨hunwritable, hcurrent, hsession⟩
  | fingerprint => exact ⟨hunwritable, hcurrent, hsession⟩
  | drop =>
    rw [dropDtls, setWritableState_fst, setDtlsState_fst]
    exact ⟨fun _ _ => rfl, fun _ _ h => by simp at h, fun h => by simp at h⟩
  | create h =>
    refine ⟨hunwritable, hcurrent, fun hstate => ?_⟩
    obtain ⟨a, ha, -⟩ := hsession hstate
    simp [h] at ha
  | digest ok h hset =>
    have hstate := hclosed _ h (by simp [hset])
    exact Opened.unconnected ⟨hunwritable, hcurrent, hsession⟩ hstate hstate rfl rfl
  | call ok h =>
    refine ⟨hunwritable, hcurrent, fun hstate => ?_⟩
    obtain ⟨b, hb, hopen⟩ := hsession hstate
    cases h.symm.trans hb
    exact ⟨_, rfl, hopen⟩
  | start h _ hstarted =>
    have hstate := hclosed _ h (by simp [hstarted])
    rw [setDtlsState_fst]
    exact Opened.unconnected ⟨hunwritable, hcurrent, hsession⟩ hstate (by simp) rfl rfl
  | handle => exact ⟨hunwritable, hcurrent, hsession⟩
  | clear => exact ⟨hunwritable, hcurrent, hsession⟩
  | fail h =>
    have hstate : x.1.dtlsState ≠ .kConnected := by
      rcases h with h | h
      · simp [h]
      · intro hstate
        obtain ⟨a, ha, hopen⟩ := hsession hstate
        exact h a ha hopen
    rw [setDtlsState_fst]
    exact Opened.unconnected ⟨hunwritable, hcurrent, hsession⟩ hstate (by simp) rfl rfl
  | opened hopen =>
    have hset := hverified _ hopen
    rw [setDtlsState_fst, setWritableState_fst]
    exact ⟨fun _ h => absurd rfl h, fun hchannel _ _ => (hchannel _ hopen).symm, fun _ => hset⟩
  | shut hstate =>
    rw [shut_fst]
    refine ⟨fun _ _ => rfl, fun _ _ h => ?_, fun h => ?_⟩ <;> rcases hstate with rfl | rfl <;>
      simp at h
  | closed => exact ⟨hunwritable, hcurrent, hsession⟩
  | packet => exact ⟨hunwritable, hcurrent, hsession⟩

section runs

variable (w : ω) (iceWritable : Bool) (srtpCiphers : List Nat) (cert : Option Nat)

lemma opened_initial : Opened W (initial iceWritable srtpCiphers cert) := by
  refine ⟨fun _ _ => ?_, fun _ _ h => ?_, fun h => ?_⟩
  · cases cert <;> rfl
  · simp at h
  · simp at h

lemma opened_dtlsSteps (hverified : OpensVerified W) (es : List DtlsInput) :
    Opened W (es.foldl (dtlsStep W) (initial iceWritable srtpCiphers cert, w)).1 :=
  dtlsSteps_invariant (J := fun x => Opened W x.1)
    (x := (initial iceWritable srtpCiphers cert, w)) (wellFormed_initial _ _ _)
    (fresh_initial _ _ _) (opened_initial _ _ _) (fun _ _ hx hm => hx.move hverified hm) es

/-- A transport without a session never says that it can send. -/
theorem unwritable_of_not_connected (hverified : OpensVerified W) (es : List DtlsInput)
    (hactive : (es.foldl (dtlsStep W) (initial iceWritable srtpCiphers cert, w)).1.dtlsActive)
    (hstate : (es.foldl (dtlsStep W) (initial iceWritable srtpCiphers cert, w)).1.dtlsState ≠
      .kConnected) :
    (es.foldl (dtlsStep W) (initial iceWritable srtpCiphers cert, w)).1.writable = false :=
  (opened_dtlsSteps w iceWritable srtpCiphers cert hverified es).unwritable hactive hstate

/-- In a run in which the adapter signals `SE_OPEN` only while the channel is writable, `writable()`
is never out of date. -/
theorem writable_current (hverified : OpensVerified W) {es : List DtlsInput}
    (h : Meets (DtlsStep W) (OpensWritable W) (initial iceWritable srtpCiphers cert, w) es) :
    Along (DtlsStep W) (fun x => Current x.1) (initial iceWritable srtpCiphers cert, w) es := by
  have hwritable : ∀ d, W.whileWritable.mayOpen d → d.iceWritable :=
    fun d hopen => (Bool.and_eq_true_iff.mp hopen).2
  have hverified' : OpensVerified W.whileWritable :=
    fun d hopen => hverified d (Bool.and_eq_true_iff.mp hopen).1
  have halong := h.along
    (I := fun x => WellFormed x.1 ∧ Fresh x.1 ∧ Opened W.whileWritable x.1) ?_
    ⟨wellFormed_initial _ _ _, fresh_initial _ _ _, opened_initial _ _ _⟩
  · refine halong.mono fun x hx hactive => ?_
    exact ⟨hx.2.2.current hwritable hactive, hx.2.2.unwritable hactive⟩
  · rintro x e _ ⟨hwell, hfresh, hopened⟩ hopens rfl
    rw [hopens]
    have hstep := moves_dtlsStep (W := W.whileWritable) e hwell hfresh
    exact ⟨hstep.1.wellFormed hwell, hstep.2,
      hstep.1.invariant (J := fun x => Opened W.whileWritable x.1) hopened
        fun _ _ hx hm => hx.move hverified' hm⟩

end runs

/-- No slot is connected; an adapter may open once it was started and its digest was set. -/
def verifiedWiring : Wiring Unit :=
  { onDtlsState := fun _ w => w
    onWritableState := fun _ w => w
    onReceivingState := fun _ w => w
    onReadPacket := fun _ _ w => w
    onClosed := fun _ w => w
    mayOpen := fun d => d.dtls.any fun a => a.started && a.digestSet
    started_of_mayOpen := fun d h => by
      simp only [Option.any_eq_true, Bool.and_eq_true] at h
      obtain ⟨a, ha, hstarted, -⟩ := h
      exact ⟨a, ha, hstarted⟩ }

lemma opensVerified_verifiedWiring : OpensVerified verifiedWiring := by
  intro d h
  simp only [verifiedWiring, Option.any_eq_true, Bool.and_eq_true] at h
  exact h

/-- A handshake that is complete when the channel says whether it can send. -/
def handshakeThen (writable : Bool) : List DtlsInput :=
  [.iceWritable true {}, .remoteFingerprint "sha-256".toList [1] {}, .iceWritable writable {},
    .dtlsEvent [.opened]]

theorem handshake_current :
    Along (DtlsStep verifiedWiring) (fun x => Current x.1) (initial false [1] (some 0), ())
        (handshakeThen true) ∧
      ((handshakeThen true).foldl (dtlsStep verifiedWiring)
        (initial false [1] (some 0), ())).1.writable = true := by
  refine ⟨writable_current () false [1] (some 0) opensVerified_verifiedWiring ?_, by decide⟩
  rintro _ rfl
  refine ⟨by decide, ?_⟩
  rintro _ rfl
  refine ⟨by decide, ?_⟩
  rintro _ rfl
  refine ⟨by decide, ?_⟩
  rintro _ rfl
  exact ⟨by decide, trivial⟩

/-- The channel becomes unwritable while the handshake runs, which the transport never takes in. -/
theorem handshake_not_current :
    OpensVerified verifiedWiring ∧
      ¬ Along (DtlsStep verifiedWiring) (fun x => Current x.1) (initial false [1] (some 0), ())
        (handshakeThen false) := by
  refine ⟨opensVerified_verifiedWiring, fun h => ?_⟩
  have hlast := (((h.2 _ rfl).2 _ rfl).2 _ rfl).2 _ rfl
  exact absurd hlast.head (by decide)

end XrtcServer.Pc
