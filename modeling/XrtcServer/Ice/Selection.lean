import XrtcServer.Ice.Channel
import XrtcServer.Core.Run

/-!
# The selected connection

The controller and the channel each keep a selected connection. Every operation of a channel moves
both to the same member of the controller's list or leaves both alone, except for the destruction
of the selected connection. This file derives from that when the two copies agree over a run, and
when the choice of the sort is a writable connection.
-/

namespace XrtcServer.Ice
open XrtcServer.Base XrtcServer.Core IceTransportChannel

variable {ch ch' ch₁ : IceTransportChannel} {p q t : ConnPtr} {now : Int}

namespace IceTransportChannel

@[simp] lemma iceController_modify (ch : IceTransportChannel) (p : ConnPtr)
    (f : IceConnection → IceConnection) :
    (ch.modify p f).iceController = ch.iceController := rfl

@[simp] lemma selectedConnection_modify (ch : IceTransportChannel) (p : ConnPtr)
    (f : IceConnection → IceConnection) :
    (ch.modify p f).selectedConnection = ch.selectedConnection := rfl

@[simp] lemma live_modify (ch : IceTransportChannel) (p : ConnPtr)
    (f : IceConnection → IceConnection) : (ch.modify p f).live = ch.live := rfl

lemma memory_modify (ch : IceTransportChannel) (p q : ConnPtr)
    (f : IceConnection → IceConnection) :
    (ch.modify p f).memory q = if q = p then f (ch.memory p) else ch.memory q := by
  simp [modify, Function.update_apply]

/-! ### The update of the state touches flags only -/

@[simp] lemma iceController_setWritable (ch : IceTransportChannel) (w : Bool) :
    (ch.setWritable w).iceController = ch.iceController := by
  unfold setWritable; split <;> rfl

@[simp] lemma selectedConnection_setWritable (ch : IceTransportChannel) (w : Bool) :
    (ch.setWritable w).selectedConnection = ch.selectedConnection := by
  unfold setWritable; split <;> rfl

@[simp] lemma live_setWritable (ch : IceTransportChannel) (w : Bool) :
    (ch.setWritable w).live = ch.live := by
  unfold setWritable; split <;> rfl

@[simp] lemma memory_setWritable (ch : IceTransportChannel) (w : Bool) :
    (ch.setWritable w).memory = ch.memory := by
  unfold setWritable; split <;> rfl

@[simp] lemma writable_setWritable (ch : IceTransportChannel) (w : Bool) :
    (ch.setWritable w).writable = w := by
  unfold setWritable; split <;> simp_all

@[simp] lemma iceController_updateState (ch : IceTransportChannel) :
    ch.updateState.iceController = ch.iceController :=
  iceController_setWritable ..

@[simp] lemma selectedConnection_updateState (ch : IceTransportChannel) :
    ch.updateState.selectedConnection = ch.selectedConnection :=
  selectedConnection_setWritable ..

@[simp] lemma live_updateState (ch : IceTransportChannel) : ch.updateState.live = ch.live :=
  live_setWritable ..

@[simp] lemma memory_updateState (ch : IceTransportChannel) :
    ch.updateState.memory = ch.memory :=
  memory_setWritable ..

@[simp] lemma writable_updateState (ch : IceTransportChannel) :
    ch.updateState.writable = ch.selectedWritable :=
  writable_setWritable ..

lemma maybeStartPinging_eq (ch : IceTransportChannel) (now : Int) :
    ch.maybeStartPinging now =
      { ch with startPinging := ch.startPinging || ch.hasPingableConnection now } := by
  unfold maybeStartPinging
  cases hs : ch.startPinging with
  | true => rw [if_pos rfl, Bool.true_or, ← hs]
  | false =>
    cases ch.hasPingableConnection now with
    | true => rfl
    | false => rw [if_neg (by simp), if_neg (by simp), Bool.or_self, ← hs]

/-! ### The switch -/

lemma iceController_switch_some (ch : IceTransportChannel) (t : ConnPtr) :
    (ch.switchSelectedConnection (some t)).iceController =
      { ch.iceController with selectedConnection := some t } := by
  unfold switchSelectedConnection
  cases ch.selectedConnection <;> rfl

lemma iceController_switch_none (ch : IceTransportChannel) :
    (ch.switchSelectedConnection none).iceController = ch.iceController := by
  unfold switchSelectedConnection
  cases ch.selectedConnection <;> rfl

@[simp] lemma selectedConnection_switch (ch : IceTransportChannel) (c : Option ConnPtr) :
    (ch.switchSelectedConnection c).selectedConnection = c := by
  unfold switchSelectedConnection
  cases ch.selectedConnection <;> cases c <;> rfl

@[simp] lemma live_switch (ch : IceTransportChannel) (c : Option ConnPtr) :
    (ch.switchSelectedConnection c).live = ch.live := by
  unfold switchSelectedConnection
  cases ch.selectedConnection <;> cases c <;> rfl

lemma sameButSelected_modify (ch : IceTransportChannel) (p q : ConnPtr) (b : Bool) :
    (ch.memory q).SameButSelected ((ch.modify p (.setSelected b)).memory q) := by
  rw [memory_modify]
  by_cases hq : q = p
  · subst hq
    simp only [if_true]
    exact ⟨b, rfl⟩
  · rw [if_neg hq]
    exact .refl _

lemma memory_switch (ch : IceTransportChannel) (c : Option ConnPtr) (q : ConnPtr) :
    (ch.memory q).SameButSelected ((ch.switchSelectedConnection c).memory q) := by
  unfold switchSelectedConnection
  cases ch.selectedConnection with
  | none =>
    cases c with
    | none => exact .refl _
    | some t => exact sameButSelected_modify _ t q true
  | some s =>
    cases c with
    | none => exact sameButSelected_modify _ s q false
    | some t =>
      exact (sameButSelected_modify ch s q false).trans (sameButSelected_modify _ t q true)

/-! ### The sort -/

lemma strictWeak_better (ch : IceTransportChannel) : StrictWeak ch.better :=
  IceConnection.better_strictWeak.comap ch.memory

/-- The sort makes the channel switch to `t`: the first connection is ready to send, is not the
selected one already, and is faster than that by the required improvement. -/
structure Switches (ch : IceTransportChannel) (t : ConnPtr) : Prop where
  first : IsFirst ch.better ch.iceController.connections t
  ready : ch.readyToSend (some t) = true
  other : ch.iceController.selectedConnection ≠ some t
  faster : ∀ s, ch.iceController.selectedConnection = some s →
    (ch.memory t).rtt ≤ (ch.memory s).rtt - kMinImprovement

@[simp] lemma memory_sortConnections (ch : IceTransportChannel) :
    ch.sortConnections.memory = ch.memory := rfl

@[simp] lemma live_sortConnections (ch : IceTransportChannel) :
    ch.sortConnections.live = ch.live := rfl

@[simp] lemma selectedConnection_sortConnections (ch : IceTransportChannel) :
    ch.sortConnections.selectedConnection = ch.selectedConnection := rfl

@[simp] lemma iceController_sortConnections (ch : IceTransportChannel) :
    ch.sortConnections.iceController =
      { ch.iceController with connections := stableSort ch.better ch.iceController.connections } :=
  rfl

lemma sortAndSwitchConnection_snd (ch : IceTransportChannel) :
    ch.sortAndSwitchConnection.2 = ch.sortConnections := by
  unfold sortAndSwitchConnection
  dsimp only
  split
  · rfl
  · split
    · split <;> rfl
    · rfl

lemma sortAndSwitchConnection_fst (ch : IceTransportChannel) (t : ConnPtr) :
    ch.sortAndSwitchConnection.1 = some t ↔ ch.Switches t := by
  have hfirst : ch.sortConnections.iceController.connections.head? = some t ↔ _ :=
    head?_stableSort_eq_some_iff ch.strictWeak_better
  unfold sortAndSwitchConnection
  dsimp only
  constructor
  · intro h
    split at h
    · cases h
    · rename_i hgate
      simp only [Bool.or_eq_true, Bool.not_eq_true', decide_eq_true_eq, not_or,
        Bool.not_eq_false] at hgate
      obtain ⟨hready, hother⟩ := hgate
      split at h
      · rename_i s u hs hu
        split at h
        · rename_i hrtt
          dsimp only at h
          cases hu.symm.trans h
          refine ⟨hfirst.mp h, by rwa [h] at hready, by rwa [h] at hother, fun s' hs' => ?_⟩
          cases hs.symm.trans hs'
          exact hrtt
        · cases h
      · rename_i hnone
        dsimp only at h
        refine ⟨hfirst.mp h, by rwa [h] at hready, by rwa [h] at hother, fun s hs => ?_⟩
        exact absurd h (hnone s t hs)
  · rintro ⟨hf, hready, hother, hfaster⟩
    have hready' : ch.sortConnections.readyToSend (some t) = true := hready
    rw [hfirst.mpr hf, hready', if_neg (by simp [hother])]
    simp only [iceController_sortConnections, memory_sortConnections]
    cases hs : ch.iceController.selectedConnection with
    | none => rfl
    | some s => simp [hfaster s hs]

/-- What a sort with the update after it does. -/
structure SortResult (ch ch' : IceTransportChannel) : Prop where
  connections :
    ch'.iceController.connections = stableSort ch.better ch.iceController.connections
  live : ch'.live = ch.live
  memory : ∀ p, (ch.memory p).SameButSelected (ch'.memory p)
  writable : ch'.writable = ch'.selectedWritable
  choice :
    (∃ t, ch.Switches t ∧ ch'.iceController.selectedConnection = some t ∧
      ch'.selectedConnection = some t) ∨
    ((∀ t, ¬ ch.Switches t) ∧
      ch'.iceController.selectedConnection = ch.iceController.selectedConnection ∧
      ch'.selectedConnection = ch.selectedConnection)

theorem sortConnectionAndUpdateState_spec (ch : IceTransportChannel) (now : Int) :
    SortResult ch (ch.sortConnectionAndUpdateState now) := by
  unfold sortConnectionAndUpdateState
  dsimp only
  rw [sortAndSwitchConnection_snd, maybeStartPinging_eq]
  cases hc : ch.sortAndSwitchConnection.1 with
  | none =>
    have hstay : ∀ t, ¬ ch.Switches t := by
      intro t ht
      rw [(sortAndSwitchConnection_fst ch t).mpr ht] at hc
      cases hc
    exact ⟨by simp [maybeSwitchSelectedConnection], by simp [maybeSwitchSelectedConnection],
      fun p => by simp [maybeSwitchSelectedConnection, IceConnection.SameButSelected.refl],
      by simp [maybeSwitchSelectedConnection, selectedWritable],
      Or.inr ⟨hstay, by simp [maybeSwitchSelectedConnection],
        by simp [maybeSwitchSelectedConnection]⟩⟩
  | some t =>
    have hgo := (sortAndSwitchConnection_fst ch t).mp hc
    have hmem := ch.sortConnections.memory_switch (some t)
    exact ⟨by simp [maybeSwitchSelectedConnection, iceController_switch_some],
      by simp [maybeSwitchSelectedConnection],
      fun p => by simpa [maybeSwitchSelectedConnection] using hmem p,
      by simp [maybeSwitchSelectedConnection, selectedWritable],
      Or.inl ⟨t, hgo, by simp [maybeSwitchSelectedConnection, iceController_switch_some],
        by simp [maybeSwitchSelectedConnection]⟩⟩

end IceTransportChannel

/-- The channels differ in the two sets of a ping round only. -/
def SetsOnly (ch ch' : IceTransportChannel) : Prop :=
  ∃ unpinged pinged, ch' =
    { ch with
      iceController :=
        { ch.iceController with
          unpingedConnections := unpinged
          pingedConnections := pinged } }

lemma setsOnly_selectConnectionToPing (ch : IceTransportChannel) (last now : Int) :
    SetsOnly ch (ch.selectConnectionToPing last now).2.2 := by
  unfold selectConnectionToPing findNextPingableConnection
  dsimp only
  split
  · dsimp only
    split
    · exact ⟨_, _, rfl⟩
    · dsimp only
      split <;> exact ⟨_, _, rfl⟩
  · exact ⟨_, _, rfl⟩

lemma setsOnly_markConnectionPinged (ch : IceTransportChannel) (p : ConnPtr) :
    SetsOnly ch (ch.markConnectionPinged p) := by
  unfold markConnectionPinged
  dsimp only
  split <;> exact ⟨_, _, rfl⟩

/-- A check stays within a preorder that its parts are in. -/
lemma rel_onCheckAndPing {r : IceTransportChannel → IceTransportChannel → Prop}
    (hrefl : ∀ ch, r ch ch) (htrans : ∀ ch₁ ch₂ ch₃, r ch₁ ch₂ → r ch₂ ch₃ → r ch₁ ch₃)
    {id : TransactionId} (hupdate : ∀ ch p, r ch (ch.updateConnectionState p now))
    (hsets : ∀ ch ch', SetsOnly ch ch' → r ch ch')
    (hping : ∀ ch p, r ch (ch.pingConnection p id now))
    (hinterval : ∀ (ch : IceTransportChannel) i, r ch { ch with curPingInterval := i })
    (ch : IceTransportChannel) : r ch (ch.onCheckAndPing id now) := by
  unfold onCheckAndPing
  dsimp only
  have hupdated := rel_foldl hrefl htrans hupdate ch.iceController.connections ch
  set ch₁ := ch.iceController.connections.foldl (fun ch p => ch.updateConnectionState p now) ch
  have hselect := hsets _ _
    (setsOnly_selectConnectionToPing ch₁ (ch₁.lastPingSentMs - pingIntervalDiff) now)
  refine htrans _ _ _ (htrans _ _ _ hupdated hselect) ?_
  split
  · exact hinterval _ _
  · rename_i p hp
    have hmark : ∀ ch : IceTransportChannel, r ch (ch.markConnectionPinged p) :=
      fun ch => hsets _ _ (setsOnly_markConnectionPinged ch p)
    exact htrans _ _ _ (htrans _ _ _ (hping _ p) (hmark _)) (hinterval _ _)

/-! ## What sorts and harmless writes keep -/

/-- When a connection has received. -/
def IceConnection.receivedTimes (c : IceConnection) : Int × Int × Int :=
  (c.lastPingReceived, c.lastPingResponseReceived, c.lastDataReceived)

/-- A write that a connection makes while it reports: the candidate and the times stay. -/
structure Quiet (f : IceConnection → IceConnection) : Prop where
  port : ∀ c, (f c).port = c.port
  remoteCandidate : ∀ c, (f c).remoteCandidate = c.remoteCandidate
  lastPingSent : ∀ c, (f c).lastPingSent = c.lastPingSent
  receivedTimes : ∀ c, (f c).receivedTimes = c.receivedTimes

/-- A preorder on channels that has the sort and quiet writes in it. -/
structure Reports (r : IceTransportChannel → IceTransportChannel → Prop) : Prop where
  refl : ∀ ch, r ch ch
  trans : ∀ {ch₁ ch₂ ch₃}, r ch₁ ch₂ → r ch₂ ch₃ → r ch₁ ch₃
  modify : ∀ ch p f, Quiet f → r ch (ch.modify p f)
  sort : ∀ ch now, r ch (ch.sortConnectionAndUpdateState now)

namespace Reports

variable {r : IceTransportChannel → IceTransportChannel → Prop} (h : Reports r)
include h

lemma foldl {f : IceTransportChannel → ConnPtr → IceTransportChannel}
    (hf : ∀ ch p, r ch (f ch p)) (l : List ConnPtr) (ch : IceTransportChannel) :
    r ch (l.foldl f ch) :=
  rel_foldl h.refl (fun _ _ _ => h.trans) hf l ch

lemma updateReceiving (ch : IceTransportChannel) (p : ConnPtr) (now : Int) :
    r ch (ch.updateReceiving p now) := by
  unfold IceTransportChannel.updateReceiving onConnectionStateChange
  dsimp only
  split
  · exact h.refl ch
  · refine h.trans (h.modify ch p _ ?_) (h.sort ..)
    exact ⟨fun _ => rfl, fun _ => rfl, fun _ => rfl, fun _ => rfl⟩

lemma setWriteState (ch : IceTransportChannel) (p : ConnPtr) (state : WriteState) (now : Int) :
    r ch (ch.setWriteState p state now) := by
  have hwrite := h.modify ch p ({ · with writeState := state })
    ⟨fun _ => rfl, fun _ => rfl, fun _ => rfl, fun _ => rfl⟩
  unfold IceTransportChannel.setWriteState onConnectionStateChange
  dsimp only
  split
  · exact h.trans hwrite (h.sort ..)
  · exact hwrite

/-- What follows once a response was recorded. -/
lemma receivedPingResponse (ch : IceTransportChannel) (p : ConnPtr) (rtt now : Int) :
    r (ch.modify p (recordResponse rtt now)) (ch.receivedPingResponse p rtt now) := by
  have hreport := h.trans (h.updateReceiving (ch.modify p (recordResponse rtt now)) p now)
    (h.setWriteState _ p .stateWritable now)
  refine h.trans hreport (h.modify _ p ({ · with state := .succeeded }) ?_)
  exact ⟨fun _ => rfl, fun _ => rfl, fun _ => rfl, fun _ => rfl⟩

lemma removeRequest (ch : IceTransportChannel) (p : ConnPtr) (id : TransactionId) :
    r ch (ch.removeRequest p id) :=
  h.modify ch p _ ⟨fun _ => rfl, fun _ => rfl, fun _ => rfl, fun _ => rfl⟩

lemma fail (ch : IceTransportChannel) (p : ConnPtr) :
    r ch (ch.modify p ({ · with state := .failed })) :=
  h.modify ch p _ ⟨fun _ => rfl, fun _ => rfl, fun _ => rfl, fun _ => rfl⟩

lemma updateConnectionState (ch : IceTransportChannel) (p : ConnPtr) (now : Int) :
    r ch (ch.updateConnectionState p now) := by
  have hunreliable : r ch (ch.becomeUnreliable p now) := by
    unfold becomeUnreliable
    dsimp only
    split
    · exact h.setWriteState ..
    · exact h.refl ch
  have htimedOut : ∀ ch : IceTransportChannel, r ch (ch.becomeTimedOut p now) := by
    intro ch
    unfold becomeTimedOut
    dsimp only
    split
    · exact h.setWriteState ..
    · exact h.refl ch
  exact h.trans (h.trans hunreliable (htimedOut _)) (h.updateReceiving ..)

end Reports

/-- A write to members of a connection that touches neither what a port files it under nor the time
of its last ping. -/
structure Harmless (f : IceConnection → IceConnection) : Prop where
  key : ∀ c, (f c).key = c.key
  lastPingSent : ∀ c, (f c).lastPingSent = c.lastPingSent

lemma Quiet.harmless {f : IceConnection → IceConnection} (h : Quiet f) : Harmless f where
  key c := by rw [IceConnection.key, IceConnection.key, h.port, h.remoteCandidate]
  lastPingSent := h.lastPingSent

/-- A preorder on channels that has the sort, harmless writes and a change of the remote parameters
in it. Whatever reports by a sort is in it, too. -/
structure Absorbs (r : IceTransportChannel → IceTransportChannel → Prop) : Prop where
  refl : ∀ ch, r ch ch
  trans : ∀ {ch₁ ch₂ ch₃}, r ch₁ ch₂ → r ch₂ ch₃ → r ch₁ ch₃
  modify : ∀ ch p f, Harmless f → r ch (ch.modify p f)
  sort : ∀ ch now, r ch (ch.sortConnectionAndUpdateState now)
  remoteIceParams : ∀ (ch : IceTransportChannel) params, r ch { ch with remoteIceParams := params }

namespace Absorbs

variable {r : IceTransportChannel → IceTransportChannel → Prop} (h : Absorbs r)
include h

lemma reports : Reports r where
  refl := h.refl
  trans := h.trans
  modify ch p f hf := h.modify ch p f hf.harmless
  sort := h.sort

lemma receivedPingResponse (ch : IceTransportChannel) (p : ConnPtr) (rtt now : Int) :
    r ch (ch.receivedPingResponse p rtt now) := by
  have hrecord := h.modify ch p (recordResponse rtt now) ⟨fun _ => rfl, fun _ => rfl⟩
  exact h.trans hrecord (h.reports.receivedPingResponse ch p rtt now)

lemma setRemoteIceParams (ch : IceTransportChannel) (params : IceParameters) (now : Int) :
    r ch (ch.setRemoteIceParams params now) := by
  refine h.trans (h.trans (h.remoteIceParams ch params) (h.reports.foldl (fun ch p => ?_) _ _))
    (h.sort ..)
  refine h.modify ch p _ ⟨fun c => ?_, fun c => ?_⟩
  · split <;> rfl
  · split <;> rfl

end Absorbs

/-! ## What an event does -/

/-- An event of a channel and what comes of it, one case for each way that it can go. -/
inductive Applied (ch : IceTransportChannel) : Event → IceTransportChannel → Prop
  | ignored {p : ConnPtr} {port : Nat} {localPriority : UInt32} {addr : SocketAddress}
      {remoteUfrag : Bytes} {now : Int} (hp : ch.live p = false) :
      Applied ch (.unknownAddress p port localPriority addr none remoteUfrag now) ch
  | added {p : ConnPtr} {port : Nat} {localPriority : UInt32} {addr : SocketAddress}
      {priority : UInt32} {remoteUfrag : Bytes} {now : Int} {conn : IceConnection}
      (hp : ch.live p = false)
      (hconn : conn =
        { port, localPriority, remoteCandidate := ch.remoteCandidate addr remoteUfrag priority }) :
      Applied ch (.unknownAddress p port localPriority addr (some priority) remoteUfrag now)
        (((ch.newConnection p conn).addConnection p).sortConnectionAndUpdateState now)
  | answered {p : ConnPtr} {id : TransactionId} {ts now : Int} (hp : ch.live p = true)
      (hts : (ch.memory p).requests id = some ts) :
      Applied ch (.pingResponse p id now)
        ((ch.onConnectionRequestResponse p ts now).removeRequest p id)
  | retried {p : ConnPtr} {id : TransactionId} {errorCode ts now : Int} (hp : ch.live p = true)
      (hts : (ch.memory p).requests id = some ts) (hcode : retryable errorCode = true) :
      Applied ch (.pingErrorResponse p id errorCode now) (ch.removeRequest p id)
  | failed {p : ConnPtr} {id : TransactionId} {errorCode ts now : Int} (hp : ch.live p = true)
      (hts : (ch.memory p).requests id = some ts) (hcode : retryable errorCode = false) :
      Applied ch (.pingErrorResponse p id errorCode now)
        ((ch.removeRequest p id).failAndDestroy p now)
  | checked {id : TransactionId} {now : Int} :
      Applied ch (.checkAndPing id now) (ch.onCheckAndPing id now)
  | informed {params : IceParameters} {now : Int} :
      Applied ch (.setRemoteIceParams params now) (ch.setRemoteIceParams params now)
  | destroyed {p : ConnPtr} {now : Int} (hp : ch.live p = true) :
      Applied ch (.destroy p now) (ch.destroy p now)

lemma applied_of_apply {e : Event} (he : apply ch e = some ch') : Applied ch e ch' := by
  cases e with
  | unknownAddress p port localPriority addr priority remoteUfrag now =>
    simp only [Ice.apply, Option.ite_none_left_eq_some, Bool.not_eq_true] at he
    obtain ⟨hp, he⟩ := he
    cases he
    cases priority with
    | none => exact .ignored hp
    | some priority => exact .added hp rfl
  | pingResponse p id now =>
    obtain ⟨hp, he⟩ := Option.ite_none_right_eq_some.mp he
    obtain ⟨ts, hts, rfl⟩ := Option.map_eq_some_iff.mp he
    exact .answered hp hts
  | pingErrorResponse p id errorCode now =>
    obtain ⟨hp, he⟩ := Option.ite_none_right_eq_some.mp he
    obtain ⟨ts, hts, rfl⟩ := Option.map_eq_some_iff.mp he
    unfold onConnectionRequestErrorResponse
    split
    next hcode => exact .retried hp hts hcode
    next hcode => exact .failed hp hts (Bool.eq_false_of_not_eq_true hcode)
  | checkAndPing id now =>
    cases he
    exact .checked
  | setRemoteIceParams params now =>
    cases he
    exact .informed
  | destroy p now =>
    obtain ⟨hp, he⟩ := Option.ite_none_right_eq_some.mp he
    cases he
    exact .destroyed hp

/-! ## The choice of a writable connection -/

/-- While a connection is writable, the selected one is, and the channel says so. -/
def PrefersWritable (ch : IceTransportChannel) : Prop :=
  (∃ p ∈ ch.iceController.connections, (ch.memory p).writable = true) →
    ch.selectedWritable = true ∧ ch.writable = true

/-- The first connection is not the controller's selected one and, where there is one, beats its
round trip time by the required improvement. -/
def LeavesSelected (ch : IceTransportChannel) : Prop :=
  ∃ t, IsFirst ch.better ch.iceController.connections t ∧
    ch.iceController.selectedConnection ≠ some t ∧
    ∀ s, ch.iceController.selectedConnection = some s →
      (ch.memory t).rtt ≤ (ch.memory s).rtt - kMinImprovement

lemma writable_of_isFirst (ht : IsFirst ch.better ch.iceController.connections t)
    (hp : p ∈ ch.iceController.connections) (hw : (ch.memory p).writable = true) :
    (ch.memory t).writable = true := by
  have hbest : ch.better p t = false := ht.not_lt ch.strictWeak_better hp
  exact IceConnection.writable_of_not_better hbest hw

lemma selectedWritable_eq_true : ch.selectedWritable = true ↔
    ∃ s, ch.selectedConnection = some s ∧ (ch.memory s).writable = true := by
  unfold selectedWritable
  cases ch.selectedConnection with
  | none => simp
  | some s => simp

/-- After a sort the channel prefers a writable connection exactly when there is none to prefer, the
selected one is writable already, or the damping by round trip times lets the channel leave it. -/
theorem sort_prefersWritable_iff (ch : IceTransportChannel) (now : Int) :
    PrefersWritable (ch.sortConnectionAndUpdateState now) ↔
      (∀ p ∈ ch.iceController.connections, (ch.memory p).writable = false) ∨
        ch.selectedWritable = true ∨ LeavesSelected ch := by
  have hres := ch.sortConnectionAndUpdateState_spec now
  set ch' := ch.sortConnectionAndUpdateState now
  have hwritable : ∀ p, (ch'.memory p).writable = (ch.memory p).writable :=
    fun p => (hres.memory p).writable
  have hmem : ∀ p, p ∈ ch'.iceController.connections ↔ p ∈ ch.iceController.connections := by
    intro p
    rw [hres.connections, mem_stableSort]
  have hstay : ch'.selectedConnection = ch.selectedConnection →
      ch'.selectedWritable = ch.selectedWritable := by
    intro hsel
    simp only [selectedWritable, hsel, hwritable]
  constructor
  · intro h
    by_cases hsome : ∃ p ∈ ch.iceController.connections, (ch.memory p).writable = true
    · right
      obtain ⟨w, hw, hww⟩ := hsome
      obtain ⟨hsel, -⟩ := h ⟨w, (hmem w).mpr hw, (hwritable w).trans hww⟩
      rcases hres.choice with ⟨t, ht, -, -⟩ | ⟨-, -, hsame⟩
      · exact Or.inr ⟨t, ht.first, ht.other, ht.faster⟩
      · exact Or.inl (hstay hsame ▸ hsel)
    · left
      simpa using hsome
  · rintro h ⟨w, hw, hww⟩
    rw [hmem] at hw
    rw [hwritable] at hww
    rw [hres.writable, and_self]
    rcases hres.choice with ⟨t, ht, -, hsel⟩ | ⟨hno, -, hsel⟩
    · rw [selectedWritable_eq_true]
      exact ⟨t, hsel, (hwritable t).trans (writable_of_isFirst ht.first hw hww)⟩
    · rw [hstay hsel]
      rcases h with hnone | hsw | ⟨t, ht, hother, hfaster⟩
      · rw [hnone w hw] at hww
        cases hww
      · exact hsw
      · have htw := writable_of_isFirst ht hw hww
        exact absurd ⟨ht, by simp [readyToSend, htw], hother, hfaster⟩ (hno t)

/-- A channel on an unreliable connection with a round trip time of 50 ms, next to a writable one
that is only 5 ms faster. -/
def dampedChannel : IceTransportChannel :=
  let remote : Candidate := ⟨⟨[], 0⟩, [], [], 0⟩
  { memory := fun p =>
      if p = 1 then
        { port := 0, localPriority := 0, remoteCandidate := remote, rtt := 50
          writeState := .stateWriteUnreliable }
      else
        { port := 0, localPriority := 0, remoteCandidate := remote, rtt := 45
          writeState := .stateWritable }
    live := fun p => p = 1 || p = 2
    iceController := { connections := [1, 2], selectedConnection := some 1 }
    selectedConnection := some 1 }

theorem dampedChannel_not_prefersWritable :
    ¬ PrefersWritable (dampedChannel.sortConnectionAndUpdateState 0) := by
  intro h
  have hsel := (h ⟨2, by decide, by decide⟩).1
  revert hsel
  decide

end XrtcServer.Ice
