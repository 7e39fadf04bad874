import XrtcServer.Pc.DtlsMoves
import XrtcServer.Pc.TransportController

/-!
# The connection state is never stale

The controller's sum reads every channel, but no more of them than the agent's sum tells, so it is
enough that the controller hears of changes of that one.
-/

namespace XrtcServer.Pc
open XrtcServer.Base XrtcServer.Core XrtcServer.Ice XrtcServer.Stream TransportController

variable {opening : Opening} {c c' : TransportController} {i : Nat} {d d' : DtlsTransport}
  {ch : IceTransportChannel} {x y : DtlsTransport × TransportController}
  {channels : List IceTransportChannelState} {dtls : List DtlsTransportState}

/-! ## The controller's sum as a function of the agent's -/

/-- No channel is in a state that only exists on paper. -/
def Working (channels : List IceTransportChannelState) : Prop :=
  ∀ s ∈ channels, s ≠ .kClosed ∧ s ≠ .kCompleted

lemma Working.length_eq (h : Working channels) : channels.length =
    channels.count .kNew + channels.count .kChecking + channels.count .kConnected +
      channels.count .kFailed + channels.count .kDisconnected := by
  induction channels with
  | nil => rfl
  | cons s channels ih =>
    have hs := h s List.mem_cons_self
    have htail := ih fun s hs => h s (List.mem_cons_of_mem _ hs)
    rw [List.length_cons]
    cases s <;> simp_all <;> omega

lemma Working.count_kClosed (h : Working channels) : channels.count .kClosed = 0 :=
  List.count_eq_zero.mpr fun hmem => (h _ hmem).1 rfl

lemma Working.count_kCompleted (h : Working channels) : channels.count .kCompleted = 0 :=
  List.count_eq_zero.mpr fun hmem => (h _ hmem).2 rfl

/-- What the agent's sum says about the channels. -/
lemma Working.iceStateOf_cases (h : Working channels) :
    0 < channels.count .kFailed ∧ iceStateOf channels = .kFailed ∨
      channels.count .kFailed = 0 ∧ 0 < channels.count .kDisconnected ∧
        iceStateOf channels = .kDisconnected ∨
      channels.count .kFailed = 0 ∧ channels.count .kDisconnected = 0 ∧
        channels.count .kNew = channels.length ∧ iceStateOf channels = .kNew ∨
      channels.count .kFailed = 0 ∧ channels.count .kDisconnected = 0 ∧
        channels.count .kNew < channels.length ∧
        0 < channels.count .kNew + channels.count .kChecking ∧
        iceStateOf channels = .kChecking ∨
      channels.count .kFailed = 0 ∧ channels.count .kDisconnected = 0 ∧
        channels.count .kNew + channels.count .kChecking = 0 ∧ 0 < channels.length ∧
        channels.count .kConnected = channels.length ∧ iceStateOf channels = .kConnected := by
  have hlength := h.length_eq
  unfold iceStateOf
  rw [h.count_kClosed, h.count_kCompleted]
  dsimp only
  split_ifs with hfailed hdisconnected hnew hchecking hcompleted hconnected
  · exact .inl ⟨hfailed, rfl⟩
  · exact .inr (.inl ⟨by omega, hdisconnected, rfl⟩)
  · exact .inr (.inr (.inl ⟨by omega, by omega, by omega, rfl⟩))
  · exact .inr (.inr (.inr (.inl ⟨by omega, by omega, by omega, hchecking, rfl⟩)))
  · omega
  · exact .inr (.inr (.inr (.inr ⟨by omega, by omega, by omega, by omega, by omega, rfl⟩)))
  · omega

lemma length_dtls (dtls : List DtlsTransportState) : dtls.length =
    dtls.count .kNew + dtls.count .kConnecting + dtls.count .kConnected + dtls.count .kClosed +
      dtls.count .kFailed := by
  induction dtls with
  | nil => rfl
  | cons s dtls ih =>
    rw [List.length_cons]
    cases s <;> simp <;> omega

/-- The sum of the transports' states and of the agent's sum. -/
def sumOf (ice : IceTransportChannelState) (dtls : List DtlsTransportState) :
    PeerConnectionState :=
  if ice = .kFailed ∨ 0 < dtls.count .kFailed then .kFailed
  else if ice = .kDisconnected then .kDisconnected
  else if ice = .kNew ∧ dtls.count .kNew + dtls.count .kClosed = dtls.length then .kNew
  else if ice ≠ .kConnected ∨ 0 < dtls.count .kConnecting + dtls.count .kNew then .kConnecting
  else if dtls.count .kConnected + dtls.count .kClosed = dtls.length then .kConnected
  else .kNew

/-- What the controller computes from all channels it could compute from what the agent has. -/
theorem pcStateOf_eq_sumOf (h : Working channels) (hlen : channels.length = dtls.length) :
    pcStateOf channels dtls = sumOf (iceStateOf channels) dtls := by
  have hlength := h.length_eq
  have hdtls := length_dtls dtls
  unfold pcStateOf sumOf
  rw [h.count_kClosed, h.count_kCompleted]
  dsimp only
  rcases h.iceStateOf_cases with ⟨hfailed, heq⟩ | ⟨hfailed, hdisconnected, heq⟩ |
    ⟨hfailed, hdisconnected, hnew, heq⟩ | ⟨hfailed, hdisconnected, hnew, hchecking, heq⟩ |
    ⟨hfailed, hdisconnected, hnew, hpos, hconnected, heq⟩
  all_goals rw [heq]
  · rw [if_pos (by omega), if_pos (.inl rfl)]
  · simp only [reduceCtorEq, false_or, if_true]
    split_ifs <;> first | rfl | omega
  · simp only [reduceCtorEq, false_or, if_false, true_and, ne_eq, not_false_eq_true, true_or,
      if_true]
    split_ifs <;> first | rfl | omega
  · simp only [reduceCtorEq, false_or, if_false, false_and, ne_eq, not_false_eq_true, true_or,
      if_true]
    split_ifs <;> first | rfl | omega
  · simp only [reduceCtorEq, false_or, if_false, false_and, ne_eq, not_true_eq_false]
    split_ifs <;> first | rfl | omega

/-! ## Edits of a transport -/

section modify

variable {α β : Type} {f : α → α} {g : α → β} {l : List α}

lemma map_modify_self (h : ∀ a, l[i]? = some a → g (f a) = g a) :
    (l.modify i f).map g = l.map g := by
  refine List.ext_getElem? fun j => ?_
  rw [List.getElem?_map, List.getElem?_map, List.getElem?_modify]
  by_cases hij : i = j
  · subst hij
    cases ha : l[i]? with
    | none => rfl
    | some a => simp [h a ha]
  · cases l[j]? <;> simp [hij]

lemma mem_modify {b : α} (h : b ∈ l.modify i f) : b ∈ l ∨ ∃ a, l[i]? = some a ∧ b = f a := by
  obtain ⟨j, hj⟩ := List.mem_iff_getElem?.mp h
  rw [List.getElem?_modify] at hj
  obtain ⟨a, ha, rfl⟩ := Option.map_eq_some_iff.mp hj
  by_cases hij : i = j
  · subst hij
    exact .inr ⟨a, ha, by simp⟩
  · rw [if_neg hij]
    exact .inl (List.mem_of_getElem? ha)

end modify

@[simp] lemma channelStates_setDtls : (c.setDtls i d).channelStates = c.channelStates :=
  map_modify_self fun _ _ => rfl

@[simp] lemma dtlsStates_setChannel : (c.setChannel i ch).dtlsStates = c.dtlsStates :=
  map_modify_self fun _ _ => rfl

lemma channelStates_setChannel
    (h : ∀ t, c.transports[i]? = some t → t.channel.state = ch.state) :
    (c.setChannel i ch).channelStates = c.channelStates :=
  map_modify_self fun t ht => (h t ht).symm

lemma working_setChannel (h : Working c.channelStates)
    (hstate : ch.state ≠ .kClosed ∧ ch.state ≠ .kCompleted) :
    Working (c.setChannel i ch).channelStates := by
  intro s hs
  obtain ⟨t, ht, rfl⟩ := List.mem_map.mp hs
  rcases mem_modify ht with ht | ⟨t, -, rfl⟩
  · exact h _ (List.mem_map_of_mem ht)
  · exact hstate

lemma length_channelStates (c : TransportController) :
    c.channelStates.length = c.dtlsStates.length := by
  rw [channelStates, dtlsStates, List.length_map, List.length_map]

/-! ## The sums are those of the current states -/

structure Sums (c : TransportController) : Prop where
  working : Working c.channelStates
  ice : c.iceState = iceStateOf c.channelStates
  pc : c.pcState = pcStateOf c.channelStates c.dtlsStates
  last : c.signalled.getLast?.getD .kNew = c.pcState

@[simp] lemma transports_updateState : c.updateState.transports = c.transports := by
  unfold updateState
  dsimp only
  split <;> rfl

@[simp] lemma iceState_updateState : c.updateState.iceState = c.iceState := by
  unfold updateState
  dsimp only
  split <;> rfl

@[simp] lemma channelStates_updateState : c.updateState.channelStates = c.channelStates := by
  rw [channelStates, transports_updateState, channelStates]

@[simp] lemma dtlsStates_updateState : c.updateState.dtlsStates = c.dtlsStates := by
  rw [dtlsStates, transports_updateState, dtlsStates]

lemma pcState_updateState :
    c.updateState.pcState = pcStateOf c.channelStates c.dtlsStates := by
  unfold updateState
  dsimp only
  split
  · assumption
  · rfl

lemma last_updateState (h : c.signalled.getLast?.getD .kNew = c.pcState) :
    c.updateState.signalled.getLast?.getD .kNew = c.updateState.pcState := by
  unfold updateState
  dsimp only
  split
  · exact h
  · simp

lemma sums_updateState (hworking : Working c.channelStates)
    (hice : c.iceState = iceStateOf c.channelStates)
    (hlast : c.signalled.getLast?.getD .kNew = c.pcState) : Sums c.updateState :=
  ⟨by rwa [channelStates_updateState], by rwa [iceState_updateState, channelStates_updateState],
    by rw [pcState_updateState, channelStates_updateState, dtlsStates_updateState],
    last_updateState hlast⟩

lemma updateState_updateState : c.updateState.updateState = c.updateState := by
  have h : c.updateState.pcState =
      pcStateOf c.updateState.channelStates c.updateState.dtlsStates := by
    rw [pcState_updateState, channelStates_updateState, dtlsStates_updateState]
  conv_lhs => rw [updateState]
  exact if_pos h

/-- However often the slot is connected, it is as if it were once. -/
lemma signalIceState_eq (h : c.transports ≠ []) : c.signalIceState = c.updateState := by
  have hrest : ∀ l : List Transport,
      l.foldl (fun c _ => c.updateState) c.updateState = c.updateState := by
    intro l
    induction l with
    | nil => rfl
    | cons t l ih => rw [List.foldl_cons, updateState_updateState, ih]
  unfold signalIceState
  obtain ⟨t, l, htl⟩ := List.exists_cons_of_ne_nil h
  rw [htl, List.foldl_cons, hrest]

@[simp] lemma transports_iceUpdateState : c.iceUpdateState.transports = c.transports := by
  have hsignal : ∀ c : TransportController, c.signalIceState.transports = c.transports := by
    intro c
    by_cases h : c.transports = []
    · simp [signalIceState, h]
    · rw [signalIceState_eq h, transports_updateState]
  unfold iceUpdateState
  dsimp only
  split
  · rfl
  · rw [hsignal]
    split
    · exact hsignal c
    · rfl

/-- The agent tells the controller what it has to know. -/
lemma sums_iceUpdateState (hne : c.transports ≠ []) (hworking : Working c.channelStates)
    (hpc : c.iceState = iceStateOf c.channelStates →
      c.pcState = pcStateOf c.channelStates c.dtlsStates)
    (hlast : c.signalled.getLast?.getD .kNew = c.pcState) : Sums c.iceUpdateState := by
  have hsignal : ∀ c' : TransportController, c'.transports = c.transports →
      c'.signalled.getLast?.getD .kNew = c'.pcState →
      Sums (signalIceState { c' with iceState := iceStateOf c.channelStates }) := by
    intro c' htransports hlast
    have hchannels : c'.channelStates = c.channelStates := by
      rw [channelStates, htransports, channelStates]
    rw [signalIceState_eq (htransports ▸ hne)]
    refine sums_updateState ?_ ?_ hlast
    · exact hchannels ▸ hworking
    · exact congrArg iceStateOf hchannels.symm
  unfold iceUpdateState
  dsimp only
  split
  · rename_i heq
    exact ⟨hworking, heq, hpc heq, hlast⟩
  split
  · rw [signalIceState_eq hne]
    exact hsignal _ transports_updateState (last_updateState hlast)
  · exact hsignal c rfl hlast

/-! ## Events of a DTLS transport -/

/-- In the middle of an event of the `i`th transport, of which the controller has seen the state. -/
structure Synced (ts : List Transport) (i : Nat) (x : DtlsTransport × TransportController) :
    Prop where
  sums : Sums x.2
  transports : ∃ d, x.2.transports = ts.modify i ({ · with dtls := d }) ∧
    d.dtlsState = x.1.dtlsState

variable {ts : List Transport}

lemma transports_setDtls (h : c.transports = ts.modify i ({ · with dtls := d })) :
    (c.setDtls i d').transports = ts.modify i ({ · with dtls := d' }) := by
  rw [setDtls, h, List.modify_modify_eq]
  rfl

/-- A signal of the transport has called the slot. -/
lemma Synced.slot (h : Synced ts i x) (d : DtlsTransport) :
    Synced ts i (d, (x.2.setDtls i d).updateState) := by
  obtain ⟨d', htransports, -⟩ := h.transports
  refine ⟨sums_updateState ?_ ?_ h.sums.last, d, ?_, rfl⟩
  · rw [channelStates_setDtls]
    exact h.sums.working
  · rw [channelStates_setDtls]
    exact h.sums.ice
  · rw [transports_updateState]
    exact transports_setDtls htransports

lemma Synced.write (h : Synced ts i x) (f : DtlsTransport → DtlsTransport)
    (hstate : (f x.1).dtlsState = x.1.dtlsState) : Synced ts i (DtlsTransport.write f x) :=
  ⟨h.sums, h.transports.imp fun _ hd => ⟨hd.1, hd.2.trans hstate.symm⟩⟩

lemma Synced.setDtlsState (h : Synced ts i x) (state : DtlsTransportState) :
    Synced ts i (DtlsTransport.setDtlsState (wiring opening i) state x) := by
  unfold DtlsTransport.setDtlsState
  split
  · exact h
  · exact h.slot _

lemma Synced.setWritableState (h : Synced ts i x) (b : Bool) :
    Synced ts i (DtlsTransport.setWritableState (wiring opening i) b x) := by
  unfold DtlsTransport.setWritableState
  split
  · exact h
  · exact h.slot _

lemma Synced.setReceiving (h : Synced ts i x) (b : Bool) :
    Synced ts i (DtlsTransport.setReceiving (wiring opening i) b x) := by
  unfold DtlsTransport.setReceiving
  split
  · exact h
  · exact h.slot _

lemma Synced.move (hx : Synced ts i x) (h : Move (wiring opening i) x y) : Synced ts i y := by
  cases h with
  | channel writable =>
    unfold noticeWritable
    dsimp only
    split
    · exact Synced.setWritableState (hx.write _ rfl) writable
    · exact hx.write _ rfl
  | receiving receiving => exact hx.setReceiving receiving
  | deactivate => exact hx.write _ rfl
  | cache => exact hx.write _ rfl
  | fingerprint => exact hx.write _ rfl
  | drop => exact Synced.setWritableState (Synced.setDtlsState (hx.write _ rfl) .kNew) false
  | create => exact hx.write _ rfl
  | digest => exact hx.write _ rfl
  | call => exact hx.write _ rfl
  | start => exact Synced.setDtlsState (hx.write _ rfl) .kConnecting
  | handle => exact hx.write _ rfl
  | clear => exact hx.write _ rfl
  | fail => exact hx.setDtlsState .kFailed
  | opened => exact Synced.setDtlsState (hx.setWritableState true) .kConnected
  | shut => exact Synced.setDtlsState (hx.setWritableState false) _
  | closed => exact hx
  | packet => exact hx

/-- The event has ended. -/
lemma Synced.finish (h : Synced ts i x) : Sums (x.2.setDtls i x.1) ∧
    (x.2.setDtls i x.1).transports = ts.modify i ({ · with dtls := x.1 }) := by
  obtain ⟨d, htransports, hstate⟩ := h.transports
  refine ⟨⟨?_, ?_, ?_, h.sums.last⟩, transports_setDtls htransports⟩
  · rw [channelStates_setDtls]
    exact h.sums.working
  · rw [channelStates_setDtls]
    exact h.sums.ice
  · have hdtls : (x.2.setDtls i x.1).dtlsStates = x.2.dtlsStates := by
      refine map_modify_self fun t ht => ?_
      rw [htransports, List.getElem?_modify_eq] at ht
      obtain ⟨_, -, rfl⟩ := Option.map_eq_some_iff.mp ht
      exact hstate.symm
    rw [channelStates_setDtls, hdtls]
    exact h.sums.pc

/-- What holds of a controller between two events. -/
structure ControllerInv (c : TransportController) : Prop where
  sums : Sums c
  dtls : ∀ t ∈ c.transports, WellFormed t.dtls ∧ Fresh t.dtls

/-- An event of a DTLS transport changes that transport only. -/
lemma ControllerInv.dtlsEvent (hc : ControllerInv c) (i : Nat) (e : DtlsInput) :
    ControllerInv (c.dtlsEvent opening i e) ∧
      ∃ d, (c.dtlsEvent opening i e).transports = c.transports.modify i ({ · with dtls := d }) := by
  unfold TransportController.dtlsEvent
  cases ht : c.transports[i]? with
  | none =>
    refine ⟨hc, {}, ?_⟩
    rw [List.modify_eq_self (List.getElem?_eq_none_iff.mp ht)]
  | some t =>
    obtain ⟨hwf, hfresh⟩ := hc.dtls t (List.mem_of_getElem? ht)
    have hstep := moves_dtlsStep (W := wiring opening i) (x := (t.dtls, c)) e hwf hfresh
    have hself : c.transports = c.transports.modify i ({ · with dtls := t.dtls }) := by
      refine List.ext_getElem? fun j => ?_
      rw [List.getElem?_modify]
      by_cases hij : i = j
      · subst hij
        simp [ht]
      · simp [hij]
    have hsynced : Synced c.transports i (t.dtls, c) := ⟨hc.sums, t.dtls, hself, rfl⟩
    have hend := hstep.1.invariant (J := Synced c.transports i) hsynced fun _ _ hx hm => hx.move hm
    have hwf' := hstep.1.wellFormed hwf
    refine ⟨⟨hend.finish.1, ?_⟩, _, hend.finish.2⟩
    intro t' ht'
    rw [hend.finish.2] at ht'
    rcases mem_modify ht' with ht' | ⟨t'', -, rfl⟩
    · exact hc.dtls t' ht'
    · exact ⟨hwf', hstep.2⟩

/-! ## Events of a channel -/

/-- The `i`th channel is in a state. -/
def StateAt (i : Nat) (state : IceTransportChannelState) (c : TransportController) : Prop :=
  ∃ t, c.transports[i]? = some t ∧ t.channel.state = state

lemma StateAt.modify {state : IceTransportChannelState} (h : StateAt i state c)
    {f : Transport → Transport} (hc : c'.transports = c.transports.modify i f)
    (hf : ∀ t, t.channel.state = state → (f t).channel.state = state) : StateAt i state c' := by
  obtain ⟨t, ht, hstate⟩ := h
  exact ⟨f t, by rw [hc, List.getElem?_modify_eq, ht]; rfl, hf t hstate⟩

lemma iceUpdateState_of_current (h : c.iceState = iceStateOf c.channelStates) :
    c.iceUpdateState = c := if_pos h

lemma channelStates_setChannel_of_stateAt (h : StateAt i ch.state c) :
    (c.setChannel i ch).channelStates = c.channelStates := by
  obtain ⟨t, ht, hstate⟩ := h
  refine channelStates_setChannel fun t' ht' => ?_
  cases ht.symm.trans ht'
  exact hstate

/-- A channel has changed, but not its state: the agent has nothing to tell. -/
lemma ControllerInv.setChannel (hc : ControllerInv c) (ch : IceTransportChannel)
    (h : StateAt i ch.state c) :
    ControllerInv (c.setChannel i ch) ∧ StateAt i ch.state (c.setChannel i ch) ∧
      (c.setChannel i ch).iceUpdateState = c.setChannel i ch := by
  have hsame := channelStates_setChannel_of_stateAt h
  have hice : (c.setChannel i ch).iceState = iceStateOf (c.setChannel i ch).channelStates := by
    rw [hsame]
    exact hc.sums.ice
  refine ⟨⟨⟨hsame ▸ hc.sums.working, hice, ?_, hc.sums.last⟩, fun t ht => ?_⟩,
    h.modify rfl fun _ _ => rfl, iceUpdateState_of_current hice⟩
  · rw [hsame, dtlsStates_setChannel]
    exact hc.sums.pc
  · rcases mem_modify ht with ht | ⟨t', ht', rfl⟩
    · exact hc.dtls t ht
    · exact hc.dtls t' (List.mem_of_getElem? ht')

lemma ControllerInv.setWritable (hc : ControllerInv c) (opening : Opening)
    (ch : IceTransportChannel) (h : StateAt i ch.state c) (writable : Bool) (calls : Calls) :
    ControllerInv (c.setWritable opening i ch writable calls) ∧
      StateAt i ch.state (c.setWritable opening i ch writable calls) := by
  unfold TransportController.setWritable
  split
  · exact ⟨hc, h⟩
  · have hstate : (ch.setWritable writable).state = ch.state := by
      unfold IceTransportChannel.setWritable
      split <;> rfl
    obtain ⟨hset, hat, hice⟩ := hc.setChannel (ch.setWritable writable) (hstate ▸ h)
    rw [hice]
    obtain ⟨hevent, d, htransports⟩ := hset.dtlsEvent i (.iceWritable writable calls)
    exact ⟨hevent, StateAt.modify (hstate ▸ hat) htransports fun _ h => h⟩

lemma ControllerInv.setReceiving (hc : ControllerInv c) (opening : Opening)
    (ch : IceTransportChannel) (h : StateAt i ch.state c) (receiving : Bool) :
    ControllerInv (c.setReceiving opening i ch receiving) ∧
      StateAt i ch.state (c.setReceiving opening i ch receiving) := by
  unfold TransportController.setReceiving
  split
  · exact ⟨hc, h⟩
  · obtain ⟨hset, hat, hice⟩ := hc.setChannel { ch with receiving } h
    rw [hice]
    obtain ⟨hevent, d, htransports⟩ := hset.dtlsEvent i (.iceReceiving receiving)
    exact ⟨hevent, hat.modify htransports fun _ h => h⟩

lemma computeIceTransportState_working :
    ch.computeIceTransportState ≠ .kClosed ∧ ch.computeIceTransportState ≠ .kCompleted := by
  unfold IceTransportChannel.computeIceTransportState
  dsimp only
  split_ifs <;> simp

/-- The state of a channel has changed: where the agent's sum stays, so does the controller's. -/
lemma ControllerInv.setState (hc : ControllerInv c) (h : StateAt i ch.state c) :
    ControllerInv (c.setState i ch) := by
  unfold TransportController.setState
  dsimp only
  split
  · exact hc
  · set c' := c.setChannel i { ch with state := ch.computeIceTransportState } with hc'
    have hworking : Working c'.channelStates :=
      working_setChannel hc.sums.working computeIceTransportState_working
    have hne : c'.transports ≠ [] := by
      obtain ⟨t, ht, -⟩ := h
      intro hnil
      have hempty : c.transports = [] := List.modify_eq_nil_iff.mp hnil
      simp [hempty] at ht
    refine ⟨sums_iceUpdateState hne hworking (fun hsame => ?_) hc.sums.last, fun t ht => ?_⟩
    · have hsum := pcStateOf_eq_sumOf hc.sums.working (length_channelStates c)
      have hsum' := pcStateOf_eq_sumOf hworking (length_channelStates c')
      change c.iceState = _ at hsame
      rw [hsum', ← hsame, hc', dtlsStates_setChannel, hc.sums.ice, ← hsum]
      exact hc.sums.pc
    · rw [transports_iceUpdateState] at ht
      rcases mem_modify ht with ht | ⟨t', ht', rfl⟩
      · exact hc.dtls t ht
      · exact hc.dtls t' (List.mem_of_getElem? ht')

lemma ControllerInv.channelEvent (hc : ControllerInv c) (i : Nat) (view : IceTransportChannel)
    (calls : Calls) : ControllerInv (c.channelEvent opening i view calls) := by
  unfold TransportController.channelEvent
  cases ht : c.transports[i]? with
  | none => exact hc
  | some t =>
    dsimp only
    set ch : IceTransportChannel :=
      { view with
        writable := t.channel.writable
        receiving := t.channel.receiving
        state := t.channel.state
        hasBeenConnection := t.channel.hasBeenConnection } with hch
    have hstart := hc.setChannel ch ⟨t, ht, rfl⟩
    have hwritable := hstart.1.setWritable opening ch hstart.2.1 ch.selectedWritable calls
    have hstate : (ch.setWritable ch.selectedWritable).state = ch.state := by
      unfold IceTransportChannel.setWritable
      split <;> rfl
    have hreceiving := hwritable.1.setReceiving opening
      (ch.setWritable ch.selectedWritable) (hstate ▸ hwritable.2)
      ((ch.setWritable ch.selectedWritable).iceController.connections.any fun p =>
        ((ch.setWritable ch.selectedWritable).memory p).receiving)
    exact hreceiving.1.setState hreceiving.2

/-! ## Runs -/

lemma controllerInv_initial (srtpCiphers : List Nat) (cert : Option Nat)
    (memories : List (ConnPtr → IceConnection)) :
    ControllerInv (TransportController.initial srtpCiphers cert memories) := by
  have hchannels : (TransportController.initial srtpCiphers cert memories).channelStates =
      List.replicate memories.length .kNew := by
    simp [channelStates, TransportController.initial, IceTransportChannel.initial,
      Function.comp_def]
  have hdtls : (TransportController.initial srtpCiphers cert memories).dtlsStates =
      List.replicate memories.length .kNew := by
    simp [dtlsStates, TransportController.initial, Function.comp_def]
  refine ⟨⟨?_, ?_, ?_, rfl⟩, fun t ht => ?_⟩
  · rw [hchannels]
    intro s hs
    rw [List.eq_of_mem_replicate hs]
    decide
  · rw [hchannels]
    simp [iceStateOf, List.count_replicate, TransportController.initial]
  · rw [hchannels, hdtls]
    simp [pcStateOf, List.count_replicate, TransportController.initial, Nat.mul_two]
  · obtain ⟨memory, -, rfl⟩ := List.mem_map.mp ht
    exact ⟨wellFormed_initial _ _ _, fresh_initial _ _ _⟩

/-- After any events of any number of transports the agent has the sum of the channels' states, the
controller that of channels and transports, which is what it has signalled last, and no channel is
closed or completed. -/
theorem connection_state_current (opening : Opening) (srtpCiphers : List Nat) (cert : Option Nat)
    (memories : List (ConnPtr → IceConnection)) (es : List ControllerInput) :
    let c := es.foldl (controllerStep opening)
      (TransportController.initial srtpCiphers cert memories)
    c.iceState = iceStateOf c.channelStates ∧
      c.pcState = pcStateOf c.channelStates c.dtlsStates ∧
      c.signalled.getLast?.getD .kNew = c.pcState ∧
      ∀ t ∈ c.transports, t.channel.state ≠ .kClosed ∧ t.channel.state ≠ .kCompleted := by
  dsimp only
  suffices h : ∀ c, ControllerInv c → ControllerInv (es.foldl (controllerStep opening) c) by
    have hc := (h _ (controllerInv_initial srtpCiphers cert memories)).sums
    exact ⟨hc.ice, hc.pc, hc.last, fun t ht => hc.working _ (List.mem_map_of_mem ht)⟩
  induction es with
  | nil => exact fun _ hc => hc
  | cons e es ih =>
    intro c hc
    refine ih _ ?_
    cases e with
    | channel i view calls => exact hc.channelEvent i view calls
    | dtls i e => exact (hc.dtlsEvent i e).1

end XrtcServer.Pc
