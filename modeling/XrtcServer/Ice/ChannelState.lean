import XrtcServer.Ice.SelectionRuns

/-!
# The fields of a channel that follow its connections

`_writable`, `_receiving` and `_state` are computed by `_update_state` only, which runs inside the
signals of the connections. An operation either ends with such an update or changes nothing that the
update reads, so the three fields are up to date after every event. `_had_connection` tells whether
a connection was ever added.
-/

namespace XrtcServer.Ice
open XrtcServer.Core IceTransportChannel

variable {ch ch' ch₁ : IceTransportChannel} {p : ConnPtr} {now : Int}

/-- `_update_state` would change none of the fields that it computes. -/
structure Current (ch : IceTransportChannel) : Prop where
  writable : ch.writable = ch.selectedWritable
  receiving : ch.receiving = ch.iceController.connections.any fun p => (ch.memory p).receiving
  state : ch.state = ch.computeIceTransportState

/-- What `_update_state` reads and writes is the same in two channels. -/
structure SameView (ch ch' : IceTransportChannel) : Prop where
  writable : ch'.writable = ch.writable
  receiving : ch'.receiving = ch.receiving
  state : ch'.state = ch.state
  hadConnection : ch'.hadConnection = ch.hadConnection
  hasBeenConnection : ch'.hasBeenConnection = ch.hasBeenConnection
  selectedConnection : ch'.selectedConnection = ch.selectedConnection
  connections : ch'.iceController.connections = ch.iceController.connections
  memory : ∀ p, p ∈ ch.iceController.connections ∨ ch.selectedConnection = some p →
    (ch'.memory p).writeState = (ch.memory p).writeState ∧
      (ch'.memory p).receiving = (ch.memory p).receiving

lemma any_congr_mem {l : List ConnPtr} {f g : ConnPtr → Bool} (h : ∀ p ∈ l, f p = g p) :
    l.any f = l.any g := by
  induction l with
  | nil => rfl
  | cons p l ih =>
    rw [List.any_cons, List.any_cons, h p List.mem_cons_self,
      ih fun q hq => h q (List.mem_cons_of_mem p hq)]

lemma SameView.current (h : SameView ch ch') (hc : Current ch) : Current ch' where
  writable := by
    rw [h.writable, hc.writable, selectedWritable, selectedWritable, h.selectedConnection]
    cases hs : ch.selectedConnection with
    | none => rfl
    | some p => simp only [IceConnection.writable, (h.memory p (Or.inr hs)).1]
  receiving := by
    rw [h.receiving, hc.receiving, h.connections]
    exact any_congr_mem fun p hp => (h.memory p (Or.inl hp)).2.symm
  state := by
    have hactive : (ch.iceController.connections.any fun p => (ch'.memory p).active) =
        ch.iceController.connections.any fun p => (ch.memory p).active :=
      any_congr_mem fun p hp => by simp only [IceConnection.active, (h.memory p (Or.inl hp)).1]
    simp only [computeIceTransportState, h.state, h.connections, hactive, h.hadConnection,
      h.hasBeenConnection, h.writable]
    exact hc.state

/-- An operation that brings no connection in and leaves the fields up to date where they were. -/
structure Refreshes (ch ch' : IceTransportChannel) : Prop where
  current : Current ch → Current ch'
  hadConnection : ch'.hadConnection = ch.hadConnection

lemma Refreshes.refl (ch : IceTransportChannel) : Refreshes ch ch := ⟨id, rfl⟩

lemma Refreshes.trans (h : Refreshes ch ch₁) (h' : Refreshes ch₁ ch') : Refreshes ch ch' :=
  ⟨h'.current ∘ h.current, h'.hadConnection.trans h.hadConnection⟩

lemma SameView.refreshes (h : SameView ch ch') : Refreshes ch ch' := ⟨h.current, h.hadConnection⟩

/-! ## The update -/

lemma current_updateState (ch : IceTransportChannel) : Current ch.updateState where
  writable := by simp [selectedWritable]
  receiving := by simp [updateState]
  state := rfl

lemma current_sort (ch : IceTransportChannel) (now : Int) :
    Current (ch.sortConnectionAndUpdateState now) := by
  unfold sortConnectionAndUpdateState
  dsimp only
  rw [maybeStartPinging_eq]
  have hcurrent := current_updateState
    (ch.sortAndSwitchConnection.2.maybeSwitchSelectedConnection ch.sortAndSwitchConnection.1)
  exact ⟨hcurrent.writable, hcurrent.receiving, hcurrent.state⟩

@[simp] lemma hadConnection_updateState (ch : IceTransportChannel) :
    ch.updateState.hadConnection = ch.hadConnection := by
  simp only [updateState, setWritable]
  split <;> rfl

@[simp] lemma hadConnection_switch (ch : IceTransportChannel) (c : Option ConnPtr) :
    (ch.switchSelectedConnection c).hadConnection = ch.hadConnection := by
  unfold switchSelectedConnection
  cases ch.selectedConnection <;> cases c <;> rfl

lemma hadConnection_sort (ch : IceTransportChannel) (now : Int) :
    (ch.sortConnectionAndUpdateState now).hadConnection = ch.hadConnection := by
  unfold sortConnectionAndUpdateState
  dsimp only
  rw [maybeStartPinging_eq, sortAndSwitchConnection_snd, hadConnection_updateState]
  cases ch.sortAndSwitchConnection.1 with
  | none => rfl
  | some t => exact hadConnection_switch ..

lemma refreshes_sort (ch : IceTransportChannel) (now : Int) :
    Refreshes ch (ch.sortConnectionAndUpdateState now) :=
  ⟨fun _ => current_sort ch now, hadConnection_sort ch now⟩

/-! ## Operations that refresh -/

lemma refreshes_modify (ch : IceTransportChannel) (p : ConnPtr) (f : IceConnection → IceConnection)
    (hwrite : (f (ch.memory p)).writeState = (ch.memory p).writeState)
    (hreceive : (f (ch.memory p)).receiving = (ch.memory p).receiving) :
    Refreshes ch (ch.modify p f) := by
  refine SameView.refreshes ⟨rfl, rfl, rfl, rfl, rfl, rfl, rfl, fun q _ => ?_⟩
  rw [memory_modify]
  by_cases hq : q = p
  · rw [if_pos hq, hq]
    exact ⟨hwrite, hreceive⟩
  · rw [if_neg hq]
    exact ⟨rfl, rfl⟩

lemma refreshes_report (ch : IceTransportChannel) (p : ConnPtr) (f : IceConnection → IceConnection)
    (now : Int) : Refreshes ch ((ch.modify p f).onConnectionStateChange now) :=
  ⟨fun _ => current_sort _ now, hadConnection_sort (ch.modify p f) now⟩

lemma refreshes_updateReceiving (ch : IceTransportChannel) (p : ConnPtr) (now : Int) :
    Refreshes ch (ch.updateReceiving p now) := by
  unfold updateReceiving
  dsimp only
  split
  · exact .refl ch
  · exact refreshes_report ..

lemma refreshes_setWriteState (ch : IceTransportChannel) (p : ConnPtr) (state : WriteState)
    (now : Int) : Refreshes ch (ch.setWriteState p state now) := by
  unfold setWriteState
  dsimp only
  split
  · exact refreshes_report ..
  · rename_i hsame
    exact refreshes_modify ch p _ (not_not.mp hsame).symm rfl

lemma refreshes_receivedPingResponse (ch : IceTransportChannel) (p : ConnPtr) (rtt now : Int) :
    Refreshes ch (ch.receivedPingResponse p rtt now) := by
  have hrecord := refreshes_modify ch p (recordResponse rtt now) rfl rfl
  have hreport := (refreshes_updateReceiving (ch.modify p (recordResponse rtt now)) p now).trans
    (refreshes_setWriteState _ p .stateWritable now)
  exact (hrecord.trans hreport).trans
    (refreshes_modify _ p ({ · with state := .succeeded }) rfl rfl)

lemma refreshes_updateConnectionState (ch : IceTransportChannel) (p : ConnPtr) (now : Int) :
    Refreshes ch (ch.updateConnectionState p now) := by
  have hite : ∀ (c : Prop) [Decidable c] (ch : IceTransportChannel) (state : WriteState),
      Refreshes ch (if c then ch.setWriteState p state now else ch) := by
    intro c _ ch state
    split
    · exact refreshes_setWriteState ..
    · exact .refl ch
  have hunreliable : Refreshes ch (ch.becomeUnreliable p now) := hite ..
  have htimedOut : ∀ ch : IceTransportChannel, Refreshes ch (ch.becomeTimedOut p now) :=
    fun ch => hite ..
  exact (hunreliable.trans (htimedOut _)).trans (refreshes_updateReceiving ..)

lemma SetsOnly.refreshes (h : SetsOnly ch ch') : Refreshes ch ch' := by
  obtain ⟨unpinged, pinged, rfl⟩ := h
  exact SameView.refreshes ⟨rfl, rfl, rfl, rfl, rfl, rfl, rfl, fun _ _ => ⟨rfl, rfl⟩⟩

lemma refreshes_pingConnection (ch : IceTransportChannel) (p : ConnPtr) (id : TransactionId)
    (now : Int) : Refreshes ch (ch.pingConnection p id now) := by
  refine (refreshes_modify ch p (ping id now) rfl rfl).trans ?_
  exact SameView.refreshes ⟨rfl, rfl, rfl, rfl, rfl, rfl, rfl, fun _ _ => ⟨rfl, rfl⟩⟩

lemma refreshes_foldl (f : IceTransportChannel → ConnPtr → IceTransportChannel)
    (hf : ∀ ch p, Refreshes ch (f ch p)) (l : List ConnPtr) (ch : IceTransportChannel) :
    Refreshes ch (l.foldl f ch) :=
  rel_foldl .refl (fun _ _ _ h h' => h.trans h') hf l ch

lemma refreshes_onCheckAndPing (ch : IceTransportChannel) (id : TransactionId) (now : Int) :
    Refreshes ch (ch.onCheckAndPing id now) :=
  rel_onCheckAndPing .refl (fun _ _ _ => .trans)
    (fun ch p => refreshes_updateConnectionState ch p now) (fun _ _ => SetsOnly.refreshes)
    (fun ch p => refreshes_pingConnection ch p id now)
    (fun _ _ => SameView.refreshes ⟨rfl, rfl, rfl, rfl, rfl, rfl, rfl, fun _ _ => ⟨rfl, rfl⟩⟩) ch

lemma refreshes_setRemoteIceParams (ch : IceTransportChannel) (params : IceParameters) (now : Int) :
    Refreshes ch (ch.setRemoteIceParams params now) := by
  have hparams : Refreshes ch { ch with remoteIceParams := params } :=
    SameView.refreshes ⟨rfl, rfl, rfl, rfl, rfl, rfl, rfl, fun _ _ => ⟨rfl, rfl⟩⟩
  refine (hparams.trans (refreshes_foldl _ (fun ch p => ?_) _ _)).trans (refreshes_sort ..)
  refine refreshes_modify ch p _ ?_ ?_
  · dsimp only
    split <;> rfl
  · dsimp only
    split <;> rfl

lemma refreshes_destroy (ch : IceTransportChannel) (p : ConnPtr) (now : Int) :
    Refreshes ch (ch.destroy p now) := by
  have hdestroyed : Refreshes ch (ch.onConnectionDestroyed p now) := by
    by_cases hs : ch.selectedConnection = some p
    · rw [onConnectionDestroyed_selected hs]
      exact ⟨fun _ => current_sort _ now, (hadConnection_sort ..).trans (hadConnection_switch ..)⟩
    · rw [onConnectionDestroyed_other hs]
      exact ⟨fun _ => current_updateState _, hadConnection_updateState _⟩
  refine hdestroyed.trans ?_
  exact SameView.refreshes ⟨rfl, rfl, rfl, rfl, rfl, rfl, rfl, fun _ _ => ⟨rfl, rfl⟩⟩

/-! ## Runs -/

/-- What can happen to a channel, and what a connection can report at any time: any write state, and
a change of whether it is receiving. -/
inductive Change
  | event (e : Event)
  | writeState (p : ConnPtr) (state : WriteState) (now : Int)
  | receiving (p : ConnPtr) (now : Int)
  deriving DecidableEq, Repr

/-- One change; a connection only reports while it is alive. -/
def Change.apply (ch : IceTransportChannel) : Change → Option IceTransportChannel
  | .event e => Ice.apply ch e
  | .writeState p state now => if ch.live p then some (ch.setWriteState p state now) else none
  | .receiving p now => if ch.live p then some (ch.updateReceiving p now) else none

/-- The change adds a connection. -/
def Change.adds : Change → Bool
  | .event (.unknownAddress _ _ _ _ priority _ _) => priority.isSome
  | _ => false

/-- The transition relation of a channel with these changes, where what freed connections leave in
memory changes at any time. -/
def ChangeStep (ch : IceTransportChannel) (c : Change) (ch' : IceTransportChannel) : Prop :=
  ∃ ch₁ memory, c.apply ch = some ch₁ ∧ (∀ p, ch₁.live p = true → memory p = ch₁.memory p) ∧
    ch' = { ch₁ with memory := memory }

variable {c : Change} {cs : List Change}

/-- What an event does: it moves, it adds a connection and sorts, or it moves and then destroys a
connection. -/
lemma apply_cases {e : Event} (he : Ice.apply ch e = some ch') :
    (Moves ch ch' ∧ Refreshes ch ch' ∧ (Change.event e).adds = false) ∨
      (∃ p conn now, ch.live p = false ∧ (Change.event e).adds = true ∧
        ch' = ((ch.newConnection p conn).addConnection p).sortConnectionAndUpdateState now) ∨
      ∃ ch₁ p now, Moves ch ch₁ ∧ Refreshes ch ch₁ ∧ (Change.event e).adds = false ∧
        ch' = ch₁.destroy p now := by
  have hremove : ∀ p id, Refreshes ch (ch.removeRequest p id) :=
    fun p _ => refreshes_modify ch p _ rfl rfl
  cases applied_of_apply he with
  | ignored => exact Or.inl ⟨.refl ch, .refl ch, rfl⟩
  | @added p _ _ _ _ _ now conn hp => exact Or.inr (Or.inl ⟨p, conn, now, hp, rfl, rfl⟩)
  | @answered p id =>
    refine Or.inl ⟨?_, ?_, rfl⟩
    · exact (absorbs_moves.receivedPingResponse ..).trans (absorbs_moves.reports.removeRequest ..)
    · exact (refreshes_receivedPingResponse ..).trans (refreshes_modify _ p _ rfl rfl)
  | retried => exact Or.inl ⟨absorbs_moves.reports.removeRequest .., hremove _ _, rfl⟩
  | @failed p id _ _ now =>
    refine Or.inr (Or.inr ⟨_, p, now, ?_, ?_, rfl, rfl⟩)
    · exact (absorbs_moves.reports.removeRequest ch p id).trans (absorbs_moves.reports.fail _ p)
    · exact (hremove p id).trans (refreshes_modify _ p ({ · with state := .failed }) rfl rfl)
  | checked => exact Or.inl ⟨moves_onCheckAndPing .., refreshes_onCheckAndPing .., rfl⟩
  | informed =>
    exact Or.inl ⟨absorbs_moves.setRemoteIceParams .., refreshes_setRemoteIceParams .., rfl⟩
  | @destroyed p now => exact Or.inr (Or.inr ⟨ch, p, now, .refl ch, .refl ch, rfl, rfl⟩)

/-- The invariant of a run of these changes. -/
structure Tracked (ch : IceTransportChannel) : Prop where
  listed : Listed ch
  current : Current ch

lemma Tracked.apply (h : Tracked ch) (he : c.apply ch = some ch') :
    Tracked ch' ∧ ch'.hadConnection = (ch.hadConnection || c.adds) := by
  cases c with
  | event e =>
    rcases apply_cases he with ⟨hmoves, hrefreshes, hadds⟩ |
      ⟨p, conn, now, hp, hadds, rfl⟩ | ⟨ch₁, p, now, hmoves, hrefreshes, hadds, rfl⟩
    · refine ⟨⟨h.listed.moves hmoves, hrefreshes.current h.current⟩, ?_⟩
      rw [hadds, Bool.or_false, hrefreshes.hadConnection]
    · refine ⟨⟨(h.listed.addConnection hp conn).moves (moves_sort ..), current_sort ..⟩, ?_⟩
      rw [hadds, Bool.or_true, hadConnection_sort]
      rfl
    · have hdestroyed := hrefreshes.trans (refreshes_destroy ch₁ p now)
      refine ⟨⟨(h.listed.moves hmoves).destroy p now, hdestroyed.current h.current⟩, ?_⟩
      rw [hadds, Bool.or_false, hdestroyed.hadConnection]
  | writeState p state now =>
    obtain ⟨-, he⟩ := Option.ite_none_right_eq_some.mp he
    cases he
    have hrefreshes := refreshes_setWriteState ch p state now
    refine ⟨⟨h.listed.moves (absorbs_moves.reports.setWriteState ..), hrefreshes.current h.current⟩, ?_⟩
    rw [hrefreshes.hadConnection]
    exact (Bool.or_false _).symm
  | receiving p now =>
    obtain ⟨-, he⟩ := Option.ite_none_right_eq_some.mp he
    cases he
    have hrefreshes := refreshes_updateReceiving ch p now
    refine ⟨⟨h.listed.moves (absorbs_moves.reports.updateReceiving ..), hrefreshes.current h.current⟩, ?_⟩
    rw [hrefreshes.hadConnection]
    exact (Bool.or_false _).symm

/-- What freed connections leave in memory is not read. -/
lemma Tracked.memory (h : Tracked ch) {memory : ConnPtr → IceConnection}
    (hmem : ∀ p, ch.live p = true → memory p = ch.memory p) :
    Tracked { ch with memory := memory } := by
  refine ⟨⟨h.listed.mem, h.listed.nodup, h.listed.live⟩, SameView.current ?_ h.current⟩
  refine ⟨rfl, rfl, rfl, rfl, rfl, rfl, rfl, fun p hp => ?_⟩
  have hlist : p ∈ ch.iceController.connections := hp.elim id (h.listed.mem p)
  have heq := hmem p ((h.listed.live p).mp hlist)
  exact ⟨congrArg IceConnection.writeState heq, congrArg IceConnection.receiving heq⟩

lemma tracked_initial (memory : ConnPtr → IceConnection) : Tracked (initial memory) :=
  ⟨listed_initial memory, ⟨rfl, rfl, rfl⟩⟩

/-- Some change of a run added a connection. -/
def Added (cs : List Change) : Prop := ∃ c ∈ cs, c.adds = true

lemma tracked_of_leads {memory : ConnPtr → IceConnection}
    (h : Leads ChangeStep (initial memory) cs ch) :
    Tracked ch ∧ (ch.hadConnection = true ↔ Added cs) := by
  refine h.invariant (J := fun cs ch => Tracked ch ∧ (ch.hadConnection = true ↔ Added cs)) ?_ ?_
  · exact ⟨tracked_initial memory, by simp [Added, initial]⟩
  · rintro cs ch c ch' ⟨htracked, hadded⟩ ⟨ch₁, mem, he, hmem, rfl⟩
    obtain ⟨htracked', hhad⟩ := htracked.apply he
    refine ⟨htracked'.memory hmem, ?_⟩
    have hsplit : Added (cs ++ [c]) ↔ Added cs ∨ c.adds = true := by
      simp only [Added, List.mem_append, List.mem_singleton, or_and_right, exists_or,
        exists_eq_left]
    rw [hsplit, ← hadded, ← Bool.or_eq_true, ← hhad]

lemma computeIceTransportState_eq_kFailed :
    ch.computeIceTransportState = .kFailed ↔
      ch.hadConnection = true ∧
        ∀ p ∈ ch.iceController.connections, (ch.memory p).active = false := by
  have hany : (ch.iceController.connections.any fun p => (ch.memory p).active) = false ↔
      ∀ p ∈ ch.iceController.connections, (ch.memory p).active = false := by simp
  rw [← hany]
  unfold computeIceTransportState
  dsimp only
  generalize (ch.iceController.connections.any fun p => (ch.memory p).active) = active
  cases ch.hadConnection <;> cases active <;> cases ch.hasBeenConnection <;> cases ch.writable <;>
    simp

lemma computeIceTransportState_ne_kNew (h : ch.hadConnection = true) :
    ch.computeIceTransportState ≠ .kNew := by
  unfold computeIceTransportState
  dsimp only
  rw [h]
  split_ifs <;> simp_all

/-- After any sequence of changes the writable, receiving and state fields say what the connections
say; once a connection was added the channel is never new again, and it has failed exactly when one
was added and none that remains is active. -/
theorem channel_fields_current (memory : ConnPtr → IceConnection) (cs : List Change)
    (ch : IceTransportChannel) (h : Leads ChangeStep (initial memory) cs ch) :
    (ch.writable = true ↔
        ∃ p, ch.selectedConnection = some p ∧ (ch.memory p).writable = true) ∧
      (ch.receiving = true ↔
        ∃ p ∈ ch.iceController.connections, (ch.memory p).receiving = true) ∧
      ch.state = ch.computeIceTransportState ∧
      (Added cs → ch.state ≠ .kNew) ∧
      (ch.state = .kFailed ↔
        Added cs ∧ ∀ p ∈ ch.iceController.connections, (ch.memory p).active = false) := by
  obtain ⟨htracked, hadded⟩ := tracked_of_leads h
  have hcurrent := htracked.current
  refine ⟨?_, ?_, hcurrent.state, fun hadds => ?_, ?_⟩
  · rw [hcurrent.writable]
    exact selectedWritable_eq_true
  · rw [hcurrent.receiving, List.any_eq_true]
  · rw [hcurrent.state]
    exact computeIceTransportState_ne_kNew (hadded.mpr hadds)
  · rw [hcurrent.state, ← hadded]
    exact computeIceTransportState_eq_kFailed

/-- A request comes, the connection is checked and answers, and its object is destroyed. -/
def answeredRun : List Change :=
  [.event (.setRemoteIceParams ⟨[117], [112]⟩ 0),
    .event (.unknownAddress 1 0 100 ⟨[10, 0, 0, 1], 5000⟩ (some 200) [117] 1),
    .event (.checkAndPing [1, 2] 10), .event (.pingResponse 1 [1, 2] 40), .event (.destroy 1 50)]

/-- The channel has then failed. -/
theorem answeredRun_fails : ∃ ch, Leads ChangeStep
      (initial fun _ => { port := 0, localPriority := 0, remoteCandidate := ⟨⟨[], 0⟩, [], [], 0⟩ })
      answeredRun ch ∧ ch.state = .kFailed := by
  have hrun : ((answeredRun.foldlM (fun ch c => Change.apply ch c) (initial fun _ =>
      { port := 0, localPriority := 0, remoteCandidate := ⟨⟨[], 0⟩, [], [], 0⟩ })).map
        fun ch => ch.iceController.connections) = some [] := by decide +kernel
  obtain ⟨ch, hch, hnone⟩ := Option.map_eq_some_iff.mp hrun
  have hleads := leads_of_foldlM (R := ChangeStep)
    (fun ch c ch' he => ⟨ch', ch'.memory, he, fun _ _ => rfl, rfl⟩) hch
  refine ⟨ch, hleads, (channel_fields_current _ _ ch hleads).2.2.2.2.mpr ⟨?_, ?_⟩⟩
  · exact ⟨.event (.unknownAddress 1 0 100 ⟨[10, 0, 0, 1], 5000⟩ (some 200) [117] 1), by decide, rfl⟩
  · simp [hnone]

end XrtcServer.Ice
