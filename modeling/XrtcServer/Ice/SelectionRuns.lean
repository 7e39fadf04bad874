import XrtcServer.Ice.Selection

/-!
# The two copies of the selected connection over a run

Every event but a destruction moves both copies together. A destruction of the selected connection
clears the copy of the channel only, so the copies agree afterwards exactly where the sort that
follows hands the selection over at once.
-/

namespace XrtcServer.Ice
open XrtcServer.Core IceTransportChannel

variable {ch ch' ch₁ : IceTransportChannel} {p q t : ConnPtr} {now : Int}

/-- The two copies agree, and refer to a live connection of the controller or to none. -/
structure SelectionSound (ch : IceTransportChannel) : Prop where
  same : ch.iceController.selectedConnection = ch.selectedConnection
  alive : ∀ p, ch.selectedConnection = some p →
    p ∈ ch.iceController.connections ∧ ch.live p = true

/-- The invariant of a run: the controller lists the live connections, each once. -/
structure Inv (ch : IceTransportChannel) : Prop where
  same : ch.iceController.selectedConnection = ch.selectedConnection
  mem : ∀ p, ch.selectedConnection = some p → p ∈ ch.iceController.connections
  nodup : ch.iceController.connections.Nodup
  live : ∀ p, p ∈ ch.iceController.connections ↔ ch.live p = true

lemma Inv.sound (h : Inv ch) : SelectionSound ch :=
  ⟨h.same, fun p hp => ⟨h.mem p hp, (h.live p).mp (h.mem p hp)⟩⟩

/-- The part of the invariant that every event keeps. -/
structure Listed (ch : IceTransportChannel) : Prop where
  mem : ∀ p, ch.selectedConnection = some p → p ∈ ch.iceController.connections
  nodup : ch.iceController.connections.Nodup
  live : ∀ p, p ∈ ch.iceController.connections ↔ ch.live p = true

lemma Inv.listed (h : Inv ch) : Listed ch := ⟨h.mem, h.nodup, h.live⟩

lemma Listed.inv (h : Listed ch)
    (hsame : ch.iceController.selectedConnection = ch.selectedConnection) : Inv ch :=
  ⟨hsame, h.mem, h.nodup, h.live⟩

lemma listed_initial (memory : ConnPtr → IceConnection) : Listed (initial memory) where
  mem p hp := by cases hp
  nodup := List.nodup_nil
  live p := by simp [initial]

lemma inv_initial (memory : ConnPtr → IceConnection) : Inv (initial memory) :=
  (listed_initial memory).inv rfl

/-- What an operation does that neither creates nor destroys: connections keep their ports and
addresses, the list is reordered, and both copies stay or move to one of its members. -/
structure Moves (ch ch' : IceTransportChannel) : Prop where
  live : ch'.live = ch.live
  key : ∀ p, (ch'.memory p).key = (ch.memory p).key
  perm : ch'.iceController.connections.Perm ch.iceController.connections
  choice :
    (ch'.iceController.selectedConnection = ch.iceController.selectedConnection ∧
      ch'.selectedConnection = ch.selectedConnection) ∨
    ∃ t ∈ ch.iceController.connections,
      ch'.iceController.selectedConnection = some t ∧ ch'.selectedConnection = some t

lemma Moves.refl (ch : IceTransportChannel) : Moves ch ch :=
  ⟨rfl, fun _ => rfl, .refl _, Or.inl ⟨rfl, rfl⟩⟩

lemma Moves.trans (h : Moves ch ch₁) (h' : Moves ch₁ ch') : Moves ch ch' := by
  refine ⟨h'.live.trans h.live, fun p => (h'.key p).trans (h.key p), h'.perm.trans h.perm, ?_⟩
  rcases h'.choice with ⟨hc', hs'⟩ | ⟨t, ht, hc', hs'⟩
  · rcases h.choice with ⟨hc, hs⟩ | ⟨t, ht, hc, hs⟩
    · exact Or.inl ⟨hc'.trans hc, hs'.trans hs⟩
    · exact Or.inr ⟨t, ht, hc'.trans hc, hs'.trans hs⟩
  · exact Or.inr ⟨t, h.perm.mem_iff.mp ht, hc', hs'⟩

lemma Listed.moves (h : Listed ch) (hm : Moves ch ch') : Listed ch' where
  mem p hp := by
    rw [hm.perm.mem_iff]
    rcases hm.choice with ⟨-, hs⟩ | ⟨t, ht, -, hs⟩
    · exact h.mem p (hs ▸ hp)
    · cases hs.symm.trans hp
      exact ht
  nodup := hm.perm.nodup_iff.mpr h.nodup
  live p := by rw [hm.perm.mem_iff, hm.live, h.live]

lemma Inv.moves (h : Inv ch) (hm : Moves ch ch') : Inv ch' := by
  refine (h.listed.moves hm).inv ?_
  rcases hm.choice with ⟨hc, hs⟩ | ⟨t, -, hc, hs⟩
  · rw [hc, hs, h.same]
  · rw [hc, hs]

/-! ## Operations that move -/

lemma moves_modify (ch : IceTransportChannel) (p : ConnPtr) (f : IceConnection → IceConnection)
    (hf : ∀ c, (f c).key = c.key) : Moves ch (ch.modify p f) := by
  refine ⟨rfl, fun q => ?_, .refl _, Or.inl ⟨rfl, rfl⟩⟩
  rw [memory_modify]
  by_cases hq : q = p
  · rw [if_pos hq, hf, hq]
  · rw [if_neg hq]

lemma IceTransportChannel.SortResult.moves (h : SortResult ch ch') : Moves ch ch' where
  live := h.live
  key p := (h.memory p).key
  perm := h.connections ▸ stableSort_perm _ _
  choice := h.choice.symm.imp And.right fun ⟨t, ht, hc, hs⟩ => ⟨t, ht.first.mem, hc, hs⟩

lemma moves_sort (ch : IceTransportChannel) (now : Int) :
    Moves ch (ch.sortConnectionAndUpdateState now) :=
  (ch.sortConnectionAndUpdateState_spec now).moves

lemma absorbs_moves : Absorbs Moves where
  refl := .refl
  trans := .trans
  modify ch p f hf := moves_modify ch p f hf.key
  sort := moves_sort
  remoteIceParams _ _ := ⟨rfl, fun _ => rfl, .refl _, Or.inl ⟨rfl, rfl⟩⟩

lemma SetsOnly.moves (h : SetsOnly ch ch') : Moves ch ch' := by
  obtain ⟨unpinged, pinged, rfl⟩ := h
  exact ⟨rfl, fun _ => rfl, .refl _, Or.inl ⟨rfl, rfl⟩⟩

lemma moves_pingConnection (ch : IceTransportChannel) (p : ConnPtr) (id : TransactionId)
    (now : Int) : Moves ch (ch.pingConnection p id now) :=
  have hping := moves_modify ch p (ping id now) fun _ => rfl
  ⟨hping.live, hping.key, hping.perm, hping.choice⟩

lemma moves_onCheckAndPing (ch : IceTransportChannel) (id : TransactionId) (now : Int) :
    Moves ch (ch.onCheckAndPing id now) :=
  rel_onCheckAndPing .refl (fun _ _ _ => .trans)
    (fun ch p => absorbs_moves.reports.updateConnectionState ch p now) (fun _ _ => SetsOnly.moves)
    (fun ch p => moves_pingConnection ch p id now)
    (fun _ _ => ⟨rfl, fun _ => rfl, .refl _, Or.inl ⟨rfl, rfl⟩⟩) ch

/-! ## Creation and destruction -/

lemma Listed.addConnection (h : Listed ch) (hp : ch.live p = false) (conn : IceConnection) :
    Listed ((ch.newConnection p conn).addConnection p) := by
  have hnew : p ∉ ch.iceController.connections := by simp [h.live, hp]
  refine ⟨fun q hq => List.mem_append_left _ (h.mem q hq), ?_, fun q => ?_⟩
  · have hconcat := List.Nodup.concat hnew h.nodup
    rwa [List.concat_eq_append] at hconcat
  · by_cases hq : q = p
    · simp [IceTransportChannel.addConnection, newConnection, hq]
    · simpa [IceTransportChannel.addConnection, newConnection, hq] using h.live q

lemma Inv.addConnection (h : Inv ch) (hp : ch.live p = false) (conn : IceConnection) :
    Inv ((ch.newConnection p conn).addConnection p) :=
  (h.listed.addConnection hp conn).inv h.same

/-- The sort without the selected connection `p` hands the selection over: its first connection is
ready to send and faster than `p` by the required improvement. -/
def HandsOver (ch : IceTransportChannel) (p : ConnPtr) : Prop :=
  ch.selectedConnection = some p →
    ∃ t, IsFirst ch.better (ch.iceController.connections.erase p) t ∧
      ch.readyToSend (some t) = true ∧
      (ch.memory t).rtt ≤ (ch.memory p).rtt - kMinImprovement

lemma better_congr (h : ∀ q, (ch.memory q).SameRank (ch'.memory q)) : ch'.better = ch.better := by
  funext p q
  exact (h p).better (h q)

lemma readyToSend_congr (h : ∀ q, (ch.memory q).SameRank (ch'.memory q)) (t : ConnPtr) :
    ch'.readyToSend (some t) = ch.readyToSend (some t) := by
  simp only [readyToSend, IceConnection.writable, (h t).writeState]

lemma handsOver_congr (hc : ch'.iceController = ch.iceController)
    (hs : ch'.selectedConnection = ch.selectedConnection)
    (h : ∀ q, (ch.memory q).SameRank (ch'.memory q)) (p : ConnPtr) :
    HandsOver ch' p ↔ HandsOver ch p := by
  simp only [HandsOver, hs, hc, better_congr h, readyToSend_congr h, (h _).rtt]

lemma switches_after_destroy (h : Inv ch) (hs : ch.selectedConnection = some p) (t : ConnPtr) :
    Switches ((ch.forgetConnection p).switchSelectedConnection none) t ↔
      IsFirst ch.better (ch.iceController.connections.erase p) t ∧
        ch.readyToSend (some t) = true ∧
        (ch.memory t).rtt ≤ (ch.memory p).rtt - kMinImprovement := by
  have hrank : ∀ q, (ch.memory q).SameRank
      (((ch.forgetConnection p).switchSelectedConnection none).memory q) :=
    fun q => (memory_switch (ch.forgetConnection p) none q).sameRank
  have hctrl := iceController_switch_none (ch.forgetConnection p)
  have hsel : ((ch.forgetConnection p).switchSelectedConnection none).iceController.selectedConnection
      = some p := by
    rw [hctrl]
    exact h.same.trans hs
  have hconns : ((ch.forgetConnection p).switchSelectedConnection none).iceController.connections =
      ch.iceController.connections.erase p := by
    rw [hctrl]
    rfl
  constructor
  · rintro ⟨hfirst, hready, -, hfaster⟩
    rw [hconns, better_congr hrank] at hfirst
    rw [readyToSend_congr hrank] at hready
    have hrtt := hfaster p hsel
    rw [(hrank _).rtt, (hrank _).rtt] at hrtt
    exact ⟨hfirst, hready, hrtt⟩
  · rintro ⟨hfirst, hready, hrtt⟩
    refine ⟨?_, ?_, ?_, ?_⟩
    · rw [hconns, better_congr hrank]
      exact hfirst
    · rw [readyToSend_congr hrank]
      exact hready
    · rw [hsel]
      rintro ⟨⟩
      exact h.nodup.not_mem_erase hfirst.mem
    · intro s hs'
      cases hsel.symm.trans hs'
      rw [(hrank _).rtt, (hrank _).rtt]
      exact hrtt

/-- A channel whose list has lost `p` together with the object there. -/
lemma Listed.erase (h : Listed ch)
    (hsel : ∀ q, ch'.selectedConnection = some q → q ∈ ch.iceController.connections.erase p)
    (hperm : ch'.iceController.connections.Perm (ch.iceController.connections.erase p))
    (hlive : ch'.live = Function.update ch.live p false) : Listed ch' := by
  refine ⟨fun q hq => hperm.mem_iff.mpr (hsel q hq), hperm.nodup_iff.mpr (h.nodup.erase p),
    fun q => ?_⟩
  rw [hperm.mem_iff, hlive]
  by_cases hqp : q = p
  · subst hqp
    simp [h.nodup.not_mem_erase]
  · simpa [List.mem_erase_of_ne hqp, hqp] using h.live q

lemma onConnectionDestroyed_other (hs : ch.selectedConnection ≠ some p) (now : Int) :
    ch.onConnectionDestroyed p now = (ch.forgetConnection p).updateState := if_neg hs

lemma onConnectionDestroyed_selected (hs : ch.selectedConnection = some p) (now : Int) :
    ch.onConnectionDestroyed p now =
      ((ch.forgetConnection p).switchSelectedConnection none).sortConnectionAndUpdateState now :=
  if_pos hs

lemma Listed.destroy (h : Listed ch) (p : ConnPtr) (now : Int) : Listed (ch.destroy p now) := by
  by_cases hs : ch.selectedConnection = some p
  · have hctrl := iceController_switch_none (ch.forgetConnection p)
    have hres :=
      ((ch.forgetConnection p).switchSelectedConnection none).sortConnectionAndUpdateState_spec now
    have hlive := hres.live.trans (live_switch (ch.forgetConnection p) none)
    rw [← onConnectionDestroyed_selected hs] at hres hlive
    have hconns : ((ch.forgetConnection p).switchSelectedConnection none).iceController.connections =
        ch.iceController.connections.erase p := by
      rw [hctrl]
      rfl
    refine h.erase (p := p) (fun q hq => ?_) ?_ ?_
    · rcases hres.choice with ⟨t, ht, -, hsel⟩ | ⟨-, -, hsel⟩
      · cases hsel.symm.trans hq
        exact hconns ▸ ht.first.mem
      · rw [selectedConnection_switch] at hsel
        cases hsel.symm.trans hq
    · exact (hres.connections ▸ stableSort_perm _ _).trans (hconns ▸ .refl _)
    · rw [IceTransportChannel.destroy, hlive]
      rfl
  · unfold IceTransportChannel.destroy
    rw [onConnectionDestroyed_other hs]
    refine h.erase (p := p) (fun q hq => ?_) ?_ (by simp [forgetConnection])
    · have hq' : ch.selectedConnection = some q := by simpa [forgetConnection] using hq
      have hqp : q ≠ p := fun hqp => hs (hqp ▸ hq')
      exact (List.mem_erase_of_ne hqp).mpr (h.mem q hq')
    · simp [forgetConnection]

/-- Where the two copies agree after a destruction, the selection was handed over. -/
lemma handsOver_of_sound (h : Inv ch) (hsound : SelectionSound (ch.destroy p now)) :
    HandsOver ch p := by
  intro hs
  have hdestroyed := onConnectionDestroyed_selected hs now
  have hctrl := iceController_switch_none (ch.forgetConnection p)
  have hres :=
    ((ch.forgetConnection p).switchSelectedConnection none).sortConnectionAndUpdateState_spec now
  rcases hres.choice with ⟨t, ht, -, -⟩ | ⟨-, hc, hsel⟩
  · exact ⟨t, (switches_after_destroy h hs t).mp ht⟩
  · exfalso
    have hsame : (ch.onConnectionDestroyed p now).iceController.selectedConnection =
        (ch.onConnectionDestroyed p now).selectedConnection := hsound.same
    rw [hdestroyed, hc, hsel, hctrl, selectedConnection_switch] at hsame
    cases (h.same.trans hs).symm.trans hsame

/-- The condition on an event: where it destroys the selected connection, the sort hands the
selection over. -/
def KeepsSelection (ch : IceTransportChannel) : Event → Prop
  | .pingErrorResponse p _ errorCode _ => retryable errorCode = false → HandsOver ch p
  | .destroy p _ => HandsOver ch p
  | _ => True

/-- A destruction keeps the invariant if the sort hands the selection over. -/
lemma Inv.destroy (h : Inv ch) (hhand : HandsOver ch p) (now : Int) : Inv (ch.destroy p now) := by
  refine (h.listed.destroy p now).inv ?_
  change (ch.onConnectionDestroyed p now).iceController.selectedConnection =
    (ch.onConnectionDestroyed p now).selectedConnection
  by_cases hs : ch.selectedConnection = some p
  · rw [onConnectionDestroyed_selected hs]
    obtain ⟨t, ht⟩ := hhand hs
    have hsw := (switches_after_destroy h hs t).mpr ht
    have hres :=
      ((ch.forgetConnection p).switchSelectedConnection none).sortConnectionAndUpdateState_spec now
    rcases hres.choice with ⟨u, -, hc, hsel⟩ | ⟨hno, -, -⟩
    · rw [hc, hsel]
    · exact absurd hsw (hno t)
  · rw [onConnectionDestroyed_other hs]
    simpa [forgetConnection] using h.same

lemma handsOver_modify (f : IceConnection → IceConnection)
    (hf : ∀ c : IceConnection, c.SameRank (f c)) (q : ConnPtr) :
    HandsOver (ch.modify q f) p ↔ HandsOver ch p := by
  have hrank : ∀ r, (ch.memory r).SameRank ((ch.modify q f).memory r) := by
    intro r
    rw [memory_modify]
    by_cases hr : r = q
    · rw [if_pos hr, hr]
      exact hf _
    · rw [if_neg hr]
      exact .refl _
  exact handsOver_congr (iceController_modify ..) (selectedConnection_modify ..) hrank p

lemma handsOver_failing (id : TransactionId) :
    HandsOver ((ch.removeRequest p id).modify p ({ · with state := .failed })) p ↔
      HandsOver ch p := by
  refine (handsOver_modify _ ?_ p).trans (handsOver_modify _ ?_ p)
  · exact fun _ => ⟨rfl, rfl, rfl, rfl⟩
  · exact fun _ => ⟨rfl, rfl, rfl, rfl⟩

lemma Inv.failing (h : Inv ch) (p : ConnPtr) (id : TransactionId) :
    Inv ((ch.removeRequest p id).modify p ({ · with state := .failed })) :=
  h.moves ((absorbs_moves.reports.removeRequest ..).trans (absorbs_moves.reports.fail ..))

lemma Listed.apply {e : Event} (h : Listed ch) (he : apply ch e = some ch') : Listed ch' := by
  cases applied_of_apply he with
  | ignored => exact h
  | added hp => exact (h.addConnection hp _).moves (moves_sort ..)
  | answered =>
    exact h.moves
      ((absorbs_moves.receivedPingResponse ..).trans (absorbs_moves.reports.removeRequest ..))
  | retried => exact h.moves (absorbs_moves.reports.removeRequest ..)
  | failed =>
    refine (h.moves ?_).destroy _ _
    exact (absorbs_moves.reports.removeRequest ..).trans (absorbs_moves.reports.fail ..)
  | checked => exact h.moves (moves_onCheckAndPing ..)
  | informed => exact h.moves (absorbs_moves.setRemoteIceParams ..)
  | destroyed => exact h.destroy _ _

lemma Inv.apply {e : Event} (h : Inv ch) (hkeep : KeepsSelection ch e)
    (he : apply ch e = some ch') : Inv ch' := by
  cases applied_of_apply he with
  | ignored => exact h
  | added hp => exact (h.addConnection hp _).moves (moves_sort ..)
  | answered =>
    exact h.moves ((absorbs_moves.receivedPingResponse ..).trans (absorbs_moves.reports.removeRequest ..))
  | retried => exact h.moves (absorbs_moves.reports.removeRequest ..)
  | @failed p id _ _ now _ _ hcode =>
    exact (h.failing p id).destroy ((handsOver_failing id).mpr (hkeep hcode)) now
  | checked => exact h.moves (moves_onCheckAndPing ..)
  | informed => exact h.moves (absorbs_moves.setRemoteIceParams ..)
  | destroyed => exact h.destroy hkeep _

lemma keepsSelection_of_sound {e : Event} (h : Inv ch) (he : apply ch e = some ch')
    (hsound : SelectionSound ch') : KeepsSelection ch e := by
  cases applied_of_apply he with
  | retried _ _ hcode =>
    intro hfatal
    cases hcode.symm.trans hfatal
  | @failed p id =>
    intro _
    exact (handsOver_failing id).mp (handsOver_of_sound (h.failing p id) hsound)
  | destroyed => exact handsOver_of_sound h hsound
  | _ => trivial

/-- The two copies of the selected connection agree and are alive throughout a run exactly when
every destruction of the selected connection hands the selection over. -/
theorem selectionSound_iff (memory : ConnPtr → IceConnection) (es : List Event) :
    Along Step SelectionSound (initial memory) es ↔
      Meets Step KeepsSelection (initial memory) es := by
  apply along_iff_meets (I := Inv)
  · exact fun ch h => h.sound
  · rintro ch e ch' h hkeep ⟨ch₁, mem, he, -, rfl⟩
    have h₁ := h.apply hkeep he
    exact ⟨h₁.same, h₁.mem, h₁.nodup, h₁.live⟩
  · rintro ch e ch' h ⟨ch₁, mem, he, -, rfl⟩ hsound
    exact keepsSelection_of_sound h he ⟨hsound.same, hsound.alive⟩
  · exact inv_initial memory

/-- One connection is checked, becomes writable and is destroyed: the controller keeps it. -/
theorem lastConnection_stays_selected :
    ¬ Along Step SelectionSound
      (initial fun _ => { port := 0, localPriority := 0, remoteCandidate := ⟨⟨[], 0⟩, [], [], 0⟩ })
      [.setRemoteIceParams ⟨[117], [112]⟩ 0,
        .unknownAddress 1 0 100 ⟨[10, 0, 0, 1], 5000⟩ (some 200) [117] 1,
        .checkAndPing [1, 2] 10, .pingResponse 1 [1, 2] 40, .destroy 1 50] := by
  intro h
  have hlast := (((((h.2 _ ⟨_, _, rfl, fun _ _ => rfl, rfl⟩).2 _ ⟨_, _, rfl, fun _ _ => rfl, rfl⟩).2 _
    ⟨_, _, rfl, fun _ _ => rfl, rfl⟩).2 _ ⟨_, _, rfl, fun _ _ => rfl, rfl⟩).2 _
    ⟨_, _, rfl, fun _ _ => rfl, rfl⟩).head
  have hsame := hlast.same
  revert hsame
  decide

end XrtcServer.Ice
