import XrtcServer.Core.Least
import XrtcServer.Core.Run
import XrtcServer.Ice.Selection

/-!
# What a ping round selects

`select_connection_to_ping` takes the selected connection where it is due, and else the pingable
connection that was pinged longest ago, out of those that the current round has not reached. The
channel passes the time of its last ping, less a little, to be compared with the clock, and no
interval is added to it: the file says exactly when the round comes too early for the interval that
it returns.
-/

namespace XrtcServer.Ice
open XrtcServer.Base XrtcServer.Core IceTransportChannel

variable {ch ch' : IceTransportChannel} {p q : ConnPtr} {last now t : Int}

lemma mem_setInsert {s : List ConnPtr} : q ∈ setInsert p s ↔ q = p ∨ q ∈ s := by
  unfold setInsert
  split
  next hmem =>
    constructor
    · exact .inr
    · rintro (rfl | hq)
      · exact hmem
      · exact hq
  next => rw [List.mem_orderedInsert]

lemma nodup_setInsert {s : List ConnPtr} (h : s.Nodup) : (setInsert p s).Nodup := by
  unfold setInsert
  split
  next => exact h
  next hmem =>
    exact (List.perm_orderedInsert (· ≤ ·) p s).nodup_iff.mpr (List.nodup_cons.mpr ⟨hmem, h⟩)

lemma mem_foldr_setInsert {s u : List ConnPtr} : q ∈ s.foldr setInsert u ↔ q ∈ s ∨ q ∈ u := by
  induction s with
  | nil => simp
  | cons p s ih => rw [List.foldr_cons, mem_setInsert, ih, List.mem_cons, or_assoc]

lemma nodup_foldr_setInsert {s u : List ConnPtr} (h : u.Nodup) : (s.foldr setInsert u).Nodup := by
  induction s with
  | nil => exact h
  | cons p s ih => exact nodup_setInsert ih

namespace IceTransportChannel

/-- The selected connection, where it is to be pinged before all others. -/
def dueSelected (ch : IceTransportChannel) (now : Int) : Option ConnPtr :=
  ch.iceController.selectedConnection.filter fun p =>
    (ch.memory p).writable && ch.isConnectionPastPingInterval p now

/-- The channel with the two sets as they are when a connection is looked for: a new round begins
where no connection is left that can be pinged. -/
def gather (ch : IceTransportChannel) (now : Int) : IceTransportChannel :=
  let c := ch.iceController
  let c :=
    if c.unpingedConnections.any (ch.isPingable · now) then c
    else
      { c with
        unpingedConnections := c.pingedConnections.foldr setInsert c.unpingedConnections
        pingedConnections := [] }
  { ch with iceController := c }

/-- The connections that are looked at, from the one that was pinged longest ago. -/
def longestAgo (ch : IceTransportChannel) (now : Int) : Option ConnPtr :=
  leastBy (ch.isPingable · now) (fun p => (ch.memory p).lastPingSent)
    (ch.gather now).iceController.unpingedConnections none

lemma findNextPingableConnection_eq (ch : IceTransportChannel) (now : Int) :
    ch.findNextPingableConnection now =
      match ch.dueSelected now with
      | some p => (some p, ch)
      | none => (ch.longestAgo now, ch.gather now) := by
  have hmore : ch.morePingable = fun p found =>
      found.all fun q => (ch.memory p).lastPingSent < (ch.memory q).lastPingSent := by
    funext p found
    cases found <;> rfl
  unfold findNextPingableConnection dueSelected longestAgo leastBy
  rw [hmore]
  rfl

/-- The interval that `select_connection_to_ping` returns. -/
def currentInterval (ch : IceTransportChannel) : Int :=
  if ch.weak || ch.iceController.connections.any fun p =>
      (ch.memory p).numPingsSent < minPingsAtWeakPingInterval then weakPingInterval
  else strongPingInterval

lemma selectConnectionToPing_eq (ch : IceTransportChannel) (last now : Int) :
    ch.selectConnectionToPing last now =
      if last ≤ now then
        ((ch.findNextPingableConnection now).1, ch.currentInterval,
          (ch.findNextPingableConnection now).2)
      else (none, ch.currentInterval, ch) := rfl

@[simp] lemma memory_gather (ch : IceTransportChannel) (now : Int) :
    (ch.gather now).memory = ch.memory := rfl

/-- The connections that a round looks through: those that it has not reached, if one of them can
be pinged, and else all. -/
lemma mem_gather : p ∈ (ch.gather now).iceController.unpingedConnections ↔
    p ∈ ch.iceController.unpingedConnections ∨
      p ∈ ch.iceController.pingedConnections ∧
        ∀ q ∈ ch.iceController.unpingedConnections, ch.isPingable q now = false := by
  unfold gather
  dsimp only
  split
  next hany =>
    obtain ⟨q, hq, hping⟩ := List.any_eq_true.mp hany
    constructor
    · exact .inl
    · rintro (hp | ⟨-, hnone⟩)
      · exact hp
      · rw [hnone q hq] at hping
        cases hping
  next hany =>
    have hnone : ∀ q ∈ ch.iceController.unpingedConnections, ch.isPingable q now = false := by
      intro q hq
      rw [← Bool.not_eq_true]
      exact fun hping => hany (List.any_eq_true.mpr ⟨q, hq, hping⟩)
    rw [mem_foldr_setInsert]
    constructor
    · rintro (hp | hp)
      · exact .inr ⟨hp, hnone⟩
      · exact .inl hp
    · rintro (hp | ⟨hp, -⟩)
      · exact .inr hp
      · exact .inl hp

lemma longestAgo_spec (ch : IceTransportChannel) (now : Int) :
    ch.longestAgo now = none ∧
        (∀ p ∈ (ch.gather now).iceController.unpingedConnections, ch.isPingable p now = false) ∨
      ∃ p ∈ (ch.gather now).iceController.unpingedConnections,
        ch.longestAgo now = some p ∧ ch.isPingable p now = true ∧
          ∀ q ∈ (ch.gather now).iceController.unpingedConnections, ch.isPingable q now = true →
            (ch.memory p).lastPingSent ≤ (ch.memory q).lastPingSent :=
  leastBy_spec _ _ _

end IceTransportChannel

/-! ## Too early for the interval -/

/-- There is a connection to ping: the selected one where it is due, or one that can be pinged. -/
def HasTarget (ch : IceTransportChannel) (now : Int) : Prop :=
  (∃ p, ch.iceController.selectedConnection = some p ∧ (ch.memory p).writable = true ∧
    ch.isConnectionPastPingInterval p now = true) ∨
  ∃ p, (p ∈ ch.iceController.unpingedConnections ∨ p ∈ ch.iceController.pingedConnections) ∧
    ch.isPingable p now = true

/-- The time to wait between two pings: 43 ms where the channel is weak or a connection has sent
less than three pings, and else 475 ms. -/
def requiredGap (ch : IceTransportChannel) : Int :=
  if ch.weak = true ∨ ∃ p ∈ ch.iceController.connections, (ch.memory p).numPingsSent < 3 then 43
  else 475

/-- With the last ping sent at `t`, a connection is selected only if the interval that comes with it
is over, but for `PING_INTERVAL_DIFF`. -/
def KeepsInterval (ch : IceTransportChannel) (t now : Int) : Prop :=
  ∀ p, (ch.selectConnectionToPing (t - pingIntervalDiff) now).1 = some p →
    (ch.selectConnectionToPing (t - pingIntervalDiff) now).2.1 - pingIntervalDiff ≤ now - t

lemma requiredGap_eq (ch : IceTransportChannel) :
    requiredGap ch = ch.currentInterval - pingIntervalDiff := by
  have hiff : (ch.weak || ch.iceController.connections.any fun p =>
      (ch.memory p).numPingsSent < minPingsAtWeakPingInterval) = true ↔
      ch.weak = true ∨ ∃ p ∈ ch.iceController.connections, (ch.memory p).numPingsSent < 3 := by
    simp only [Bool.or_eq_true, List.any_eq_true, decide_eq_true_eq]
    rfl
  unfold requiredGap currentInterval
  by_cases h : ch.weak = true ∨ ∃ p ∈ ch.iceController.connections, (ch.memory p).numPingsSent < 3
  · rw [if_pos h, if_pos (hiff.mpr h)]
    rfl
  · rw [if_neg h, if_neg (h ∘ hiff.mp)]
    rfl

lemma dueSelected_eq_some_iff : ch.dueSelected now = some p ↔
    ch.iceController.selectedConnection = some p ∧ (ch.memory p).writable = true ∧
      ch.isConnectionPastPingInterval p now = true := by
  rw [dueSelected, Option.filter_eq_some_iff, Bool.and_eq_true]

lemma exists_find_iff (ch : IceTransportChannel) (now : Int) :
    (∃ p, (ch.findNextPingableConnection now).1 = some p) ↔ HasTarget ch now := by
  rw [findNextPingableConnection_eq]
  cases hdue : ch.dueSelected now with
  | some p =>
    have hp := dueSelected_eq_some_iff.mp hdue
    exact ⟨fun _ => .inl ⟨p, hp⟩, fun _ => ⟨p, rfl⟩⟩
  | none =>
    have hnot : ¬ ∃ p, ch.iceController.selectedConnection = some p ∧
        (ch.memory p).writable = true ∧ ch.isConnectionPastPingInterval p now = true := by
      rintro ⟨p, hp⟩
      cases hdue.symm.trans (dueSelected_eq_some_iff.mpr hp)
    rw [HasTarget, or_iff_right hnot]
    rcases ch.longestAgo_spec now with ⟨hnone, hall⟩ | ⟨p, hp, hsome, hping, -⟩
    · rw [hnone]
      constructor
      · rintro ⟨p, hp⟩
        cases hp
      · rintro ⟨p, hp, hping⟩
        have hunpinged : ∀ q ∈ ch.iceController.unpingedConnections,
            ch.isPingable q now = false := fun q hq => hall q (mem_gather.mpr (.inl hq))
        have hmem := mem_gather.mpr (hp.imp_right fun hp => ⟨hp, hunpinged⟩)
        rw [hall p hmem] at hping
        cases hping
    · rw [hsome]
      exact ⟨fun _ => ⟨p, (mem_gather.mp hp).imp_right And.left, hping⟩, fun _ => ⟨p, rfl⟩⟩

/-- A call keeps the interval exactly if there is nothing to ping or the interval is over, but for
`PING_INTERVAL_DIFF`. -/
theorem keepsInterval_iff (h : t ≤ now) :
    KeepsInterval ch t now ↔ (HasTarget ch now → requiredGap ch ≤ now - t) := by
  have hguard : t - pingIntervalDiff ≤ now := by
    rw [pingIntervalDiff]
    omega
  rw [KeepsInterval, selectConnectionToPing_eq, if_pos hguard, requiredGap_eq, ← exists_find_iff,
    forall_exists_index]

/-- A strong channel whose selected connection is to be pinged every second or so, next to one that
was pinged when the clock said 10000. -/
def strongChannel : IceTransportChannel :=
  let remote : Candidate := ⟨⟨[], 0⟩, [97], [112], 0⟩
  let conn : IceConnection :=
    { port := 0, localPriority := 0, remoteCandidate := remote, writeState := .stateWritable
      receiving := true, numPingsSent := 3 }
  { memory := fun p => if p = 1 then conn else { conn with lastPingSent := 10000 }
    live := fun p => p = 1 || p = 2
    iceController :=
      { selectedConnection := some 1, connections := [1, 2], unpingedConnections := [1]
        pingedConnections := [2] }
    selectedConnection := some 1 }

theorem strongChannel_waits : KeepsInterval strongChannel 10000 10480 :=
  (keepsInterval_iff (by decide)).mpr fun _ => by decide

/-- The tick after a change to the long interval still sends a ping, 48 ms after the last one. -/
theorem strongChannel_hurries : ¬ KeepsInterval strongChannel 10000 10048 := by
  intro h
  have hgap := h 1 (by decide)
  revert hgap
  decide

/-! ## The periodic check -/

/-- Nothing changes that the ping rounds keep count of. -/
structure KeepsPings (ch ch' : IceTransportChannel) : Prop where
  unpinged : ch'.iceController.unpingedConnections = ch.iceController.unpingedConnections
  pinged : ch'.iceController.pingedConnections = ch.iceController.pingedConnections
  lastPingSent : ∀ p, (ch'.memory p).lastPingSent = (ch.memory p).lastPingSent
  lastPingSentMs : ch'.lastPingSentMs = ch.lastPingSentMs

lemma KeepsPings.refl (ch : IceTransportChannel) : KeepsPings ch ch :=
  ⟨rfl, rfl, fun _ => rfl, rfl⟩

lemma KeepsPings.trans {ch₁ : IceTransportChannel} (h : KeepsPings ch ch₁)
    (h' : KeepsPings ch₁ ch') : KeepsPings ch ch' :=
  ⟨h'.unpinged.trans h.unpinged, h'.pinged.trans h.pinged,
    fun p => (h'.lastPingSent p).trans (h.lastPingSent p),
    h'.lastPingSentMs.trans h.lastPingSentMs⟩

lemma keepsPings_modify (ch : IceTransportChannel) (p : ConnPtr) (f : IceConnection → IceConnection)
    (hf : ∀ c, (f c).lastPingSent = c.lastPingSent) : KeepsPings ch (ch.modify p f) := by
  refine ⟨rfl, rfl, fun q => ?_, rfl⟩
  rw [memory_modify]
  by_cases hq : q = p
  · rw [if_pos hq, hf, hq]
  · rw [if_neg hq]

lemma IceConnection.SameButSelected.lastPingSent {c d : IceConnection} (h : c.SameButSelected d) :
    d.lastPingSent = c.lastPingSent := by
  obtain ⟨b, rfl⟩ := h
  rfl

lemma keepsPings_sort (ch : IceTransportChannel) (now : Int) :
    KeepsPings ch (ch.sortConnectionAndUpdateState now) := by
  have hmem := (sortConnectionAndUpdateState_spec ch now).memory
  refine ⟨?unpinged, ?pinged, fun p => (hmem p).lastPingSent, ?time⟩
  all_goals
    unfold sortConnectionAndUpdateState
    dsimp only
    rw [sortAndSwitchConnection_snd, maybeStartPinging_eq]
    cases ch.sortAndSwitchConnection.1
  case unpinged.none => simp [maybeSwitchSelectedConnection]
  case unpinged.some t => simp [maybeSwitchSelectedConnection, iceController_switch_some]
  case pinged.none => simp [maybeSwitchSelectedConnection]
  case pinged.some t => simp [maybeSwitchSelectedConnection, iceController_switch_some]
  case time.none =>
    unfold maybeSwitchSelectedConnection updateState setWritable
    dsimp only
    split <;> rfl
  case time.some t =>
    unfold maybeSwitchSelectedConnection updateState setWritable switchSelectedConnection
    dsimp only
    cases ch.sortConnections.selectedConnection <;> split <;> rfl

lemma absorbs_keepsPings : Absorbs KeepsPings where
  refl := .refl
  trans := .trans
  modify ch p f hf := keepsPings_modify ch p f hf.lastPingSent
  sort := keepsPings_sort
  remoteIceParams _ _ := ⟨rfl, rfl, fun _ => rfl, rfl⟩

namespace IceTransportChannel

/-- `_update_connection_states` -/
def updateConnectionStates (ch : IceTransportChannel) (now : Int) : IceTransportChannel :=
  ch.iceController.connections.foldl (fun ch p => ch.updateConnectionState p now) ch

end IceTransportChannel

lemma Absorbs.updateConnectionStates {r : IceTransportChannel → IceTransportChannel → Prop}
    (h : Absorbs r) (ch : IceTransportChannel) (now : Int) : r ch (ch.updateConnectionStates now) :=
  h.reports.foldl (fun ch p => h.reports.updateConnectionState ch p now) _ _

/-- What `_on_check_and_ping` does after the update of the states. -/
lemma onCheckAndPing_eq (ch : IceTransportChannel) (id : TransactionId) (now : Int) :
    ch.onCheckAndPing id now =
      let ch₁ := ch.updateConnectionStates now
      let r := ch₁.selectConnectionToPing (ch.lastPingSentMs - pingIntervalDiff) now
      let ch₂ :=
        match r.1 with
        | none => r.2.2
        | some p => (r.2.2.pingConnection p id now).markConnectionPinged p
      { ch₂ with curPingInterval := r.2.1 } := by
  rw [← (absorbs_keepsPings.updateConnectionStates ch now).lastPingSentMs]
  rfl

end XrtcServer.Ice
