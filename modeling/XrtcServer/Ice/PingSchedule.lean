import XrtcServer.Core.Turns
import XrtcServer.Ice.PingRounds
import XrtcServer.Ice.SelectionRuns

/-!
# The ping rounds of a run

A round pings the connection that `select_connection_to_ping` returns and moves it from the one set
to the other. Between the rounds connections are added and anything else happens to the channel
that leaves the two sets and the times of the last pings alone. Every connection is in exactly one
of the sets, and no connection is pinged twice while another one that could be pinged waits.
-/

namespace XrtcServer.Ice
open XrtcServer.Base XrtcServer.Core IceTransportChannel

variable {ch ch' : IceTransportChannel} {p q c₁ c₂ : ConnPtr} {now sent last : Int}
  {clock : Option Int} {id : TransactionId} {conn : IceConnection}

/-- A channel with the time of its last round and the connections pinged so far. -/
structure PingState where
  channel : IceTransportChannel
  clock : Option Int := none
  log : List ConnPtr := []

/-- A round reads the clock for the choice and again for the ping. -/
inductive PingEvent
  | round (last : Int) (id : TransactionId) (now sent : Int)
  | add (p : ConnPtr) (conn : IceConnection)
  | elsewhere

namespace IceTransportChannel

/-- `_ping_connection` and `mark_connection_pinged` -/
def pingAndMark (ch : IceTransportChannel) (p : ConnPtr) (id : TransactionId) (sent : Int) :
    IceTransportChannel :=
  (ch.pingConnection p id sent).markConnectionPinged p

end IceTransportChannel

/-- `select_connection_to_ping`, and the ping of what it returns. -/
def PingState.round (s : PingState) (last : Int) (id : TransactionId) (now sent : Int) :
    PingState :=
  let r := s.channel.selectConnectionToPing last now
  match r.1 with
  | none => { s with channel := r.2.2, clock := some now }
  | some p => ⟨r.2.2.pingAndMark p id sent, some sent, s.log ++ [p]⟩

/-- What is done to a channel between the rounds, where no connection is destroyed. The sets keep
their elements in any order, and all of the rest can change. -/
structure Elsewhere (ch ch' : IceTransportChannel) : Prop where
  connections : ch'.iceController.connections.Perm ch.iceController.connections
  unpinged : ch'.iceController.unpingedConnections.Perm ch.iceController.unpingedConnections
  pinged : ch'.iceController.pingedConnections.Perm ch.iceController.pingedConnections
  lastPingSent : ∀ p ∈ ch.iceController.connections,
    (ch'.memory p).lastPingSent = (ch.memory p).lastPingSent
  selected : ∀ p, ch'.iceController.selectedConnection = some p →
    ch.iceController.selectedConnection = some p ∨ p ∈ ch.iceController.connections

/-- The rounds take place at strictly increasing times, and a new connection is a new object. -/
inductive PingStep : PingState → PingEvent → PingState → Prop
  | round {s : PingState} (last : Int) (id : TransactionId) (now sent : Int)
      (hlater : ∀ t ∈ s.clock, t < now) (hsent : now ≤ sent) :
      PingStep s (.round last id now sent) (s.round last id now sent)
  | add {s : PingState} (p : ConnPtr) (conn : IceConnection)
      (hnew : p ∉ s.channel.iceController.connections) :
      PingStep s (.add p conn)
        { s with channel := (s.channel.newConnection p conn).addConnection p }
  | elsewhere {s : PingState} (ch : IceTransportChannel) (h : Elsewhere s.channel ch) :
      PingStep s .elsewhere { s with channel := ch }

/-! ## The two sets -/

/-- Every connection is in one of the two sets, and those that the round has reached were pinged
by the time of the last round. -/
structure Scheduled (ch : IceTransportChannel) (clock : Option Int) : Prop where
  union : ∀ p, p ∈ ch.iceController.connections ↔
    p ∈ ch.iceController.pingedConnections ∨ p ∈ ch.iceController.unpingedConnections
  disjoint : ch.iceController.pingedConnections.Disjoint ch.iceController.unpingedConnections
  nodup : ch.iceController.unpingedConnections.Nodup
  selected : ∀ p, ch.iceController.selectedConnection = some p → p ∈ ch.iceController.connections
  earlier : ∀ p ∈ ch.iceController.pingedConnections, ∃ t ∈ clock, (ch.memory p).lastPingSent ≤ t

lemma scheduled_initial (memory : ConnPtr → IceConnection) : Scheduled (initial memory) none where
  union p := by simp [initial]
  disjoint := List.disjoint_nil_left _
  nodup := List.nodup_nil
  selected p hp := by cases hp
  earlier p hp := by cases hp

lemma Scheduled.later (h : Scheduled ch clock) (hlater : ∀ t ∈ clock, t ≤ now) :
    Scheduled ch (some now) where
  union := h.union
  disjoint := h.disjoint
  nodup := h.nodup
  selected := h.selected
  earlier p hp := by
    obtain ⟨t, ht, hle⟩ := h.earlier p hp
    exact ⟨now, rfl, hle.trans (hlater t ht)⟩

lemma pinged_gather (ch : IceTransportChannel) (now : Int) :
    (ch.gather now).iceController.pingedConnections = ch.iceController.pingedConnections ∧
        (ch.gather now).iceController.unpingedConnections = ch.iceController.unpingedConnections ∨
      (ch.gather now).iceController.pingedConnections = [] ∧
        (ch.gather now).iceController.unpingedConnections =
          ch.iceController.pingedConnections.foldr setInsert
            ch.iceController.unpingedConnections := by
  unfold gather
  dsimp only
  split
  · exact .inl ⟨rfl, rfl⟩
  · exact .inr ⟨rfl, rfl⟩

@[simp] lemma connections_gather (ch : IceTransportChannel) (now : Int) :
    (ch.gather now).iceController.connections = ch.iceController.connections := by
  unfold gather
  dsimp only
  split <;> rfl

@[simp] lemma selectedConnection_gather (ch : IceTransportChannel) (now : Int) :
    (ch.gather now).iceController.selectedConnection = ch.iceController.selectedConnection := by
  unfold gather
  dsimp only
  split <;> rfl

lemma Scheduled.gather (h : Scheduled ch clock) (now : Int) : Scheduled (ch.gather now) clock := by
  rcases pinged_gather ch now with ⟨hpinged, hunpinged⟩ | ⟨hpinged, hunpinged⟩
  · constructor
    · simpa [hpinged, hunpinged] using h.union
    · rw [hpinged, hunpinged]
      exact h.disjoint
    · rw [hunpinged]
      exact h.nodup
    · simpa using h.selected
    · rw [hpinged]
      exact h.earlier
  · constructor
    · intro p
      rw [connections_gather, hpinged, hunpinged, mem_foldr_setInsert, h.union]
      simp
    · rw [hpinged]
      exact List.disjoint_nil_left _
    · rw [hunpinged]
      exact nodup_foldr_setInsert h.nodup
    · simpa using h.selected
    · simp [hpinged]

lemma Scheduled.addConnection (h : Scheduled ch clock)
    (hnew : p ∉ ch.iceController.connections) (conn : IceConnection) :
    Scheduled ((ch.newConnection p conn).addConnection p) clock := by
  have hold : p ∉ ch.iceController.pingedConnections := fun hp => hnew ((h.union p).mpr (.inl hp))
  constructor
  · intro q
    simp only [IceTransportChannel.addConnection, newConnection, List.mem_append,
      List.mem_singleton, mem_setInsert, h.union]
    tauto
  · intro q hq hq'
    rcases mem_setInsert.mp hq' with rfl | hq'
    · exact hold hq
    · exact h.disjoint hq hq'
  · exact nodup_setInsert h.nodup
  · exact fun q hq => List.mem_append_left _ (h.selected q hq)
  · intro q hq
    have hne : q ≠ p := by
      rintro rfl
      exact hold hq
    simpa [IceTransportChannel.addConnection, newConnection, hne] using h.earlier q hq

lemma Scheduled.elsewhere (h : Scheduled ch clock) (he : Elsewhere ch ch') :
    Scheduled ch' clock := by
  constructor
  · intro p
    rw [he.connections.mem_iff, he.pinged.mem_iff, he.unpinged.mem_iff, h.union]
  · intro p hp hp'
    exact h.disjoint (he.pinged.mem_iff.mp hp) (he.unpinged.mem_iff.mp hp')
  · exact he.unpinged.nodup_iff.mpr h.nodup
  · intro p hp
    rw [he.connections.mem_iff]
    exact (he.selected p hp).elim (h.selected p) id
  · intro p hp
    rw [he.pinged.mem_iff] at hp
    rw [he.lastPingSent p ((h.union p).mpr (.inl hp))]
    exact h.earlier p hp

section PingAndMark

variable (ch p id sent)

@[simp] lemma connections_pingAndMark :
    (ch.pingAndMark p id sent).iceController.connections = ch.iceController.connections := by
  unfold pingAndMark markConnectionPinged
  dsimp only
  split <;> rfl

@[simp] lemma selectedConnection_pingAndMark :
    (ch.pingAndMark p id sent).iceController.selectedConnection =
      ch.iceController.selectedConnection := by
  unfold pingAndMark markConnectionPinged
  dsimp only
  split <;> rfl

lemma lastPingSent_pingAndMark (q : ConnPtr) :
    ((ch.pingAndMark p id sent).memory q).lastPingSent =
      if q = p then sent else (ch.memory q).lastPingSent := by
  have hmem : (ch.pingAndMark p id sent).memory = (ch.modify p (ping id sent)).memory := by
    unfold pingAndMark markConnectionPinged
    dsimp only
    split <;> rfl
  rw [hmem, memory_modify]
  by_cases hq : q = p
  · rw [if_pos hq, if_pos hq]
    rfl
  · rw [if_neg hq, if_neg hq]

end PingAndMark

lemma mem_pinged_pingAndMark :
    q ∈ (ch.pingAndMark p id sent).iceController.pingedConnections ↔
      q = p ∨ q ∈ ch.iceController.pingedConnections := by
  unfold pingAndMark markConnectionPinged
  dsimp only
  split
  next hmem =>
    constructor
    · exact .inr
    · rintro (rfl | hq)
      · exact hmem
      · exact hq
  next => exact mem_setInsert

lemma Scheduled.unpinged_pingAndMark (h : Scheduled ch clock) (p : ConnPtr) (id : TransactionId)
    (sent : Int) : (ch.pingAndMark p id sent).iceController.unpingedConnections =
      ch.iceController.unpingedConnections.erase p := by
  unfold pingAndMark markConnectionPinged
  dsimp only
  split
  next hmem => exact (List.erase_of_not_mem fun hp => h.disjoint hmem hp).symm
  next => rfl

lemma Scheduled.mem_unpinged_pingAndMark (h : Scheduled ch clock) :
    q ∈ (ch.pingAndMark p id sent).iceController.unpingedConnections ↔
      q ≠ p ∧ q ∈ ch.iceController.unpingedConnections := by
  rw [h.unpinged_pingAndMark, h.nodup.mem_erase_iff]

lemma Scheduled.pingAndMark (h : Scheduled ch clock) (hp : p ∈ ch.iceController.connections)
    (hsent : ∀ t ∈ clock, t ≤ sent) (id : TransactionId) :
    Scheduled (ch.pingAndMark p id sent) (some sent) := by
  constructor
  · intro q
    rw [connections_pingAndMark, mem_pinged_pingAndMark, h.mem_unpinged_pingAndMark]
    by_cases hq : q = p
    · simp [hq, hp]
    · simp [hq, h.union]
  · intro q hq hq'
    rw [mem_pinged_pingAndMark] at hq
    rw [h.mem_unpinged_pingAndMark] at hq'
    exact h.disjoint (hq.resolve_left hq'.1) hq'.2
  · rw [h.unpinged_pingAndMark]
    exact h.nodup.erase p
  · simpa using h.selected
  · intro q hq
    refine ⟨sent, rfl, ?_⟩
    rw [lastPingSent_pingAndMark]
    split
    next => exact le_refl sent
    next hne =>
      rw [mem_pinged_pingAndMark] at hq
      obtain ⟨t, ht, hle⟩ := h.earlier q (hq.resolve_left hne)
      exact hle.trans (hsent t ht)

/-! ## One round -/

/-- What a round selects: nothing, the selected connection, or the one of those it looks through
that was pinged longest ago. -/
inductive Chooses (ch : IceTransportChannel) (now : Int) :
    Option ConnPtr → IceTransportChannel → Prop
  | early : Chooses ch now none ch
  | nothing : Chooses ch now none (ch.gather now)
  | selected {p : ConnPtr} (hp : ch.iceController.selectedConnection = some p) :
      Chooses ch now (some p) ch
  | longestAgo {p : ConnPtr} (hp : p ∈ (ch.gather now).iceController.unpingedConnections)
      (hleast : ∀ q ∈ (ch.gather now).iceController.unpingedConnections,
        ch.isPingable q now = true → (ch.memory p).lastPingSent ≤ (ch.memory q).lastPingSent) :
      Chooses ch now (some p) (ch.gather now)

lemma chooses_selectConnectionToPing (ch : IceTransportChannel) (last now : Int) :
    Chooses ch now (ch.selectConnectionToPing last now).1
      (ch.selectConnectionToPing last now).2.2 := by
  rw [selectConnectionToPing_eq]
  split
  next =>
    rw [findNextPingableConnection_eq]
    cases hdue : ch.dueSelected now with
    | some p => exact .selected (dueSelected_eq_some_iff.mp hdue).1
    | none =>
      rcases ch.longestAgo_spec now with ⟨hnone, -⟩ | ⟨p, hp, hsome, -, hleast⟩
      · rw [hnone]
        exact .nothing
      · rw [hsome]
        exact .longestAgo hp hleast
  next => exact .early

/-- A round either sends nothing or one ping. -/
inductive RoundResult (s : PingState) (id : TransactionId) (now sent : Int) : PingState → Prop
  | quiet {ch : IceTransportChannel} (h : Chooses s.channel now none ch) :
      RoundResult s id now sent ⟨ch, some now, s.log⟩
  | pings {p : ConnPtr} {ch : IceTransportChannel} (h : Chooses s.channel now (some p) ch) :
      RoundResult s id now sent ⟨ch.pingAndMark p id sent, some sent, s.log ++ [p]⟩

lemma PingState.round_result (s : PingState) (last : Int) (id : TransactionId) (now sent : Int) :
    RoundResult s id now sent (s.round last id now sent) := by
  have h := chooses_selectConnectionToPing s.channel last now
  unfold PingState.round
  dsimp only
  cases hr : (s.channel.selectConnectionToPing last now).1 with
  | none =>
    rw [hr] at h
    exact .quiet h
  | some p =>
    rw [hr] at h
    exact .pings h

lemma Scheduled.chooses {r : Option ConnPtr} (h : Scheduled ch clock) (hr : Chooses ch now r ch') :
    Scheduled ch' clock ∧ ∀ p ∈ r, p ∈ ch'.iceController.connections := by
  cases hr with
  | early => exact ⟨h, fun p hp => by cases hp⟩
  | nothing => exact ⟨h.gather now, fun p hp => by cases hp⟩
  | selected hp =>
    refine ⟨h, fun q hq => ?_⟩
    cases hq
    exact h.selected _ hp
  | longestAgo hp =>
    refine ⟨h.gather now, fun q hq => ?_⟩
    cases hq
    exact ((h.gather now).union _).mpr (.inr hp)

lemma PingStep.scheduled {s t : PingState} {e : PingEvent} (hstep : PingStep s e t)
    (h : Scheduled s.channel s.clock) : Scheduled t.channel t.clock := by
  cases hstep with
  | round last id now sent hlater hsent =>
    have hearlier : ∀ t ∈ s.clock, t ≤ now := fun t ht => (hlater t ht).le
    have hround := s.round_result last id now sent
    generalize s.round last id now sent = t at hround
    cases hround with
    | quiet hr => exact (h.chooses hr).1.later hearlier
    | pings hr =>
      obtain ⟨h', hp⟩ := h.chooses hr
      exact h'.pingAndMark (hp _ rfl) (fun t ht => (hearlier t ht).trans hsent) id
  | add p conn hnew => exact h.addConnection hnew conn
  | elsewhere ch he => exact h.elsewhere he

/-! ## No connection starves -/

/-- The next ping of `c₁` waits for one of `c₂`: either the round has reached `c₁` and not `c₂`, or
`c₂` was pinged longer ago and is not behind in the round. -/
structure WaitsFor (c₁ c₂ : ConnPtr) (ch : IceTransportChannel) : Prop where
  mem₁ : c₁ ∈ ch.iceController.connections
  mem₂ : c₂ ∈ ch.iceController.connections
  turn :
    (c₁ ∉ ch.iceController.unpingedConnections ∧ c₂ ∈ ch.iceController.unpingedConnections) ∨
    ((ch.memory c₂).lastPingSent < (ch.memory c₁).lastPingSent ∧
      (c₁ ∈ ch.iceController.unpingedConnections → c₂ ∈ ch.iceController.unpingedConnections))

lemma WaitsFor.gather (h : WaitsFor c₁ c₂ ch) (hs : Scheduled ch clock)
    (hping : ch.isPingable c₂ now = true) : WaitsFor c₁ c₂ (ch.gather now) := by
  -- no new round begins while c₂ is left over from this one
  have hopen : c₂ ∈ ch.iceController.unpingedConnections →
      ¬ ∀ q ∈ ch.iceController.unpingedConnections, ch.isPingable q now = false := by
    intro hmem hnone
    rw [hnone c₂ hmem] at hping
    cases hping
  refine ⟨by simpa using h.mem₁, by simpa using h.mem₂, ?_⟩
  rw [mem_gather, mem_gather, memory_gather]
  rcases h.turn with ⟨hnot, hmem⟩ | ⟨hlast, himp⟩
  · left
    refine ⟨?_, .inl hmem⟩
    rintro (h₁ | ⟨-, hnone⟩)
    · exact hnot h₁
    · exact hopen hmem hnone
  · right
    refine ⟨hlast, ?_⟩
    rintro (h₁ | ⟨-, hnone⟩)
    · exact .inl (himp h₁)
    · exact ((hs.union c₂).mp h.mem₂).symm.imp_right fun hpinged => ⟨hpinged, hnone⟩

lemma WaitsFor.addConnection (h : WaitsFor c₁ c₂ ch) (hnew : p ∉ ch.iceController.connections)
    (conn : IceConnection) : WaitsFor c₁ c₂ ((ch.newConnection p conn).addConnection p) := by
  have hne : ∀ q ∈ ch.iceController.connections, q ≠ p := by
    rintro q hq rfl
    exact hnew hq
  have hne₁ := hne c₁ h.mem₁
  have hne₂ := hne c₂ h.mem₂
  refine ⟨List.mem_append_left _ h.mem₁, List.mem_append_left _ h.mem₂, ?_⟩
  simpa [IceTransportChannel.addConnection, newConnection, mem_setInsert, hne₁, hne₂] using h.turn

lemma WaitsFor.elsewhere (h : WaitsFor c₁ c₂ ch) (he : Elsewhere ch ch') : WaitsFor c₁ c₂ ch' := by
  refine ⟨he.connections.mem_iff.mpr h.mem₁, he.connections.mem_iff.mpr h.mem₂, ?_⟩
  rw [he.unpinged.mem_iff, he.unpinged.mem_iff, he.lastPingSent c₁ h.mem₁,
    he.lastPingSent c₂ h.mem₂]
  exact h.turn

/-- A ping of a third connection changes nothing between the two. -/
lemma WaitsFor.pingAndMark (h : WaitsFor c₁ c₂ ch) (hs : Scheduled ch clock) (h₁ : p ≠ c₁)
    (h₂ : p ≠ c₂) (id : TransactionId) (sent : Int) :
    WaitsFor c₁ c₂ (ch.pingAndMark p id sent) := by
  refine ⟨by simpa using h.mem₁, by simpa using h.mem₂, ?_⟩
  rw [hs.mem_unpinged_pingAndMark, hs.mem_unpinged_pingAndMark, lastPingSent_pingAndMark,
    lastPingSent_pingAndMark, if_neg h₁.symm, if_neg h₂.symm]
  simpa [h₁.symm, h₂.symm] using h.turn

/-- After its own ping `c₁` waits for every other connection. -/
lemma Scheduled.waitsFor (h : Scheduled ch clock) (hne : c₁ ≠ c₂)
    (hmem₁ : c₁ ∈ ch.iceController.connections) (hmem₂ : c₂ ∈ ch.iceController.connections)
    (hsent : ∀ t ∈ clock, t < sent) (id : TransactionId) :
    WaitsFor c₁ c₂ (ch.pingAndMark c₁ id sent) := by
  refine ⟨by simpa using hmem₁, by simpa using hmem₂, ?_⟩
  rw [h.mem_unpinged_pingAndMark, h.mem_unpinged_pingAndMark, lastPingSent_pingAndMark,
    lastPingSent_pingAndMark, if_pos rfl, if_neg hne.symm]
  rcases (h.union c₂).mp hmem₂ with hpinged | hunpinged
  · obtain ⟨t, ht, hle⟩ := h.earlier c₂ hpinged
    exact .inr ⟨hle.trans_lt (hsent t ht), fun hself => absurd rfl hself.1⟩
  · exact .inl ⟨fun hself => hself.1 rfl, hne.symm, hunpinged⟩

/-- While it waits, `c₁` is not the one that was pinged longest ago. -/
lemma WaitsFor.not_longestAgo (h : WaitsFor c₁ c₂ ch)
    (hmem : c₁ ∈ ch.iceController.unpingedConnections)
    (hleast : c₂ ∈ ch.iceController.unpingedConnections →
      (ch.memory c₁).lastPingSent ≤ (ch.memory c₂).lastPingSent) : False := by
  rcases h.turn with ⟨hnot, -⟩ | ⟨hlast, himp⟩
  · exact hnot hmem
  · exact absurd hlast (hleast (himp hmem)).not_gt

/-- At a round neither connection is the selected one, and `c₂` is there and can be pinged. -/
def Watched (c₁ c₂ : ConnPtr) (ch : IceTransportChannel) : PingEvent → Prop
  | .round _ _ now _ =>
    ch.iceController.selectedConnection ≠ some c₁ ∧
      ch.iceController.selectedConnection ≠ some c₂ ∧
      c₂ ∈ ch.iceController.connections ∧ ch.isPingable c₂ now = true
  | _ => True

lemma WaitsFor.chooses {r : Option ConnPtr} (h : WaitsFor c₁ c₂ ch) (hs : Scheduled ch clock)
    (hping : ch.isPingable c₂ now = true) (hr : Chooses ch now r ch') : WaitsFor c₁ c₂ ch' := by
  cases hr with
  | early => exact h
  | selected => exact h
  | nothing => exact h.gather hs hping
  | longestAgo => exact h.gather hs hping

lemma WaitsFor.not_chooses (h : WaitsFor c₁ c₂ ch) (hs : Scheduled ch clock)
    (hsel : ch.iceController.selectedConnection ≠ some c₁)
    (hping : ch.isPingable c₂ now = true) (hr : Chooses ch now (some c₁) ch') : False := by
  cases hr with
  | selected hp => exact hsel hp
  | longestAgo hp hleast =>
    exact (h.gather hs hping).not_longestAgo hp fun hmem => hleast c₂ hmem hping

lemma PingStep.turn {s t : PingState} {e : PingEvent} (hstep : PingStep s e t)
    (h : Scheduled s.channel s.clock) (hne : c₁ ≠ c₂) (hwatched : Watched c₁ c₂ s.channel e) :
    Turn PingState.log (fun s => WaitsFor c₁ c₂ s.channel) c₁ c₂ s t := by
  cases hstep with
  | round last id now sent hlater hsent =>
    obtain ⟨hsel₁, hsel₂, hmem₂, hping⟩ := hwatched
    have hround := s.round_result last id now sent
    generalize s.round last id now sent = t at hround
    cases hround with
    | quiet hr => exact .quiet rfl fun hy => hy.chooses h hping hr
    | @pings p ch hr =>
      obtain ⟨h', hmem⟩ := h.chooses hr
      by_cases hp : p = c₁
      · subst hp
        refine .own rfl (fun hy => hy.not_chooses h hsel₁ hping hr) ?_
        refine h'.waitsFor hne (hmem p rfl) ?_ (fun t ht => (hlater t ht).trans_le hsent) id
        cases hr with
        | selected => exact hmem₂
        | longestAgo => simpa using hmem₂
      · exact .other p rfl hp fun hp₂ hy => (hy.chooses h hping hr).pingAndMark h' hp hp₂ id sent
  | add p conn hnew => exact .quiet rfl fun hy => hy.addConnection hnew conn
  | elsewhere ch he => exact .quiet rfl fun hy => hy.elsewhere he

/-- A step at which `c₁` and `c₂` are watched. -/
def WatchedStep (c₁ c₂ : ConnPtr) (s : PingState) (e : PingEvent) (t : PingState) : Prop :=
  PingStep s e t ∧ Watched c₁ c₂ s.channel e

/-- The sets split the connections, and from here on, as long as neither of two connections is
selected and the second can be pinged, the first is not pinged twice without the second. -/
structure Fair (s : PingState) : Prop where
  union : ∀ p, p ∈ s.channel.iceController.connections ↔
    p ∈ s.channel.iceController.pingedConnections ∨ p ∈ s.channel.iceController.unpingedConnections
  disjoint : s.channel.iceController.pingedConnections.Disjoint
    s.channel.iceController.unpingedConnections
  noStarvation : ∀ c₁ c₂ es t, c₁ ≠ c₂ → Leads (WatchedStep c₁ c₂) s es t →
    ∃ l, t.log = s.log ++ l ∧ Separated c₁ c₂ l

lemma Scheduled.fair {s : PingState} (h : Scheduled s.channel s.clock) : Fair s where
  union := h.union
  disjoint := h.disjoint
  noStarvation c₁ c₂ _ _ hne hrun :=
    hrun.separated (I := fun s => Scheduled s.channel s.clock)
      (B := fun s => WaitsFor c₁ c₂ s.channel) h
      (fun _ _ _ h hstep => hstep.1.scheduled h)
      (fun _ _ _ h hstep => hstep.1.turn h hne hstep.2)

/-- Every state of every run is fair. -/
theorem along_fair (memory : ConnPtr → IceConnection) (es : List PingEvent) :
    Along PingStep Fair { channel := initial memory } es :=
  Along.mono (fun _ h => Scheduled.fair h)
    (along_of_invariant (I := fun s : PingState => Scheduled s.channel s.clock)
      (fun _ _ _ h hstep => PingStep.scheduled hstep h) (scheduled_initial memory) es)

/-- Two connections of a weak channel take turns. -/
example :
    let conn : IceConnection :=
      { port := 0, localPriority := 0, remoteCandidate := ⟨⟨[], 0⟩, [97], [112], 0⟩ }
    let ch := ((initial fun _ => conn).newConnection 1 conn).addConnection 1
    let s : PingState := { channel := (ch.newConnection 2 conn).addConnection 2 }
    (((s.round 0 [1] 10 10).round 5 [2] 58 58).round 53 [3] 106 107).log = [1, 2, 1] := by
  decide

/-! ## The rounds of a channel -/

lemma Elsewhere.of_moves (hm : Moves ch ch') (hk : KeepsPings ch ch') : Elsewhere ch ch' where
  connections := hm.perm
  unpinged := .of_eq hk.unpinged
  pinged := .of_eq hk.pinged
  lastPingSent p _ := hk.lastPingSent p
  selected p hp := by
    rcases hm.choice with ⟨hsame, -⟩ | ⟨t, ht, hc, -⟩
    · exact .inl (hsame ▸ hp)
    · cases hc.symm.trans hp
      exact .inr ht

/-- What is made of sorts and harmless writes happens elsewhere. -/
lemma Elsewhere.of_absorbs (h : ∀ {r}, Absorbs r → r ch ch') : Elsewhere ch ch' :=
  .of_moves (h absorbs_moves) (h absorbs_keepsPings)

/-- An event that destroys no connection, and a check only after the last one. -/
def Ticks (clock : Option Int) : Event → Prop
  | .pingErrorResponse _ _ errorCode _ => retryable errorCode = true
  | .checkAndPing _ now => ∀ t ∈ clock, t < now
  | .destroy _ _ => False
  | _ => True

/-- The time of the last check. -/
def clockAfter (clock : Option Int) : Event → Option Int
  | .checkAndPing _ now => some now
  | _ => clock

/-- The steps of a channel that destroy no connection, with the time of the last check. -/
def TickStep (s : IceTransportChannel × Option Int) (e : Event)
    (t : IceTransportChannel × Option Int) : Prop :=
  Step s.1 e t.1 ∧ Ticks s.2 e ∧ t.2 = clockAfter s.2 e

lemma Ticks.keepsSelection {e : Event} (h : Ticks clock e) : KeepsSelection ch e := by
  cases e with
  | pingErrorResponse p id errorCode now =>
    intro hcode
    cases hcode.symm.trans h
  | destroy p now => exact h.elim
  | _ => trivial

lemma channel_round (s : PingState) (last : Int) (id : TransactionId) (now sent : Int) :
    (s.round last id now sent).channel =
      let r := s.channel.selectConnectionToPing last now
      match r.1 with
      | none => r.2.2
      | some p => r.2.2.pingAndMark p id sent := by
  unfold PingState.round
  dsimp only
  cases (s.channel.selectConnectionToPing last now).1 <;> rfl

lemma clock_round (s : PingState) (last : Int) (id : TransactionId) (now : Int) :
    (s.round last id now now).clock = some now := by
  unfold PingState.round
  dsimp only
  cases (s.channel.selectConnectionToPing last now).1 <;> rfl

/-- A check is a round between two changes elsewhere. -/
lemma reachable_onCheckAndPing {s₀ s : PingState} (h : Reachable PingStep s₀ s)
    (hlater : ∀ t ∈ s.clock, t < now) (id : TransactionId) :
    ∃ t, Reachable PingStep s₀ t ∧ t.channel = s.channel.onCheckAndPing id now ∧
      t.clock = some now := by
  have hupdate : Elsewhere s.channel (s.channel.updateConnectionStates now) :=
    .of_absorbs fun h => h.updateConnectionStates ..
  have hround := (h.step (.elsewhere _ hupdate)).step
    (.round (s.channel.lastPingSentMs - pingIntervalDiff) id now now hlater (le_refl now))
  refine ⟨_, hround.step (.elsewhere (s.channel.onCheckAndPing id now) ?_), rfl,
    clock_round ..⟩
  rw [onCheckAndPing_eq, channel_round]
  exact ⟨.refl _, .refl _, .refl _, fun _ _ => rfl, fun _ => .inl⟩

/-- An event is a run of at most three steps. -/
lemma reachable_apply {s₀ s : PingState} {e : Event} (h : Reachable PingStep s₀ s)
    (hinv : Inv s.channel) (htick : Ticks s.clock e) (he : apply s.channel e = some ch') :
    ∃ t, Reachable PingStep s₀ t ∧ t.channel = ch' ∧ t.clock = clockAfter s.clock e := by
  have helse : ∀ {ch₁}, (∀ {r}, Absorbs r → r s.channel ch₁) →
      ∃ t, Reachable PingStep s₀ t ∧ t.channel = ch₁ ∧ t.clock = s.clock :=
    fun habsorbs => ⟨_, h.step (.elsewhere _ (.of_absorbs habsorbs)), rfl, rfl⟩
  cases applied_of_apply he with
  | ignored => exact ⟨s, h, rfl, rfl⟩
  | @added p _ _ _ _ _ now conn hp =>
    have hnew : p ∉ s.channel.iceController.connections := by
      simp [hinv.live, hp]
    have hadd := h.step (.add p conn hnew)
    exact ⟨_, hadd.step (.elsewhere _ (.of_absorbs fun h => h.sort _ now)), rfl, rfl⟩
  | answered => exact helse fun h => h.trans (h.receivedPingResponse ..) (h.reports.removeRequest ..)
  | retried => exact helse fun h => h.reports.removeRequest ..
  | failed _ _ hcode => cases hcode.symm.trans htick
  | checked => exact reachable_onCheckAndPing h htick _
  | informed => exact helse fun h => h.setRemoteIceParams ..
  | destroyed => exact htick.elim

/-- A run of a channel that destroys no connection is a run of ping rounds. -/
theorem pingRun_of_ticks {memory : ConnPtr → IceConnection}
    {s : IceTransportChannel × Option Int}
    (h : Reachable TickStep (initial memory, none) s) :
    ∃ t, Reachable PingStep { channel := initial memory } t ∧ t.channel = s.1 ∧ t.clock = s.2 := by
  suffices Inv s.1 ∧ ∃ t, Reachable PingStep { channel := initial memory } t ∧ t.channel = s.1 ∧
      t.clock = s.2 from this.2
  refine h.invariant (I := fun s => Inv s.1 ∧ ∃ t,
    Reachable PingStep { channel := initial memory } t ∧ t.channel = s.1 ∧ t.clock = s.2)
    ⟨inv_initial memory, _, .start, rfl, rfl⟩ ?_
  rintro ⟨ch, clock⟩ e ⟨ch', clock'⟩ ⟨hinv, t, ht, rfl, rfl⟩ ⟨⟨ch₁, mem, he, hmem, rfl⟩, htick, rfl⟩
  have h₁ : Inv ch₁ := hinv.apply htick.keepsSelection he
  obtain ⟨u, hu, rfl, hclock⟩ := reachable_apply ht hinv htick he
  refine ⟨⟨h₁.same, h₁.mem, h₁.nodup, h₁.live⟩, _, hu.step (.elsewhere _ ?_), rfl, hclock⟩
  refine ⟨.refl _, .refl _, .refl _, fun p hp => ?_, fun _ => .inl⟩
  rw [← hmem p ((h₁.live p).mp hp)]

end XrtcServer.Ice
