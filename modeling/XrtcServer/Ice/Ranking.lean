import XrtcServer.Ice.Selection

/-!
# Which connection the sort puts first

`_compare_connections` tests the write states for being nonzero, which the tests for a writable
connection have settled already. Connections that are not writable are therefore ranked without
regard to whether they can carry data, and the file says exactly when one that can is hidden behind
one that cannot.
-/

namespace XrtcServer.Ice
open XrtcServer.Base XrtcServer.Core IceTransportChannel IceConnection

variable {ch : IceTransportChannel} {a b : IceConnection}

/-- The order of connections that are not writable: the one that is receiving, the one with the
greater priority, the one with the shorter round trip time. -/
def outranks : IceConnection → IceConnection → Bool :=
  thenBy (byKey fun c => !c.receiving)
    (thenBy (byKey fun c => OrderDual.toDual c.priority.toNat) (byKey rtt))

lemma better_eq_outranks (ha : a.writable = false) (hb : b.writable = false) :
    a.better b = outranks a b := by
  rw [better_eq, thenBy]
  simp only [byKey, ha, hb]
  rfl

/-- A connection that can carry data. -/
def Ready (ch : IceTransportChannel) (p : ConnPtr) : Prop := ch.readyToSend (some p) = true

instance (ch : IceTransportChannel) (p : ConnPtr) : Decidable (Ready ch p) := by
  unfold Ready; infer_instance

lemma ready_iff {p : ConnPtr} : Ready ch p ↔
    (ch.memory p).writable = true ∨ (ch.memory p).writeState = .stateWriteUnreliable := by
  rw [Ready, readyToSend, Bool.or_eq_true, decide_eq_true_eq]

/-- After the sort a connection that can carry data is first, if there is any. -/
def ReadyFirst (ch : IceTransportChannel) : Prop :=
  (∃ p ∈ ch.iceController.connections, Ready ch p) →
    let ch' := ch.sortAndSwitchConnection.2
    ∃ t, ch'.iceController.connections.head? = some t ∧ Ready ch' t

/-- No connection can carry data, or one is writable, or some unreliable connection stands ahead of
all in the states `STATE_WRITE_INIT` and `STATE_WRITE_TIMEOUT`. -/
def Unhidden (ch : IceTransportChannel) : Prop :=
  (∀ p ∈ ch.iceController.connections, ¬ Ready ch p) ∨
    (∃ p ∈ ch.iceController.connections, (ch.memory p).writable = true) ∨
    ∃ l₁ u l₂, ch.iceController.connections = l₁ ++ u :: l₂ ∧
      (ch.memory u).writeState = .stateWriteUnreliable ∧
      (∀ c ∈ l₁, ¬ Ready ch c → outranks (ch.memory u) (ch.memory c) = true) ∧
      ∀ c ∈ l₂, ¬ Ready ch c → outranks (ch.memory c) (ch.memory u) = false

lemma writable_eq_false_of_not_ready {p : ConnPtr} (h : ¬ Ready ch p) :
    (ch.memory p).writable = false := by
  rw [← Bool.not_eq_true]
  exact fun hw => h (ready_iff.mpr (.inl hw))

lemma writable_eq_false_of_unreliable (h : a.writeState = .stateWriteUnreliable) :
    a.writable = false := by
  rw [IceConnection.writable, h]
  rfl

lemma better_not_ready {p q : ConnPtr} (hp : (ch.memory p).writeState = .stateWriteUnreliable)
    (hq : ¬ Ready ch q) :
    ch.better p q = outranks (ch.memory p) (ch.memory q) ∧
      ch.better q p = outranks (ch.memory q) (ch.memory p) :=
  ⟨better_eq_outranks (writable_eq_false_of_unreliable hp) (writable_eq_false_of_not_ready hq),
    better_eq_outranks (writable_eq_false_of_not_ready hq) (writable_eq_false_of_unreliable hp)⟩

/-- A connection that can carry data comes first if and only if it is not hidden. -/
theorem readyFirst_iff (ch : IceTransportChannel) : ReadyFirst ch ↔ Unhidden ch := by
  have hfirst := head?_stableSort_satisfies_iff (l := ch.iceController.connections)
    ch.strictWeak_better (P := Ready ch)
  have hsorted : ReadyFirst ch ↔ ((∃ p ∈ ch.iceController.connections, Ready ch p) →
      ∃ t, (stableSort ch.better ch.iceController.connections).head? = some t ∧ Ready ch t) := by
    unfold ReadyFirst
    rw [sortAndSwitchConnection_snd]
    rfl
  rw [hsorted, hfirst]
  constructor
  · intro h
    by_cases hsome : ∃ p ∈ ch.iceController.connections, Ready ch p
    · obtain ⟨l₁, u, l₂, hl, hu, hbefore, hafter⟩ := h hsome
      right
      rcases ready_iff.mp hu with hw | hunreliable
      · exact .inl ⟨u, by simp [hl], hw⟩
      · refine .inr ⟨l₁, u, l₂, hl, hunreliable, fun c hc hnot => ?_, fun c hc hnot => ?_⟩
        · exact (better_not_ready hunreliable hnot).1 ▸ hbefore c hc hnot
        · exact (better_not_ready hunreliable hnot).2 ▸ hafter c hc hnot
    · exact .inl fun p hp hready => hsome ⟨p, hp, hready⟩
  · rintro (hnone | ⟨p, hp, hw⟩ | ⟨l₁, u, l₂, hl, hu, hbefore, hafter⟩) hsome
    · obtain ⟨p, hp, hready⟩ := hsome
      exact absurd hready (hnone p hp)
    · rw [← hfirst]
      obtain ⟨t, ht⟩ := exists_head?_stableSort ch.better hp
      have htop := (head?_stableSort_eq_some_iff ch.strictWeak_better).mp ht
      exact ⟨t, ht, ready_iff.mpr (.inl (writable_of_isFirst htop hp hw))⟩
    · refine ⟨l₁, u, l₂, hl, ready_iff.mpr (.inr hu), fun c hc hnot => ?_, fun c hc hnot => ?_⟩
      · exact (better_not_ready hu hnot).1 ▸ hbefore c hc hnot
      · exact (better_not_ready hu hnot).2 ▸ hafter c hc hnot

/-- An unreliable connection from which nothing comes, next to one that was never writable. -/
def hiddenChannel : IceTransportChannel :=
  let remote : Candidate := ⟨⟨[], 0⟩, [], [], 0⟩
  { memory := fun p =>
      if p = 1 then
        { port := 0, localPriority := 0, remoteCandidate := remote
          writeState := .stateWriteUnreliable }
      else { port := 0, localPriority := 0, remoteCandidate := remote, receiving := true }
    live := fun p => p = 1 || p = 2
    iceController := { connections := [1, 2] } }

theorem hiddenChannel_not_readyFirst : ¬ ReadyFirst hiddenChannel := by
  intro h
  obtain ⟨t, ht, hready⟩ := h ⟨1, by decide, by decide⟩
  have htop :
      (hiddenChannel.sortAndSwitchConnection.2).iceController.connections.head? = some 2 := by
    decide
  obtain rfl := Option.some.inj (htop.symm.trans ht)
  revert hready
  decide

end XrtcServer.Ice
