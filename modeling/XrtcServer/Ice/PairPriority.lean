import XrtcServer.Ice.Connection

/-!
# Pair priorities

The priority of a candidate pair is `2 ^ 32 * min g d + 2 * max g d + (g > d ? 1 : 0)`.
`IceConnection::priority` doubles the maximum before it is widened, so one summand is computed
modulo `2 ^ 32`.
-/

namespace XrtcServer.Ice
open XrtcServer.Base XrtcServer.Core

namespace IceConnection

variable {a b : IceConnection}

/-- The priority of the controlling side and that of the controlled side. -/
def controlling (c : IceConnection) : Nat := c.localPriority.toNat

def controlled (c : IceConnection) : Nat := c.remoteCandidate.priority.toNat

/-- The formula of RFC 5245, over the integers. -/
def pairPriority (c : IceConnection) : Nat :=
  2 ^ 32 * min c.controlling c.controlled + 2 * max c.controlling c.controlled +
    (if c.controlling > c.controlled then 1 else 0)

/-- Both candidate priorities have 31 bits. -/
def Narrow (c : IceConnection) : Prop := c.controlling < 2 ^ 31 ∧ c.controlled < 2 ^ 31

instance (c : IceConnection) : Decidable c.Narrow := by
  unfold Narrow; infer_instance

/-- What the doubling of the maximum loses. -/
def lostCarry (c : IceConnection) : Nat := if c.Narrow then 0 else 2 ^ 32

lemma toNat_min (x y : UInt32) : (min x y).toNat = min x.toNat y.toNat := by
  rw [UInt32.min_def, Nat.min_def]
  simp only [UInt32.le_iff_toNat_le]
  split <;> rfl

lemma toNat_max (x y : UInt32) : (max x y).toNat = max x.toNat y.toNat := by
  rw [UInt32.max_def, Nat.max_def]
  simp only [UInt32.le_iff_toNat_le]
  split <;> rfl

lemma toNat_shifted (x : UInt32) : (x.toUInt64 <<< 32).toNat = 2 ^ 32 * x.toNat := by
  have hx := x.toNat_lt
  rw [UInt64.toNat_shiftLeft, UInt32.toNat_toUInt64, Nat.shiftLeft_eq,
    Nat.mod_eq_of_lt (by simp; omega), Nat.mul_comm]
  rfl

lemma toNat_doubled (x : UInt32) : (2 * x).toUInt64.toNat = 2 * x.toNat % 2 ^ 32 := by
  rw [UInt32.toNat_toUInt64, UInt32.toNat_mul]
  rfl

/-- No carry leaves the 64 bits. -/
lemma priority_toNat (c : IceConnection) : c.priority.toNat =
    2 ^ 32 * min c.controlling c.controlled + 2 * max c.controlling c.controlled % 2 ^ 32 +
      (if c.controlling > c.controlled then 1 else 0) := by
  have hg : c.controlling < 2 ^ 32 := c.localPriority.toNat_lt
  have hd : c.controlled < 2 ^ 32 := c.remoteCandidate.priority.toNat_lt
  have hbit : (if c.localPriority > c.remoteCandidate.priority then (1 : UInt64) else 0).toNat =
      if c.controlling > c.controlled then 1 else 0 := by
    simp only [gt_iff_lt, UInt32.lt_iff_toNat_lt, controlling, controlled]
    split <;> rfl
  unfold priority
  rw [UInt64.toNat_add, UInt64.toNat_add, toNat_shifted, toNat_doubled, toNat_min, toNat_max, hbit]
  change ((2 ^ 32 * min c.controlling c.controlled +
    2 * max c.controlling c.controlled % 2 ^ 32) % 2 ^ 64 + _) % 2 ^ 64 = _
  split <;> omega

/-- The code falls short of the formula by the carry. -/
lemma priority_add_lostCarry (c : IceConnection) :
    c.priority.toNat + c.lostCarry = c.pairPriority := by
  have hg : c.controlling < 2 ^ 32 := c.localPriority.toNat_lt
  have hd : c.controlled < 2 ^ 32 := c.remoteCandidate.priority.toNat_lt
  rw [priority_toNat, lostCarry, pairPriority]
  by_cases hc : c.Narrow
  · rw [if_pos hc]
    obtain ⟨hg, hd⟩ := hc
    omega
  · rw [if_neg hc]
    have hmax : 2 ^ 31 ≤ max c.controlling c.controlled := by
      by_contra hlt
      exact hc ⟨by omega, by omega⟩
    omega

lemma priority_eq_iff (c : IceConnection) : c.priority.toNat = c.pairPriority ↔ c.Narrow := by
  have hlost := priority_add_lostCarry c
  unfold lostCarry at hlost
  split at hlost
  · exact iff_of_true hlost ‹_›
  · exact iff_of_false (by omega) ‹_›

/-- Where no earlier test tells the connections apart, the priorities do. -/
lemma compareConnections_of_tied (hw : a.writable = b.writable)
    (hr : a.receiving = b.receiving) : compareConnections a b =
      if a.priority > b.priority then 1 else if a.priority < b.priority then -1 else 0 := by
  unfold compareConnections
  simp [bne, writeState_toNat_eq_zero, hw, hr]

/-- Connections that nothing but their priority tells apart are in the order of the formula. -/
def ComparesByPair (a b : IceConnection) : Prop :=
  a.writable = b.writable → a.receiving = b.receiving →
    (0 < compareConnections a b ↔ b.pairPriority < a.pairPriority) ∧
      (compareConnections a b < 0 ↔ a.pairPriority < b.pairPriority)

lemma comparesByPair_of_order
    (hgt : b.priority < a.priority ↔ b.pairPriority < a.pairPriority)
    (hlt : a.priority < b.priority ↔ a.pairPriority < b.pairPriority) : ComparesByPair a b := by
  intro hw hr
  rw [compareConnections_of_tied hw hr, ← hgt, ← hlt]
  by_cases hab : b.priority < a.priority
  · have hba : ¬ a.priority < b.priority := UInt64.lt_asymm hab
    simp [hab, hba]
  · by_cases hba : a.priority < b.priority
    · simp [hab, hba]
    · simp [hab, hba]

/-- The value of both priorities is that of the formula, and so is their order. -/
structure FollowsFormula (a b : IceConnection) : Prop where
  left : a.priority.toNat = a.pairPriority
  right : b.priority.toNat = b.pairPriority
  order : ComparesByPair a b

theorem followsFormula_iff (a b : IceConnection) :
    FollowsFormula a b ↔ a.Narrow ∧ b.Narrow := by
  constructor
  · intro h
    exact ⟨(priority_eq_iff a).mp h.left, (priority_eq_iff b).mp h.right⟩
  · rintro ⟨ha, hb⟩
    have hva := (priority_eq_iff a).mpr ha
    have hvb := (priority_eq_iff b).mpr hb
    refine ⟨hva, hvb, comparesByPair_of_order ?_ ?_⟩
    · rw [UInt64.lt_iff_toNat_lt, hva, hvb]
    · rw [UInt64.lt_iff_toNat_lt, hva, hvb]

/-- A pair of the host candidate of the server and a peer with the given priority. -/
def hostPair (remote : UInt32) : IceConnection :=
  { port := 0, localPriority := 2113937151, remoteCandidate := ⟨⟨[], 0⟩, [], [], remote⟩ }

/-- The peer with the greater priority loses against the other one. -/
theorem hostPair_not_followsFormula :
    ¬ FollowsFormula (hostPair 2147483648) (hostPair 2147483647) := by
  intro h
  have horder := (h.order rfl rfl).1
  revert horder
  decide

end IceConnection

end XrtcServer.Ice
