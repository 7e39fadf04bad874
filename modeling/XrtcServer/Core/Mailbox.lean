import Mathlib.Data.List.Basic

/-!
# A queue announced by tokens

A producer puts an item into the queue and then writes a token into a pipe; the consumer reads a
token and then takes an item. `Balanced n` counts the items against the tokens while `n` producers
have put an item and not written its token yet.
-/

namespace XrtcServer.Core

structure Mailbox (α : Type*) where
  queue : List α := []
  tokens : Nat := 0
  /-- The consumer has read a token and not taken an item yet. -/
  reading : Bool := false
  /-- A ghost: the items taken so far. -/
  taken : List α := []
  deriving DecidableEq, Repr

namespace Mailbox

variable {α : Type*} {m m' : Mailbox α} {n : Nat}

def push (m : Mailbox α) (a : α) : Mailbox α := { m with queue := m.queue ++ [a] }

def notify (m : Mailbox α) (written : Bool) : Mailbox α :=
  { m with tokens := m.tokens + written.toNat }

def read (m : Mailbox α) : Option (Mailbox α) :=
  if m.reading = false ∧ 0 < m.tokens then
    some { m with tokens := m.tokens - 1, reading := true }
  else none

def pop (m : Mailbox α) : Option α × Mailbox α :=
  match m.queue with
  | [] => (none, { m with reading := false })
  | a :: queue => (some a, { m with queue, reading := false, taken := m.taken ++ [a] })

/-- All items that were put. -/
def history (m : Mailbox α) : List α := m.taken ++ m.queue

def Balanced (n : Nat) (m : Mailbox α) : Prop :=
  m.queue.length = m.tokens + n + m.reading.toNat

@[simp] lemma history_push (m : Mailbox α) (a : α) : (m.push a).history = m.history ++ [a] := by
  rw [history, history, push, List.append_assoc]

@[simp] lemma history_notify (m : Mailbox α) (written : Bool) :
    (m.notify written).history = m.history := rfl

lemma read_eq_some (h : m.read = some m') :
    m.reading = false ∧ 0 < m.tokens ∧
      m' = { m with tokens := m.tokens - 1, reading := true } := by
  unfold read at h
  split at h
  · rename_i hcan
    exact ⟨hcan.1, hcan.2, (Option.some.inj h).symm⟩
  · cases h

lemma history_read (h : m.read = some m') : m'.history = m.history := by
  obtain ⟨-, -, rfl⟩ := read_eq_some h
  rfl

lemma history_pop (m : Mailbox α) : m.pop.2.history = m.history := by
  rw [pop]
  cases hq : m.queue with
  | nil =>
    rw [history, history, hq]
  | cons a queue =>
    rw [history, history, hq, List.append_assoc]
    rfl

lemma balanced_init : ({} : Mailbox α).Balanced 0 := rfl

lemma Balanced.push (h : m.Balanced n) (a : α) : (m.push a).Balanced (n + 1) := by
  have hcount : m.queue.length = m.tokens + n + m.reading.toNat := h
  change (m.queue ++ [a]).length = m.tokens + (n + 1) + m.reading.toNat
  rw [List.length_append, List.length_singleton]
  omega

lemma Balanced.notify (h : m.Balanced (n + 1)) : (m.notify true).Balanced n := by
  have hcount : m.queue.length = m.tokens + (n + 1) + m.reading.toNat := h
  change m.queue.length = m.tokens + 1 + n + m.reading.toNat
  omega

lemma Balanced.read (h : m.Balanced n) (hread : m.read = some m') : m'.Balanced n := by
  obtain ⟨hidle, hpos, rfl⟩ := read_eq_some hread
  have hcount : m.queue.length = m.tokens + n + m.reading.toNat := h
  rw [hidle, Bool.toNat_false] at hcount
  change m.queue.length = m.tokens - 1 + n + 1
  omega

/-- A consumer that has read a token finds an item. -/
lemma Balanced.queue_ne_nil (h : m.Balanced n) (hreading : m.reading = true) :
    m.queue ≠ [] := by
  intro hnil
  have hcount : m.queue.length = m.tokens + n + m.reading.toNat := h
  rw [hreading, hnil, List.length_nil, Bool.toNat_true] at hcount
  omega

lemma Balanced.exists_pop (h : m.Balanced n) (hreading : m.reading = true) :
    ∃ a, m.pop.1 = some a ∧ m.pop.2.Balanced n ∧ m.pop.2.taken = m.taken ++ [a] := by
  have hcount : m.queue.length = m.tokens + n + m.reading.toNat := h
  rw [hreading, Bool.toNat_true] at hcount
  rw [pop]
  cases hq : m.queue with
  | nil => exact absurd hq (h.queue_ne_nil hreading)
  | cons a queue =>
    rw [hq, List.length_cons] at hcount
    refine ⟨a, rfl, ?_, rfl⟩
    change queue.length = m.tokens + n + 0
    omega

lemma Balanced.queue_eq_nil (h : m.Balanced 0) (htokens : m.tokens = 0)
    (hreading : m.reading = false) : m.queue = [] := by
  have hcount : m.queue.length = m.tokens + 0 + m.reading.toNat := h
  rw [htokens, hreading] at hcount
  exact List.eq_nil_of_length_eq_zero hcount

end Mailbox

end XrtcServer.Core
