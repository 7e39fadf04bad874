import Mathlib
import XrtcServer.Core.Relay

/-!
# Runs of a relay

Along every run each node takes the messages of a route in the order in which they were sent, the
steps between two sends are bounded, and when no thread can go on all messages have arrived.
-/

namespace XrtcServer.Core

/-- No thread has anything to do, and all mailboxes are empty. -/
def Relay.Quiet {ν α : Type*} (s : Relay ν α) : Prop :=
  ∀ n, s.hand n = .idle ∧ (s.box n).reading = false ∧ (s.box n).tokens = 0 ∧ (s.box n).queue = []

/-- The event sends no new message. -/
def RelayEvent.Inner {ν α β : Type*} : RelayEvent ν α β → Prop
  | .inject .. => False
  | _ => True

namespace Network

variable {ν α β J : Type*} [DecidableEq ν] (N : Network ν α β J)

def Step (s : Relay ν α) (e : RelayEvent ν α β) (t : Relay ν α) : Prop := N.step s e = some t

/-- No event of `C` is possible. -/
def Rests (C : RelayEvent ν α β → Prop) (s : Relay ν α) : Prop := ∀ e t, C e → ¬ N.Step s e t

variable {N} [Fintype ν] {s t : Relay ν α} {n : ν} {r : List ν} {es : List (RelayEvent ν α β)}

lemma inv_of_leads (hrun : Leads N.Step {} es s) (hes : ∀ e ∈ es, N.Lawful e) : N.Inv s := by
  refine hrun.invariant (J := fun es s => (∀ e ∈ es, N.Lawful e) → N.Inv s)
    (fun _ => inv_init N) ?_ hes
  intro es t e u ih hs hes
  rw [List.forall_mem_append] at hes
  exact (ih hes.1).step (hes.2 e (List.mem_singleton_self e)) hs

omit [Fintype ν] in
/-- The messages that the threads sent change with a send only. -/
lemma injected_of_inner {e : RelayEvent ν α β} (hinner : e.Inner) (hs : N.step s e = some t) :
    t.injected = s.injected := by
  cases e with
  | inject => exact hinner.elim
  | notify n written =>
    rw [Network.step] at hs
    split at hs
    · cases hs
      rfl
    · cases hs
  | read n =>
    rw [Network.step] at hs
    split at hs
    · obtain ⟨x, -, rfl⟩ := Option.map_eq_some_iff.mp hs
      rfl
    · cases hs
  | pop n b =>
    rw [Network.step] at hs
    split at hs
    · cases hs
      rfl
    · cases hs
  | forward n =>
    rw [Network.step] at hs
    split at hs
    · cases hs
      rfl
    · cases hs

section inv
variable (h : N.Inv s)
include h

/-- What a node has taken of a route is the first part of what was sent on it. -/
lemma Inv.taken_prefix (hr : r.Nodup) (hn : n ∈ r) :
    N.onRoute r (s.box n).taken <+: N.onRoute r s.injected := by
  have htaken : ∀ m, N.onRoute r (s.box m).taken <+: N.onRoute r (s.box m).history := by
    intro m
    rw [Mailbox.history, onRoute_append]
    exact List.prefix_append _ _
  refine (htaken n).trans (forall_mem_of_after hr (P := fun m =>
    N.onRoute r (s.box m).history <+: N.onRoute r s.injected) (fun m hm => ?_)
      (fun m k hmk hm => ?_) n hn)
  · rw [h.start r m hm]
  · refine List.IsPrefix.trans ?_ ((htaken m).trans hm)
    rw [h.link r m k hmk]
    exact List.prefix_append _ _

/-- At rest every node of a route has taken all that was sent on it. -/
lemma Inv.taken_of_quiet (hquiet : s.Quiet) (hr : r.Nodup) (hn : n ∈ r) :
    N.onRoute r (s.box n).taken = N.onRoute r s.injected := by
  have htaken : ∀ m, N.onRoute r (s.box m).history = N.onRoute r (s.box m).taken := by
    intro m
    rw [Mailbox.history, (hquiet m).2.2.2, List.append_nil]
  refine forall_mem_of_after hr (P := fun m =>
    N.onRoute r (s.box m).taken = N.onRoute r s.injected) (fun m hm => ?_)
      (fun m k hmk hm => ?_) n hn
  · rw [h.start r m hm, htaken]
  · have hlink := h.link r m k hmk
    rw [(hquiet m).1, held_idle, List.append_nil, htaken, hm] at hlink
    exact hlink.symm

end inv

/-! ## Coming to rest -/

section cost
omit [Fintype ν]

variable (N) in
/-- The steps that the message has left, from the mailbox of `n` on. -/
def itemWork (n : ν) (a : α) : Nat := 4 * remaining (N.route (N.job a)) n

variable (N) in
def boxWork (n : ν) (x : Mailbox α) : Nat :=
  (x.queue.map (N.itemWork n)).sum + 2 * x.tokens + x.reading.toNat

variable (N) in
def handWork : Hand ν α → Nat
  | .idle => 0
  | .holding a next => N.itemWork next a + 4
  | .pushed _ => 3

@[simp] lemma handWork_idle : N.handWork .idle = 0 := rfl

@[simp] lemma handWork_pushed (next : ν) : N.handWork (.pushed next) = 3 := rfl

@[simp] lemma handWork_holding (a : α) (next : ν) :
    N.handWork (.holding a next) = N.itemWork next a + 4 := rfl

lemma boxWork_push (n : ν) (x : Mailbox α) (a : α) :
    N.boxWork n (x.push a) = N.boxWork n x + N.itemWork n a := by
  simp only [boxWork, Mailbox.push, List.map_append, List.sum_append, List.map_singleton,
    List.sum_singleton]
  omega

lemma boxWork_notify (n : ν) (x : Mailbox α) :
    N.boxWork n (x.notify true) = N.boxWork n x + 2 := by
  simp only [boxWork, Mailbox.notify, Bool.toNat_true]
  omega

lemma boxWork_read {x y : Mailbox α} (hread : x.read = some y) :
    N.boxWork n y + 1 = N.boxWork n x := by
  obtain ⟨hreading, hpos, rfl⟩ := Mailbox.read_eq_some hread
  simp only [boxWork, hreading, Bool.toNat_true, Bool.toNat_false]
  omega

/-- A message costs more before it is taken than what is made of it. -/
lemma handWork_ofOption {a : α} {b : β} (hb : N.Lawful (.pop n b)) (ha : N.Sent a n) :
    N.handWork (.ofOption (N.handle n b a)) ≤ N.itemWork n a := by
  obtain ⟨hnext, hgood⟩ := hb a ha
  cases hhandle : N.handle n b a with
  | none => exact Nat.zero_le _
  | some p =>
    rw [hhandle] at hnext
    have hremaining := remaining_after (N.nodup _) hnext.symm
    change N.itemWork p.2 p.1 + 4 ≤ _
    rw [itemWork, itemWork, (hgood p hhandle).1]
    omega

end cost

variable (N) in
/-- The steps that all threads have left if none sends a message. -/
def work (s : Relay ν α) : Nat :=
  (∑ n, N.boxWork n (s.box n)) + ∑ n, N.handWork (s.hand n)

variable (N) in
lemma sum_boxWork_update (box : ν → Mailbox α) (n : ν) (x : Mailbox α) :
    (∑ k, N.boxWork k (Function.update box n x k)) + N.boxWork n (box n) =
      (∑ k, N.boxWork k (box k)) + N.boxWork n x :=
  sum_update N.boxWork box n x

variable (N) in
lemma sum_handWork_update (hand : ν → Hand ν α) (n : ν) (h : Hand ν α) :
    (∑ k, N.handWork (Function.update hand n h k)) + N.handWork (hand n) =
      (∑ k, N.handWork (hand k)) + N.handWork h :=
  sum_update (fun _ => N.handWork) hand n h

lemma Inv.pop_lt (h : N.Inv s) {b : β} (hb : N.Lawful (.pop n b))
    (hreading : (s.box n).reading = true) : N.boxWork n (s.box n).pop.2 +
      N.handWork (.ofOption ((s.box n).pop.1.bind (N.handle n b))) < N.boxWork n (s.box n) := by
  have hsent := h.sent n
  rw [Mailbox.history] at hsent
  rw [Mailbox.pop]
  cases hq : (s.box n).queue with
  | nil => simp [boxWork, handWork, Hand.ofOption, hq, hreading]
  | cons a queue =>
    rw [hq] at hsent
    have hcost := handWork_ofOption hb (hsent a (List.mem_append_right _ List.mem_cons_self))
    simp only [boxWork, hq, hreading, Option.bind_some, List.map_cons, List.sum_cons,
      Bool.toNat_true, Bool.toNat_false]
    omega

/-- Every step but a send leaves less to do. -/
lemma Inv.work_lt (h : N.Inv s) {e : RelayEvent ν α β} (hinner : e.Inner) (he : N.Lawful e)
    (hs : N.Step s e t) : N.work t < N.work s := by
  rw [Step] at hs
  cases e with
  | inject n a next => exact hinner.elim
  | notify n written =>
    obtain rfl : written = true := he
    rw [Network.step] at hs
    split at hs
    · rename_i next hhand
      cases hs
      have hbox := sum_boxWork_update N s.box next ((s.box next).notify true)
      have hhands := sum_handWork_update N s.hand n .idle
      rw [hhand, handWork_pushed, handWork_idle] at hhands
      rw [boxWork_notify] at hbox
      simp only [work]
      omega
    · cases hs
  | read n =>
    rw [Network.step] at hs
    split at hs
    · obtain ⟨x, hread, rfl⟩ := Option.map_eq_some_iff.mp hs
      have hbox := sum_boxWork_update N s.box n x
      have hless : N.boxWork n x + 1 = N.boxWork n (s.box n) := boxWork_read hread
      simp only [work]
      omega
    · cases hs
  | pop n b =>
    rw [Network.step] at hs
    split at hs
    · rename_i hidle hreading
      cases hs
      have hbox := sum_boxWork_update N s.box n (s.box n).pop.2
      have hhands := sum_handWork_update N s.hand n
        (.ofOption ((s.box n).pop.1.bind (N.handle n b)))
      have hless := h.pop_lt he hreading
      rw [hidle, handWork_idle] at hhands
      simp only [work]
      omega
    · cases hs
  | forward n =>
    rw [Network.step] at hs
    split at hs
    · rename_i a next hhand
      cases hs
      have hbox := sum_boxWork_update N s.box next ((s.box next).push a)
      have hhands := sum_handWork_update N s.hand n (.pushed next)
      rw [hhand, handWork_holding, handWork_pushed] at hhands
      rw [boxWork_push] at hbox
      simp only [work, Relay.put]
      omega
    · cases hs

/-- Between two sends the number of steps is bounded. -/
lemma Inv.length_add_work_le (h : N.Inv s) (hrun : Leads N.Step s es t)
    (hes : ∀ e ∈ es, e.Inner ∧ N.Lawful e) : es.length + N.work t ≤ N.work s := by
  have hboth := hrun.invariant (J := fun es t => (∀ e ∈ es, e.Inner ∧ N.Lawful e) →
    N.Inv t ∧ es.length + N.work t ≤ N.work s) (fun _ => ⟨h, by simp⟩) (fun es t e u ih hs hes => ?_)
  · exact (hboth hes).2
  · rw [List.forall_mem_append] at hes
    obtain ⟨hinv, hle⟩ := ih hes.1
    obtain ⟨hinner, hlawful⟩ := hes.2 e (List.mem_singleton_self e)
    have hlt := hinv.work_lt hinner hlawful hs
    refine ⟨hinv.step hlawful hs, ?_⟩
    rw [List.length_append, List.length_singleton]
    omega

/-- Where no thread can go on, nothing is left to do. -/
lemma Inv.quiet (h : N.Inv s) {C : RelayEvent ν α β → Prop} (hC : ∀ n, C (.notify n true) ∧
    C (.read n) ∧ (∃ b, C (.pop n b)) ∧ C (.forward n)) (hrests : N.Rests C s) : s.Quiet := by
  have hhand : ∀ n, s.hand n = .idle := by
    intro n
    cases hn : s.hand n with
    | idle => rfl
    | holding a next =>
      exact absurd (show N.Step s (.forward n) _ by rw [Step, Network.step, hn])
        (hrests (.forward n) _ (hC n).2.2.2)
    | pushed next =>
      exact absurd (show N.Step s (.notify n true) _ by rw [Step, Network.step, hn])
        (hrests (.notify n true) _ (hC n).1)
  have hreading : ∀ n, (s.box n).reading = false := by
    intro n
    by_contra hn
    rw [Bool.not_eq_false] at hn
    obtain ⟨b, hb⟩ := (hC n).2.2.1
    exact hrests (.pop n b) _ hb (by rw [Step, Network.step, hhand, hn])
  have htokens : ∀ n, (s.box n).tokens = 0 := by
    intro n
    refine Nat.eq_zero_of_not_pos fun hpos => ?_
    have hread : (s.box n).read =
        some { s.box n with tokens := (s.box n).tokens - 1, reading := true } :=
      if_pos ⟨hreading n, hpos⟩
    exact hrests (.read n) _ (hC n).2.1
      (by rw [Step, Network.step, hhand, hread, Option.map_some])
  intro n
  have hbalanced := h.balanced n
  simp only [hhand, Hand.halfway_idle, Finset.sum_const_zero] at hbalanced
  exact ⟨hhand n, hreading n, htokens n, hbalanced.queue_eq_nil (htokens n) (hreading n)⟩

end Network

end XrtcServer.Core
