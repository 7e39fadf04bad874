import Mathlib.Algebra.BigOperators.Group.Finset.Basic
import Mathlib.Algebra.BigOperators.Pi
import Mathlib.Data.Fintype.BigOperators
import XrtcServer.Core.Mailbox
import XrtcServer.Core.Run

/-!
# Relays of mailboxes

Every node has a mailbox and one thread. The thread takes a message out of the mailbox of its node,
makes a message of it, and puts that into the mailbox of the next node on the route of the message.
The threads interleave. A `Network` says what the threads do: `job` is the part of a message that
stays the same on its way, `route` are the nodes whose mailboxes it goes through, and `fits` is what
the messages in a mailbox look like.
-/

namespace XrtcServer.Core

/-- What a thread has to do before it reads the next token: nothing, put a message into a mailbox, or
write the token for the message that it put there. -/
inductive Hand (ν α : Type*)
  | idle
  | holding (a : α) (next : ν)
  | pushed (next : ν)
  deriving DecidableEq, Repr

structure Relay (ν α : Type*) where
  box : ν → Mailbox α := fun _ => {}
  hand : ν → Hand ν α := fun _ => .idle
  /-- A ghost: the messages that the threads sent on their own account. -/
  injected : List α := []

structure Network (ν α β J : Type*) where
  /-- What the thread of a node makes of a message, and the node that this is for. -/
  handle : ν → β → α → Option (α × ν)
  job : α → J
  route : J → List ν
  fits : ν → α → Prop
  nodup : ∀ j, (route j).Nodup

/-- The thread of `n` has put `a` into the mailbox of `next`. -/
def Relay.put {ν α : Type*} [DecidableEq ν] (s : Relay ν α) (n : ν) (a : α) (next : ν) :
    Relay ν α :=
  { s with
    box := Function.update s.box next ((s.box next).push a)
    hand := Function.update s.hand n (.pushed next) }

inductive RelayEvent (ν α β : Type*)
  | inject (n : ν) (a : α) (next : ν)
  | notify (n : ν) (written : Bool)
  | read (n : ν)
  | pop (n : ν) (b : β)
  | forward (n : ν)
  deriving DecidableEq, Repr

section route
variable {ν : Type*} [DecidableEq ν] {r : List ν} {m n : ν}

/-- The node that comes after `n`. -/
def after : List ν → ν → Option ν
  | a :: b :: l, n => if n = a then some b else after (b :: l) n
  | _, _ => none

/-- How many nodes are left, `n` included. -/
def remaining (r : List ν) (n : ν) : Nat := (r.dropWhile (· ≠ n)).length

lemma after_cons_of_mem {a : ν} {l : List ν} (ha : a ∉ l) (hm : m ∈ l) :
    after (a :: l) m = after l m := by
  cases l with
  | nil => cases hm
  | cons b l =>
    have hne : m ≠ a := fun h => ha (h ▸ hm)
    rw [after, if_neg hne]

lemma mem_of_after (h : after r m = some n) : m ∈ r ∧ n ∈ r.tail := by
  induction r with
  | nil => cases h
  | cons a l ih =>
    cases l with
    | nil => cases h
    | cons b l =>
      rw [after] at h
      split at h
      · rename_i hma
        cases h
        exact ⟨hma ▸ List.mem_cons_self, List.mem_cons_self⟩
      · obtain ⟨hm, hn⟩ := ih h
        exact ⟨List.mem_cons_of_mem _ hm, List.mem_cons_of_mem _ hn⟩

lemma after_ne_head (hr : r.Nodup) (h : after r m = some n) : r.head? ≠ some n := by
  cases r with
  | nil => cases h
  | cons a l =>
    intro hhead
    cases hhead
    exact (List.nodup_cons.mp hr).1 (mem_of_after h).2

lemma after_injective (hr : r.Nodup) {k : ν} (hm : after r m = some n) (hk : after r k = some n) :
    m = k := by
  induction r with
  | nil => cases hm
  | cons a l ih =>
    cases l with
    | nil => cases hm
    | cons b l =>
      obtain ⟨-, hnodup⟩ := List.nodup_cons.mp hr
      have hb : ∀ x, after (b :: l) x = some b → False := fun x hx => after_ne_head hnodup hx rfl
      rw [after] at hm hk
      split at hm <;> split at hk
      · rename_i hma hka
        rw [hma, hka]
      · cases hm
        exact (hb k hk).elim
      · cases hk
        exact (hb m hm).elim
      · exact ih hnodup hm hk

/-- What holds of the first node and passes to the next one holds of all nodes. -/
lemma forall_mem_of_after (hr : r.Nodup) {P : ν → Prop} (hhead : ∀ n, r.head? = some n → P n)
    (hnext : ∀ m n, after r m = some n → P m → P n) : ∀ n ∈ r, P n := by
  induction r with
  | nil => nofun
  | cons a l ih =>
    obtain ⟨ha, hnodup⟩ := List.nodup_cons.mp hr
    have hPa := hhead a rfl
    refine List.forall_mem_cons.mpr ⟨hPa, ih hnodup (fun n hn => ?_) fun m n h => ?_⟩
    · obtain ⟨b, rfl⟩ : ∃ l', l = n :: l' := by
        cases l with
        | nil => cases hn
        | cons b l => exact ⟨l, by cases hn; rfl⟩
      exact hnext a n (if_pos rfl) hPa
    · exact hnext m n ((after_cons_of_mem ha (mem_of_after h).1).trans h)

lemma remaining_after (hr : r.Nodup) (h : after r m = some n) :
    remaining r n + 1 = remaining r m := by
  induction r with
  | nil => cases h
  | cons a l ih =>
    obtain ⟨ha, hnodup⟩ := List.nodup_cons.mp hr
    have hn := (mem_of_after h).2
    have hna : a ≠ n := fun heq => ha (heq ▸ hn)
    have hdrop : remaining (a :: l) n = remaining l n := by
      rw [remaining, remaining, List.dropWhile_cons_of_pos (by simpa using hna)]
    cases l with
    | nil => cases h
    | cons b l =>
      rw [hdrop]
      rw [after] at h
      split at h
      · rename_i hma
        cases h
        rw [hma, remaining, remaining, List.dropWhile_cons_of_neg (by simp),
          List.dropWhile_cons_of_neg (by simp)]
        rfl
      · rename_i hma
        rw [ih hnodup h, remaining, remaining,
          List.dropWhile_cons_of_pos (a := a) (by simpa using Ne.symm hma)]

end route

/-- What a change at one place changes in a sum. -/
lemma sum_update {ν X : Type*} [Fintype ν] [DecidableEq ν] (f : ν → X → Nat) (h : ν → X) (n : ν)
    (x : X) : (∑ k, f k (Function.update h n x k)) + f n (h n) = (∑ k, f k (h k)) + f n x := by
  rw [← Finset.add_sum_erase _ _ (Finset.mem_univ n), ← Finset.add_sum_erase _ _ (Finset.mem_univ n),
    Function.update_self]
  have hrest : ∑ k ∈ Finset.univ.erase n, f k (Function.update h n x k) =
      ∑ k ∈ Finset.univ.erase n, f k (h k) := by
    refine Finset.sum_congr rfl fun k hk => ?_
    rw [Function.update_of_ne (Finset.ne_of_mem_erase hk)]
  rw [hrest]
  omega

namespace Hand

variable {ν α : Type*}

/-- What is left of a message that was taken: nothing, or a message for the next node. -/
def ofOption : Option (α × ν) → Hand ν α
  | none => .idle
  | some (a, next) => .holding a next

/-- How many messages in the mailbox of `n` have no token yet because of the thread. -/
def halfway [DecidableEq ν] (n : ν) : Hand ν α → Nat
  | .pushed next => if next = n then 1 else 0
  | _ => 0

@[simp] lemma halfway_idle [DecidableEq ν] (n : ν) : (.idle : Hand ν α).halfway n = 0 := rfl

@[simp] lemma halfway_pushed [DecidableEq ν] (n next : ν) :
    (.pushed next : Hand ν α).halfway n = if next = n then 1 else 0 := rfl

/-- How a change of the hand at `n` changes the counts. -/
lemma sum_halfway_update [DecidableEq ν] [Fintype ν] {n : ν} (hand : ν → Hand ν α) (h : Hand ν α)
    (m : ν) : (∑ k, (Function.update hand n h k).halfway m) + (hand n).halfway m =
      (∑ k, (hand k).halfway m) + h.halfway m :=
  sum_update (fun _ => Hand.halfway m) hand n h

end Hand

namespace Network

variable {ν α β J : Type*} [DecidableEq ν] (N : Network ν α β J)

/-- The jobs of the messages that take the route `r`. -/
def onRoute (r : List ν) (l : List α) : List J := (l.map N.job).filter (N.route · = r)

def held (r : List ν) : Hand ν α → List J
  | .holding a _ => N.onRoute r [a]
  | _ => []

/-- One step of one thread; `none` where the thread is elsewhere. -/
def step (s : Relay ν α) : RelayEvent ν α β → Option (Relay ν α)
  | .inject n a next =>
    match s.hand n, (s.box n).reading with
    | .idle, false => some { s.put n a next with injected := s.injected ++ [a] }
    | _, _ => none
  | .notify n written =>
    match s.hand n with
    | .pushed next => some { s with
        box := Function.update s.box next ((s.box next).notify written)
        hand := Function.update s.hand n .idle }
    | _ => none
  | .read n =>
    match s.hand n with
    | .idle => (s.box n).read.map fun m => { s with box := Function.update s.box n m }
    | _ => none
  | .pop n b =>
    match s.hand n, (s.box n).reading with
    | .idle, true => some { s with
        box := Function.update s.box n (s.box n).pop.2
        hand := Function.update s.hand n (.ofOption ((s.box n).pop.1.bind (N.handle n b))) }
    | _, _ => none
  | .forward n =>
    match s.hand n with
    | .holding a next => some (s.put n a next)
    | _ => none

/-- The message goes to `next` as it should. -/
structure Sent (a : α) (next : ν) : Prop where
  mem : next ∈ N.route (N.job a)
  fits : N.fits next a

/-- Writes to the pipes succeed, and messages go where their routes lead. -/
def Lawful : RelayEvent ν α β → Prop
  | .inject _ a next => (N.route (N.job a)).head? = some next ∧ N.fits next a
  | .notify _ written => written = true
  | .pop n b => ∀ a, N.Sent a n →
      (N.handle n b a).map Prod.snd = after (N.route (N.job a)) n ∧
        ∀ p ∈ N.handle n b a, N.job p.1 = N.job a ∧ N.fits p.2 p.1
  | _ => True

variable [Fintype ν]

/-- What was taken at a node is what went into the mailbox of the next one, but for what its thread
holds. -/
structure Inv (s : Relay ν α) : Prop where
  balanced : ∀ n, (s.box n).Balanced (∑ k, (s.hand k).halfway n)
  start : ∀ r n, r.head? = some n → N.onRoute r s.injected = N.onRoute r (s.box n).history
  link : ∀ r m n, after r m = some n →
    N.onRoute r (s.box m).taken = N.onRoute r (s.box n).history ++ N.held r (s.hand m)
  sent : ∀ n, ∀ a ∈ (s.box n).history, N.Sent a n
  holding : ∀ n a next, s.hand n = .holding a next →
    after (N.route (N.job a)) n = some next ∧ N.fits next a

variable {N} {s t : Relay ν α} {m n next : ν} {a : α} {b : β} {r : List ν}

omit [Fintype ν] in
lemma onRoute_append (l l' : List α) :
    N.onRoute r (l ++ l') = N.onRoute r l ++ N.onRoute r l' := by
  rw [onRoute, List.map_append, List.filter_append]
  rfl

omit [Fintype ν] in
lemma onRoute_singleton : N.onRoute r [a] = if N.route (N.job a) = r then [N.job a] else [] := by
  rw [onRoute, List.map_singleton, List.filter_singleton]
  simp

omit [Fintype ν] in
@[simp] lemma held_idle (r : List ν) : N.held r .idle = [] := rfl

lemma inv_init (N : Network ν α β J) : N.Inv {} where
  balanced n := by
    simp only [Hand.halfway, Finset.sum_const_zero]
    exact Mailbox.balanced_init
  start _ _ _ := rfl
  link _ _ _ _ := rfl
  sent _ := nofun
  holding := nofun

end Network

namespace Relay

variable {ν α β J : Type*} [DecidableEq ν] {N : Network ν α β J} {s : Relay ν α} {n next : ν} {a : α}
  (box : ν → Mailbox α) (x : Mailbox α)

/-- A change of the mailbox at `n` that keeps what was put there keeps the history of all. -/
lemma history_update (hx : x.history = (box n).history) (m : ν) :
    (Function.update box n x m).history = (box m).history := by
  by_cases hm : m = n
  · rw [hm, Function.update_self, hx]
  · rw [Function.update_of_ne hm]

lemma taken_update (hx : x.taken = (box n).taken) (m : ν) :
    (Function.update box n x m).taken = (box m).taken := by
  by_cases hm : m = n
  · rw [hm, Function.update_self, hx]
  · rw [Function.update_of_ne hm]

lemma history_put (m : ν) : ((s.put n a next).box m).history =
    (s.box m).history ++ if m = next then [a] else [] := by
  change (Function.update s.box next _ m).history = _
  by_cases hm : m = next
  · rw [hm, Function.update_self, if_pos rfl, Mailbox.history_push]
  · rw [Function.update_of_ne hm, if_neg hm, List.append_nil]

lemma taken_put (m : ν) : ((s.put n a next).box m).taken = (s.box m).taken :=
  taken_update s.box ((s.box next).push a) rfl m

end Relay

namespace Network
open Relay

variable {ν α β J : Type*} [DecidableEq ν] [Fintype ν] {N : Network ν α β J} {s t : Relay ν α}
  {m n next : ν} {a : α} {b : β} {r : List ν}

section step
variable (h : N.Inv s)
include h

lemma Inv.balanced_put (hhand : ∀ m, (s.hand n).halfway m = 0) (m : ν) :
    ((s.put n a next).box m).Balanced (∑ k, ((s.put n a next).hand k).halfway m) := by
  have hsum := Hand.sum_halfway_update (n := n) s.hand (.pushed next) m
  rw [hhand, Nat.add_zero, Hand.halfway_pushed] at hsum
  change (Function.update s.box next _ m).Balanced (∑ k, (Function.update s.hand n _ k).halfway m)
  rw [hsum, Function.update_apply]
  by_cases hm : m = next
  · subst hm
    rw [if_pos rfl, if_pos rfl]
    exact (h.balanced m).push a
  · rw [if_neg hm, if_neg (Ne.symm hm)]
    exact h.balanced m

lemma Inv.sent_put (ha : N.Sent a next) (m : ν) :
    ∀ c ∈ ((s.put n a next).box m).history, N.Sent c m := by
  rw [history_put, List.forall_mem_append]
  refine ⟨h.sent m, ?_⟩
  split_ifs with hm
  · rw [hm]
    exact List.forall_mem_singleton.mpr ha
  · nofun

lemma Inv.holding_put (k : ν) (c : α) (c' : ν) (hk : (s.put n a next).hand k = .holding c c') :
    after (N.route (N.job c)) k = some c' ∧ N.fits c' c := by
  change Function.update s.hand n _ k = _ at hk
  by_cases hkn : k = n
  · rw [hkn, Function.update_self] at hk
    cases hk
  · rw [Function.update_of_ne hkn] at hk
    exact h.holding k c c' hk

omit h [Fintype ν] in
/-- What is put at `next` does not count on the routes that do not reach `next` in this way. -/
lemma onRoute_put (hm : m = next → N.route (N.job a) ≠ r) :
    N.onRoute r ((s.put n a next).box m).history = N.onRoute r (s.box m).history := by
  rw [history_put, onRoute_append]
  split_ifs with hnext
  · rw [onRoute_singleton, if_neg (hm hnext), List.append_nil]
  · exact List.append_nil _

/-- A thread sends a message of its own. -/
lemma Inv.ofInject (hidle : s.hand n = .idle) (hhead : (N.route (N.job a)).head? = some next)
    (hfits : N.fits next a) : N.Inv { s.put n a next with injected := s.injected ++ [a] } where
  balanced := h.balanced_put fun m => by rw [hidle]; rfl
  start r m hm := by
    change N.onRoute r (s.injected ++ [a]) = N.onRoute r ((s.put n a next).box m).history
    rw [history_put, onRoute_append, onRoute_append, h.start r m hm]
    by_cases hr : N.route (N.job a) = r
    · rw [← hr, hhead] at hm
      rw [if_pos (Option.some.inj hm).symm]
    · rw [onRoute_singleton, if_neg hr]
      split_ifs
      · rw [onRoute_singleton, if_neg hr]
      · rfl
  link r m k hmk := by
    change N.onRoute r ((s.put n a next).box m).taken =
      N.onRoute r ((s.put n a next).box k).history ++
        N.held r (Function.update s.hand n (.pushed next) m)
    have hheld : N.held r (Function.update s.hand n (.pushed next) m) = N.held r (s.hand m) := by
      by_cases hm : m = n
      · rw [hm, Function.update_self, hidle]
        rfl
      · rw [Function.update_of_ne hm]
    rw [taken_put, hheld, onRoute_put]
    · exact h.link r m k hmk
    · rintro rfl rfl
      exact after_ne_head (N.nodup _) hmk hhead
  sent := h.sent_put (n := n) ⟨List.mem_of_mem_head? hhead, hfits⟩
  holding := h.holding_put (n := n) (a := a)

/-- A thread puts the message that it holds into the next mailbox. -/
lemma Inv.ofForward (hhand : s.hand n = .holding a next) : N.Inv (s.put n a next) := by
  obtain ⟨hnext, hfits⟩ := h.holding n a next hhand
  refine ⟨h.balanced_put fun m => by rw [hhand]; rfl, fun r m hm => ?_, fun r m k hmk => ?_,
    h.sent_put ⟨List.mem_of_mem_tail (mem_of_after hnext).2, hfits⟩, h.holding_put⟩
  · rw [onRoute_put]
    · exact h.start r m hm
    · rintro rfl rfl
      exact after_ne_head (N.nodup _) hnext hm
  · change _ = _ ++ N.held r (Function.update s.hand n (.pushed next) m)
    rw [taken_put, h.link r m k hmk]
    by_cases hm : m = n
    · subst hm
      rw [Function.update_self, hhand, history_put, onRoute_append]
      change _ ++ N.onRoute r [a] = _ ++ []
      rw [List.append_nil]
      by_cases hr : N.route (N.job a) = r
      · rw [← hr, hnext] at hmk
        rw [if_pos (Option.some.inj hmk).symm]
      · rw [onRoute_singleton, if_neg hr]
        split_ifs
        · rw [onRoute_singleton, if_neg hr]
        · rfl
    · rw [Function.update_of_ne hm, onRoute_put]
      rintro rfl rfl
      exact hm (after_injective (N.nodup _) hmk hnext)

/-- A thread writes the token for the message that it put into a mailbox. -/
lemma Inv.ofNotify (hhand : s.hand n = .pushed next) : N.Inv { s with
    box := Function.update s.box next ((s.box next).notify true)
    hand := Function.update s.hand n .idle } := by
  have hhistory := history_update s.box ((s.box next).notify true) rfl
  refine ⟨fun m => ?_, fun r m hm => ?_, fun r m k hmk => ?_, fun m => ?_, fun k c c' hk => ?_⟩
  · dsimp only
    have hsum := Hand.sum_halfway_update (n := n) s.hand .idle m
    rw [hhand, Hand.halfway_idle, Hand.halfway_pushed, Nat.add_zero] at hsum
    have hbalanced := h.balanced m
    rw [← hsum] at hbalanced
    by_cases hm : next = m
    · subst hm
      rw [if_pos rfl] at hbalanced
      rw [Function.update_self]
      exact hbalanced.notify
    · rw [if_neg hm, Nat.add_zero] at hbalanced
      rw [Function.update_of_ne (Ne.symm hm)]
      exact hbalanced
  · rw [hhistory]
    exact h.start r m hm
  · have hheld : N.held r (Function.update s.hand n .idle m) = N.held r (s.hand m) := by
      by_cases hm : m = n
      · rw [hm, Function.update_self, hhand]
        rfl
      · rw [Function.update_of_ne hm]
    rw [taken_update s.box ((s.box next).notify true) rfl, hhistory, hheld]
    exact h.link r m k hmk
  · rw [hhistory]
    exact h.sent m
  · dsimp only at hk
    by_cases hkn : k = n
    · rw [hkn, Function.update_self] at hk
      cases hk
    · rw [Function.update_of_ne hkn] at hk
      exact h.holding k c c' hk

/-- A thread reads a token. -/
lemma Inv.ofRead {x : Mailbox α} (hread : (s.box n).read = some x) :
    N.Inv { s with box := Function.update s.box n x } := by
  have hhistory := history_update s.box x (Mailbox.history_read hread)
  refine ⟨fun m => ?_, fun r m hm => ?_, fun r m k hmk => ?_, fun m => ?_, h.holding⟩
  · dsimp only
    by_cases hm : m = n
    · subst hm
      rw [Function.update_self]
      exact (h.balanced m).read hread
    · rw [Function.update_of_ne hm]
      exact h.balanced m
  · rw [hhistory]
    exact h.start r m hm
  · obtain ⟨-, -, rfl⟩ := Mailbox.read_eq_some hread
    rw [taken_update s.box { s.box n with tokens := (s.box n).tokens - 1, reading := true } rfl,
      hhistory]
    exact h.link r m k hmk
  · rw [hhistory]
    exact h.sent m

/-- A thread takes a message, and holds what it makes of it. -/
lemma Inv.ofPop (hidle : s.hand n = .idle) (hpop : (s.box n).pop.1 = some a)
    (hbalanced : ∀ c, (s.box n).Balanced c → (s.box n).pop.2.Balanced c)
    (htaken : (s.box n).pop.2.taken = (s.box n).taken ++ [a]) (hb : N.Lawful (.pop n b)) :
    N.Inv { s with
      box := Function.update s.box n (s.box n).pop.2
      hand := Function.update s.hand n (.ofOption (N.handle n b a)) } := by
  have hhistory := history_update s.box _ (Mailbox.history_pop (s.box n))
  have hsent : N.Sent a n := by
    refine h.sent n a ?_
    rw [← Mailbox.history_pop, Mailbox.history, htaken, List.append_assoc]
    exact List.mem_append_right _ List.mem_cons_self
  obtain ⟨hnext, hgood⟩ := hb a hsent
  have hfree : ∀ m, (Hand.ofOption (N.handle n b a)).halfway m = 0 := by
    intro m
    cases N.handle n b a <;> rfl
  refine ⟨fun m => ?_, fun r m hm => ?_, fun r m k hmk => ?_, fun m => ?_, fun k c c' hk => ?_⟩
  · dsimp only
    have hsum := Hand.sum_halfway_update (n := n) s.hand (.ofOption (N.handle n b a)) m
    rw [hidle, hfree, Hand.halfway_idle, Nat.add_zero, Nat.add_zero] at hsum
    rw [hsum]
    by_cases hm : m = n
    · subst hm
      rw [Function.update_self]
      exact hbalanced _ (h.balanced m)
    · rw [Function.update_of_ne hm]
      exact h.balanced m
  · rw [hhistory]
    exact h.start r m hm
  · dsimp only
    rw [hhistory]
    by_cases hm : m = n
    · subst hm
      have hlink := h.link r m k hmk
      rw [hidle, held_idle, List.append_nil] at hlink
      rw [Function.update_self, Function.update_self, htaken, onRoute_append, hlink]
      congr 1
      cases hhandle : N.handle m b a with
      | none =>
        rw [hhandle] at hnext
        rw [onRoute_singleton, if_neg]
        · rfl
        · rintro rfl
          rw [hmk] at hnext
          cases hnext
      | some p =>
        change _ = N.onRoute r [p.1]
        rw [onRoute_singleton, onRoute_singleton, (hgood p hhandle).1]
    · rw [Function.update_of_ne hm, Function.update_of_ne hm]
      exact h.link r m k hmk
  · rw [hhistory]
    exact h.sent m
  · dsimp only at hk
    by_cases hkn : k = n
    · subst hkn
      rw [Function.update_self] at hk
      cases hhandle : N.handle k b a with
      | none =>
        rw [hhandle] at hk
        cases hk
      | some p =>
        rw [hhandle] at hk hnext
        cases hk
        obtain ⟨hjob, hfits⟩ := hgood p hhandle
        rw [hjob]
        exact ⟨hnext.symm, hfits⟩
    · rw [Function.update_of_ne hkn] at hk
      exact h.holding k c c' hk

end step

/-- Every lawful step keeps the invariant. -/
lemma Inv.step (h : N.Inv s) {e : RelayEvent ν α β} (he : N.Lawful e) (hs : N.step s e = some t) :
    N.Inv t := by
  cases e with
  | inject n a next =>
    rw [Network.step] at hs
    split at hs
    · rename_i hidle _
      cases hs
      exact h.ofInject hidle he.1 he.2
    · cases hs
  | notify n written =>
    obtain rfl : written = true := he
    rw [Network.step] at hs
    split at hs
    · rename_i next hhand
      cases hs
      exact h.ofNotify hhand
    · cases hs
  | read n =>
    rw [Network.step] at hs
    split at hs
    · obtain ⟨x, hread, rfl⟩ := Option.map_eq_some_iff.mp hs
      exact h.ofRead hread
    · cases hs
  | pop n b =>
    rw [Network.step] at hs
    split at hs
    · rename_i hidle hreading
      cases hs
      obtain ⟨a, hpop, -, htaken⟩ := (h.balanced n).exists_pop hreading
      rw [hpop, Option.bind_some]
      refine h.ofPop hidle hpop (fun c hc => ?_) htaken he
      obtain ⟨-, -, hbalanced, -⟩ := hc.exists_pop hreading
      exact hbalanced
    · cases hs
  | forward n =>
    rw [Network.step] at hs
    split at hs
    · rename_i a next hhand
      cases hs
      exact h.ofForward hhand
    · cases hs

end Network

end XrtcServer.Core
