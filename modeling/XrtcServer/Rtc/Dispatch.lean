import Mathlib.Data.Finset.Card
import XrtcServer.Core.Mailbox
import XrtcServer.Core.Run
import XrtcServer.Signaling.Worker

/-!
# From the signaling workers to the RTC workers

`RtcServer` takes the messages that the signaling workers send it and hands each to the `RtcWorker`
that its stream belongs to. Every queue has a pipe next to it, and the steps of all threads
interleave.
-/

namespace XrtcServer.Rtc
open XrtcServer.Base XrtcServer.Core XrtcServer.Signaling

/-- What the RTC server thread has to do before it reads the next token: nothing, hand a message to
its worker, or write the token for the message that it gave to worker `index`. -/
inductive Task
  | waiting
  | popped (msg : RtcMsg)
  | pushed (index : Nat)
  deriving DecidableEq, Repr

def Task.held : Task → List RtcMsg
  | .popped msg => [msg]
  | _ => []

/-- How many messages in the queue of worker `k` have no token yet. -/
def Task.halfway (k : Nat) : Task → Nat
  | .pushed index => if index = k then 1 else 0
  | _ => 0

structure RtcServer (ι : Type*) where
  inbox : Mailbox RtcMsg := {}
  /-- The signaling workers between `push_msg` and `notify`. -/
  sending : Finset ι := ∅
  task : Task := .waiting
  workers : List (Mailbox RtcMsg)
  workerNum : Nat
  /-- A ghost: the messages handed to workers, with the index of the worker. -/
  handed : List (Nat × RtcMsg) := []

/-- An `RtcServer` after `init`. -/
def init (ι : Type*) (workerNum : Nat) : RtcServer ι where
  workers := List.replicate workerNum {}
  workerNum := workerNum

/-- The steps of the threads, with what `write` and the check of the certificate answer. -/
inductive Event (ι : Type*)
  | pushMsg (i : ι) (msg : RtcMsg)
  | notify (i : ι) (written : Bool)
  | readToken
  | popMsg (certified : Bool)
  | pushToWorker
  | notifyWorker (written : Bool)
  | workerRead (k : Nat)
  | workerPop (k : Nat)
  deriving DecidableEq, Repr

/-- Writes to pipes succeed and there is a certificate. -/
def Event.Ok {ι : Type*} : Event ι → Prop
  | .notify _ written => written = true
  | .popMsg certified => certified = true
  | .notifyWorker written => written = true
  | _ => True

/-- The message that the event puts into the queue of the RTC server. -/
def Event.pushed {ι : Type*} : Event ι → Option RtcMsg
  | .pushMsg _ msg => some msg
  | _ => none

namespace RtcServer

variable {ι : Type*} (crc32 : Bytes → UInt32)

/-- The index of the worker from `_get_worker`, if there is one. -/
def getWorker (s : RtcServer ι) (streamName : Bytes) : Option Nat :=
  if s.workers.length = 0 ∨ s.workers.length ≠ s.workerNum then none
  else some ((crc32 streamName).toNat % s.workerNum)

/-- The workers after `f` on the one at `k`. -/
def updateWorker (s : RtcServer ι) (k : Nat)
    (f : Mailbox RtcMsg → Option (Mailbox RtcMsg)) : Option (List (Mailbox RtcMsg)) :=
  (s.workers[k]?.bind f).map fun w => s.workers.set k w

/-- One step of one thread; `none` where the thread is elsewhere. -/
def step [DecidableEq ι] (s : RtcServer ι) : Event ι → Option (RtcServer ι)
  | .pushMsg i msg =>
    if i ∈ s.sending then none
    else some { s with inbox := s.inbox.push msg, sending := insert i s.sending }
  | .notify i written =>
    if i ∈ s.sending then
      some { s with inbox := s.inbox.notify written, sending := s.sending.erase i }
    else none
  | .readToken =>
    if s.task = .waiting then s.inbox.read.map fun inbox => { s with inbox } else none
  | .popMsg certified =>
    if s.task = .waiting ∧ s.inbox.reading = true then
      match s.inbox.pop.1 with
      | none => some { s with inbox := s.inbox.pop.2 }
      | some msg =>
        some { s with
          inbox := s.inbox.pop.2
          task := if certified then .popped msg else .waiting }
    else none
  | .pushToWorker =>
    match s.task with
    | .popped msg =>
      match s.getWorker crc32 msg.streamName with
      | none => some { s with task := .waiting }
      | some k =>
        (s.updateWorker k fun w => some (w.push msg)).map fun workers =>
          { s with workers, task := .pushed k, handed := s.handed ++ [(k, msg)] }
    | _ => none
  | .notifyWorker written =>
    match s.task with
    | .pushed k =>
      (s.updateWorker k fun w => some (w.notify written)).map fun workers =>
        { s with workers, task := .waiting }
    | _ => none
  | .workerRead k => (s.updateWorker k Mailbox.read).map fun workers => { s with workers }
  | .workerPop k =>
    (s.updateWorker k fun w => if w.reading then some w.pop.2 else none).map fun workers =>
      { s with workers }

/-- The messages that some events put into the queue of the RTC server, in order. -/
def pushes (es : List (Event ι)) : List RtcMsg := es.filterMap Event.pushed

/-- What is counted and recorded in every state that the events `es` lead to. -/
structure Inv (es : List (Event ι)) (s : RtcServer ι) : Prop where
  length_workers : s.workers.length = s.workerNum
  workerNum_pos : 0 < s.workerNum
  history : s.inbox.history = pushes es
  balanced : s.inbox.Balanced s.sending.card
  taken : s.inbox.taken = s.handed.map Prod.snd ++ s.task.held
  index : ∀ p ∈ s.handed, p.1 = (crc32 p.2.streamName).toNat % s.workerNum
  task_lt : ∀ k, s.task = .pushed k → k < s.workers.length
  worker_balanced : ∀ k (w : Mailbox RtcMsg), s.workers[k]? = some w →
    w.Balanced (s.task.halfway k)
  worker_history : ∀ k (w : Mailbox RtcMsg), s.workers[k]? = some w →
    w.history = (s.handed.filter fun p => p.1 = k).map Prod.snd

variable {crc32} {s t : RtcServer ι} {es : List (Event ι)} {k : Nat} {ws : List (Mailbox RtcMsg)}
  {f : Mailbox RtcMsg → Option (Mailbox RtcMsg)}

lemma updateWorker_eq_some (h : s.updateWorker k f = some ws) :
    ∃ w w', s.workers[k]? = some w ∧ f w = some w' ∧ ws = s.workers.set k w' := by
  obtain ⟨w', hw', rfl⟩ := Option.map_eq_some_iff.mp h
  obtain ⟨w, hw, hf⟩ := Option.bind_eq_some_iff.mp hw'
  exact ⟨w, w', hw, hf, rfl⟩

lemma forall_set {P : Nat → Mailbox RtcMsg → Prop} {l : List (Mailbox RtcMsg)}
    {w' : Mailbox RtcMsg} (hother : ∀ j w, j ≠ k → l[j]? = some w → P j w) (hnew : P k w') :
    ∀ j w, (l.set k w')[j]? = some w → P j w := by
  intro j w hw
  by_cases hj : k = j
  · subst hj
    rw [List.getElem?_set_self'] at hw
    obtain ⟨v, -, rfl⟩ := Option.map_eq_some_iff.mp hw
    exact hnew
  · rw [List.getElem?_set_ne hj] at hw
    exact hother j w (Ne.symm hj) hw

lemma pushes_snoc (es : List (Event ι)) (e : Event ι) :
    pushes (es ++ [e]) = pushes es ++ e.pushed.toList := by
  rw [pushes, pushes, List.filterMap_append]
  cases he : e.pushed <;> simp [he]

lemma pushes_snoc_of_none {e : Event ι} (he : e.pushed = none) :
    pushes (es ++ [e]) = pushes es := by
  rw [pushes_snoc, he, Option.toList_none, List.append_nil]

lemma inv_init (ι : Type*) {n : Nat} (hn : 0 < n) : Inv crc32 [] (init ι n) where
  length_workers := List.length_replicate
  workerNum_pos := hn
  history := rfl
  balanced := Mailbox.balanced_init
  taken := rfl
  index := nofun
  task_lt := nofun
  worker_balanced k w hw := by
    rw [List.eq_of_mem_replicate (List.mem_of_getElem? hw)]
    exact Mailbox.balanced_init
  worker_history k w hw := by
    rw [List.eq_of_mem_replicate (List.mem_of_getElem? hw)]
    rfl

section worker
variable (h : Inv crc32 es s) {w w' : Mailbox RtcMsg} (hw : s.workers[k]? = some w)
include h hw

lemma Inv.ofWorker (hbalanced : ∀ n, w.Balanced n → w'.Balanced n)
    (hhistory : w'.history = w.history) :
    Inv crc32 es { s with workers := s.workers.set k w' } where
  length_workers := by
    rw [List.length_set]
    exact h.length_workers
  workerNum_pos := h.workerNum_pos
  history := h.history
  balanced := h.balanced
  taken := h.taken
  index := h.index
  task_lt := by
    rw [List.length_set]
    exact h.task_lt
  worker_balanced := by
    apply forall_set
    · exact fun j v _ hv => h.worker_balanced j v hv
    · exact hbalanced _ (h.worker_balanced k w hw)
  worker_history := by
    apply forall_set
    · exact fun j v _ hv => h.worker_history j v hv
    · rw [hhistory]
      exact h.worker_history k w hw

lemma Inv.ofPushed {msg : RtcMsg} (htask : s.task = .popped msg)
    (hk : k = (crc32 msg.streamName).toNat % s.workerNum) :
    Inv crc32 es { s with
      workers := s.workers.set k (w.push msg)
      task := .pushed k
      handed := s.handed ++ [(k, msg)] } where
  length_workers := by
    rw [List.length_set]
    exact h.length_workers
  workerNum_pos := h.workerNum_pos
  history := h.history
  balanced := h.balanced
  taken := by
    rw [h.taken, htask]
    simp [Task.held]
  index := by
    rw [List.forall_mem_append]
    exact ⟨h.index, List.forall_mem_singleton.mpr hk⟩
  task_lt := by
    rintro j ⟨⟩
    rw [List.length_set]
    exact (List.getElem?_eq_some_iff.mp hw).1
  worker_balanced := by
    have hbalanced := h.worker_balanced
    rw [htask] at hbalanced
    apply forall_set
    · intro j v hj hv
      rw [Task.halfway, if_neg hj.symm]
      exact hbalanced j v hv
    · rw [Task.halfway, if_pos rfl]
      exact (hbalanced k w hw).push msg
  worker_history := by
    apply forall_set
    · intro j v hj hv
      rw [h.worker_history j v hv, List.filter_append]
      simp [hj.symm]
    · rw [Mailbox.history_push, h.worker_history k w hw, List.filter_append]
      simp

lemma Inv.ofNotified (htask : s.task = .pushed k) :
    Inv crc32 es { s with workers := s.workers.set k (w.notify true), task := .waiting } where
  length_workers := by
    rw [List.length_set]
    exact h.length_workers
  workerNum_pos := h.workerNum_pos
  history := h.history
  balanced := h.balanced
  taken := by
    rw [h.taken, htask]
    rfl
  index := h.index
  task_lt := nofun
  worker_balanced := by
    have hbalanced := h.worker_balanced
    rw [htask] at hbalanced
    apply forall_set
    · intro j v hj hv
      have hv' := hbalanced j v hv
      rw [Task.halfway, if_neg hj.symm] at hv'
      exact hv'
    · have hw' := hbalanced k w hw
      rw [Task.halfway, if_pos rfl] at hw'
      exact hw'.notify
  worker_history := by
    apply forall_set
    · exact fun j v _ hv => h.worker_history j v hv
    · exact h.worker_history k w hw

end worker

section server
variable [DecidableEq ι] (h : Inv crc32 es s)
include h

lemma Inv.ofPushMsg {i : ι} (hi : i ∉ s.sending) (msg : RtcMsg) :
    Inv crc32 (es ++ [.pushMsg i msg])
      { s with inbox := s.inbox.push msg, sending := insert i s.sending } where
  length_workers := h.length_workers
  workerNum_pos := h.workerNum_pos
  history := by
    rw [Mailbox.history_push, h.history, pushes_snoc]
    rfl
  balanced := by
    rw [Finset.card_insert_of_notMem hi]
    exact h.balanced.push msg
  taken := h.taken
  index := h.index
  task_lt := h.task_lt
  worker_balanced := h.worker_balanced
  worker_history := h.worker_history

lemma Inv.ofNotify {i : ι} (hi : i ∈ s.sending) :
    Inv crc32 (es ++ [.notify i true])
      { s with inbox := s.inbox.notify true, sending := s.sending.erase i } where
  length_workers := h.length_workers
  workerNum_pos := h.workerNum_pos
  history := by
    rw [pushes_snoc_of_none rfl]
    exact h.history
  balanced := by
    have hbalanced := h.balanced
    rw [← Finset.card_erase_add_one hi] at hbalanced
    exact hbalanced.notify
  taken := h.taken
  index := h.index
  task_lt := h.task_lt
  worker_balanced := h.worker_balanced
  worker_history := h.worker_history

omit [DecidableEq ι] in
lemma Inv.ofReadToken {inbox : Mailbox RtcMsg} (hread : s.inbox.read = some inbox) :
    Inv crc32 (es ++ [.readToken]) { s with inbox } where
  length_workers := h.length_workers
  workerNum_pos := h.workerNum_pos
  history := by
    rw [pushes_snoc_of_none rfl, ← h.history]
    exact Mailbox.history_read hread
  balanced := h.balanced.read hread
  taken := by
    obtain ⟨-, -, rfl⟩ := Mailbox.read_eq_some hread
    exact h.taken
  index := h.index
  task_lt := h.task_lt
  worker_balanced := h.worker_balanced
  worker_history := h.worker_history

omit [DecidableEq ι] in
lemma Inv.ofPopMsg {msg : RtcMsg} (htask : s.task = .waiting)
    (hbalanced : s.inbox.pop.2.Balanced s.sending.card)
    (htaken : s.inbox.pop.2.taken = s.inbox.taken ++ [msg]) :
    Inv crc32 (es ++ [.popMsg true]) { s with inbox := s.inbox.pop.2, task := .popped msg } where
  length_workers := h.length_workers
  workerNum_pos := h.workerNum_pos
  history := by
    rw [pushes_snoc_of_none rfl, ← h.history]
    exact Mailbox.history_pop _
  balanced := hbalanced
  taken := by
    rw [htaken, h.taken, htask]
    simp [Task.held]
  index := h.index
  task_lt := nofun
  worker_balanced := by
    have hworkers := h.worker_balanced
    rw [htask] at hworkers
    exact hworkers
  worker_history := h.worker_history

omit [DecidableEq ι] in
lemma Inv.snoc {e : Event ι} (he : e.pushed = none) : Inv crc32 (es ++ [e]) s where
  length_workers := h.length_workers
  workerNum_pos := h.workerNum_pos
  history := by
    rw [pushes_snoc_of_none he]
    exact h.history
  balanced := h.balanced
  taken := h.taken
  index := h.index
  task_lt := h.task_lt
  worker_balanced := h.worker_balanced
  worker_history := h.worker_history

omit [DecidableEq ι] in
lemma Inv.getWorker_eq (streamName : Bytes) :
    s.getWorker crc32 streamName = some ((crc32 streamName).toNat % s.workerNum) := by
  have hpos := h.workerNum_pos
  have hlength := h.length_workers
  rw [getWorker, if_neg (by omega)]

lemma Inv.step {e : Event ι} (hok : e.Ok) (hs : s.step crc32 e = some t) :
    Inv crc32 (es ++ [e]) t := by
  cases e with
  | pushMsg i msg =>
    simp only [RtcServer.step] at hs
    split at hs
    · cases hs
    · rename_i hi
      cases hs
      exact h.ofPushMsg hi msg
  | notify i written =>
    obtain rfl : written = true := hok
    simp only [RtcServer.step] at hs
    split at hs
    · rename_i hi
      cases hs
      exact h.ofNotify hi
    · cases hs
  | readToken =>
    simp only [RtcServer.step] at hs
    split at hs
    · obtain ⟨inbox, hread, rfl⟩ := Option.map_eq_some_iff.mp hs
      exact h.ofReadToken hread
    · cases hs
  | popMsg certified =>
    obtain rfl : certified = true := hok
    simp only [RtcServer.step] at hs
    split at hs
    · rename_i hcan
      obtain ⟨msg, hpop, hbalanced, htaken⟩ := h.balanced.exists_pop hcan.2
      rw [hpop] at hs
      cases hs
      exact h.ofPopMsg hcan.1 hbalanced htaken
    · cases hs
  | pushToWorker =>
    simp only [RtcServer.step] at hs
    split at hs
    · rename_i msg htask
      rw [h.getWorker_eq] at hs
      obtain ⟨ws, hws, rfl⟩ := Option.map_eq_some_iff.mp hs
      obtain ⟨w, w', hw, hf, rfl⟩ := updateWorker_eq_some hws
      cases hf
      exact (h.ofPushed hw htask rfl).snoc rfl
    · cases hs
  | notifyWorker written =>
    obtain rfl : written = true := hok
    simp only [RtcServer.step] at hs
    split at hs
    · rename_i k htask
      obtain ⟨ws, hws, rfl⟩ := Option.map_eq_some_iff.mp hs
      obtain ⟨w, w', hw, hf, rfl⟩ := updateWorker_eq_some hws
      cases hf
      exact (h.ofNotified hw htask).snoc rfl
    · cases hs
  | workerRead k =>
    obtain ⟨ws, hws, rfl⟩ := Option.map_eq_some_iff.mp hs
    obtain ⟨w, w', hw, hread, rfl⟩ := updateWorker_eq_some hws
    exact (h.ofWorker hw (fun n hn => hn.read hread) (Mailbox.history_read hread)).snoc rfl
  | workerPop k =>
    obtain ⟨ws, hws, rfl⟩ := Option.map_eq_some_iff.mp hs
    obtain ⟨w, w', hw, hpop, rfl⟩ := updateWorker_eq_some hws
    split at hpop
    · rename_i hreading
      cases hpop
      refine (h.ofWorker hw (fun n hn => ?_) (Mailbox.history_pop w)).snoc rfl
      obtain ⟨msg, -, hbalanced, -⟩ := hn.exists_pop hreading
      exact hbalanced
    · cases hpop

end server

end RtcServer

end XrtcServer.Rtc
