import XrtcServer.Rtc.Dispatch

/-!
# Every message reaches its worker once and in order

The counts and records of `Inv` along every run of the dispatch, and a measure that bounds the steps
between two pushes.
-/

namespace XrtcServer.Rtc.RtcServer
open XrtcServer.Base XrtcServer.Core XrtcServer.Signaling

variable {ι : Type*} {crc32 : Bytes → UInt32} {s t : RtcServer ι} {es : List (Event ι)}

/-- Where a token was read, the queue that it announces is not empty. -/
def TokensBacked (s : RtcServer ι) : Prop :=
  (s.inbox.reading = true → s.inbox.queue ≠ []) ∧
    ∀ w ∈ s.workers, w.reading = true → w.queue ≠ []

/-- The messages `ms` were handed in order, one is on its way and the others wait; the worker at `k`
was given those with index `k` and nothing else. -/
def HandedOnce (crc32 : Bytes → UInt32) (ms : List RtcMsg) (s : RtcServer ι) : Prop :=
  ms = s.handed.map Prod.snd ++ (s.task.held ++ s.inbox.queue) ∧
    (∀ p ∈ s.handed, p.1 = (crc32 p.2.streamName).toNat % s.workerNum ∧ p.1 < s.workers.length) ∧
    ∀ k (w : Mailbox RtcMsg), s.workers[k]? = some w →
      w.history = (s.handed.filter fun p => p.1 = k).map Prod.snd

def PipesEmpty (s : RtcServer ι) : Prop :=
  s.inbox.tokens = 0 ∧ ∀ w ∈ s.workers, w.tokens = 0

/-- No thread is between a push and the write of the token. -/
def NoneSending (s : RtcServer ι) : Prop := s.sending = ∅ ∧ ∀ k, s.task ≠ .pushed k

/-- No thread is between the read of a token and the pop. -/
def NoneReading (s : RtcServer ι) : Prop :=
  s.inbox.reading = false ∧ ∀ w ∈ s.workers, w.reading = false

def QueuesEmpty (s : RtcServer ι) : Prop :=
  s.inbox.queue = [] ∧ ∀ w ∈ s.workers, w.queue = []

/-- The worker of a stream processes its messages in the order of `ms`. -/
def InOrder (crc32 : Bytes → UInt32) (ms : List RtcMsg) (s : RtcServer ι) : Prop :=
  ∀ streamName, ∃ w, s.workers[(crc32 streamName).toNat % s.workerNum]? = some w ∧
    w.taken.filter (fun m => m.streamName = streamName) <+:
      ms.filter fun m => m.streamName = streamName

section inv
variable (h : Inv crc32 es s)
include h

lemma Inv.balanced_mem {w : Mailbox RtcMsg} (hw : w ∈ s.workers) :
    ∃ k, w.Balanced (s.task.halfway k) := by
  obtain ⟨k, hk⟩ := List.mem_iff_getElem?.mp hw
  exact ⟨k, h.worker_balanced k w hk⟩

lemma Inv.tokensBacked : s.TokensBacked := by
  constructor
  · exact h.balanced.queue_ne_nil
  · intro w hw
    obtain ⟨k, hk⟩ := h.balanced_mem hw
    exact hk.queue_ne_nil

lemma Inv.pushes_eq : pushes es = s.handed.map Prod.snd ++ (s.task.held ++ s.inbox.queue) := by
  rw [← h.history, Mailbox.history, h.taken, List.append_assoc]

lemma Inv.handedOnce : s.HandedOnce crc32 (pushes es) := by
  refine ⟨h.pushes_eq, fun p hp => ?_, h.worker_history⟩
  have hindex := h.index p hp
  refine ⟨hindex, ?_⟩
  rw [hindex, h.length_workers]
  exact Nat.mod_lt _ h.workerNum_pos

lemma Inv.queuesEmpty (hpipes : s.PipesEmpty) (hsending : s.NoneSending)
    (hreading : s.NoneReading) : s.QueuesEmpty := by
  constructor
  · have hbalanced := h.balanced
    rw [hsending.1, Finset.card_empty] at hbalanced
    exact hbalanced.queue_eq_nil hpipes.1 hreading.1
  · intro w hw
    obtain ⟨k, hk⟩ := h.balanced_mem hw
    have hnone : s.task.halfway k = 0 := by
      cases htask : s.task with
      | pushed j => exact absurd htask (hsending.2 j)
      | waiting => rfl
      | popped msg => rfl
    rw [hnone] at hk
    exact hk.queue_eq_nil (hpipes.2 w hw) (hreading.2 w hw)

lemma Inv.history_eq_filter {k : Nat} {w : Mailbox RtcMsg} (hw : s.workers[k]? = some w) :
    w.history = (s.handed.map Prod.snd).filter
      fun m => (crc32 m.streamName).toNat % s.workerNum = k := by
  rw [h.worker_history k w hw, List.filter_map]
  congr 1
  apply List.filter_congr
  intro p hp
  rw [h.index p hp]
  rfl

lemma Inv.inOrder : s.InOrder crc32 (pushes es) := by
  intro streamName
  have hlt : (crc32 streamName).toNat % s.workerNum < s.workers.length := by
    rw [h.length_workers]
    exact Nat.mod_lt _ h.workerNum_pos
  have hw := List.getElem?_eq_getElem hlt
  refine ⟨_, hw, ?_⟩
  have hhistory := h.history_eq_filter hw
  have htaken : (s.workers[(crc32 streamName).toNat % s.workerNum]).taken <+: _ :=
    List.prefix_append _ (s.workers[(crc32 streamName).toNat % s.workerNum]).queue
  rw [← Mailbox.history, hhistory] at htaken
  have hstream := htaken.filter fun m => decide (m.streamName = streamName)
  rw [List.filter_filter] at hstream
  have hfilter : (s.handed.map Prod.snd).filter (fun m => decide (m.streamName = streamName) &&
      decide ((crc32 m.streamName).toNat % s.workerNum = (crc32 streamName).toNat % s.workerNum)) =
        (s.handed.map Prod.snd).filter fun m => decide (m.streamName = streamName) := by
    apply List.filter_congr
    intro m _
    by_cases hm : m.streamName = streamName
    · simp [hm]
    · simp [hm]
  rw [hfilter] at hstream
  refine hstream.trans (List.IsPrefix.filter _ ?_)
  rw [h.pushes_eq]
  exact List.prefix_append _ _

end inv

/-- The steps that a worker has left. -/
def workerWork (w : Mailbox RtcMsg) : Nat := 2 * w.tokens + w.reading.toNat + w.queue.length

def taskWork : Task → Nat
  | .waiting => 0
  | .popped _ => 5
  | .pushed _ => 3

/-- The steps that all threads have left if no message comes in. -/
def work (s : RtcServer ι) : Nat :=
  3 * s.sending.card + 2 * s.inbox.tokens + s.inbox.reading.toNat + 5 * s.inbox.queue.length +
    taskWork s.task + (s.workers.map workerWork).sum

lemma sum_workerWork_set {l : List (Mailbox RtcMsg)} {k : Nat} {w : Mailbox RtcMsg}
    (hw : l[k]? = some w) (w' : Mailbox RtcMsg) :
    ((l.set k w').map workerWork).sum + workerWork w = (l.map workerWork).sum + workerWork w' := by
  induction l generalizing k with
  | nil => cases hw
  | cons v l ih =>
    cases k with
    | zero =>
      cases hw
      rw [List.set_cons_zero, List.map_cons, List.map_cons, List.sum_cons, List.sum_cons]
      omega
    | succ k =>
      rw [List.getElem?_cons_succ] at hw
      have hsum := ih hw
      rw [List.set_cons_succ, List.map_cons, List.map_cons, List.sum_cons, List.sum_cons]
      omega

lemma workerWork_push (w : Mailbox RtcMsg) (msg : RtcMsg) :
    workerWork (w.push msg) = workerWork w + 1 := by
  simp only [workerWork, Mailbox.push, List.length_append, List.length_singleton]
  omega

lemma workerWork_notify_le (w : Mailbox RtcMsg) (written : Bool) :
    workerWork (w.notify written) ≤ workerWork w + 2 := by
  have hwritten := written.toNat_le
  simp only [workerWork, Mailbox.notify]
  omega

lemma workerWork_read {w w' : Mailbox RtcMsg} (h : w.read = some w') :
    workerWork w' < workerWork w := by
  obtain ⟨hreading, hpos, rfl⟩ := Mailbox.read_eq_some h
  simp only [workerWork, hreading, Bool.toNat_false, Bool.toNat_true]
  omega

lemma workerWork_pop {w : Mailbox RtcMsg} (h : w.reading = true) :
    workerWork w.pop.2 < workerWork w := by
  rw [Mailbox.pop]
  cases hq : w.queue with
  | nil => simp [workerWork, h, hq]
  | cons msg queue =>
    simp only [workerWork, h, hq, Bool.toNat_false, Bool.toNat_true, List.length_cons]
    omega

/-- Every step of a thread that is no push leaves less to do. -/
lemma work_lt [DecidableEq ι] {e : Event ι} (he : e.pushed = none)
    (hs : s.step crc32 e = some t) : t.work < s.work := by
  cases e with
  | pushMsg i msg => cases he
  | notify i written =>
    simp only [RtcServer.step] at hs
    split at hs
    · rename_i hi
      cases hs
      have hcard := Finset.card_erase_add_one hi
      have hwritten := written.toNat_le
      simp only [work, Mailbox.notify]
      omega
    · cases hs
  | readToken =>
    simp only [RtcServer.step] at hs
    split at hs
    · obtain ⟨inbox, hread, rfl⟩ := Option.map_eq_some_iff.mp hs
      obtain ⟨hreading, hpos, rfl⟩ := Mailbox.read_eq_some hread
      simp only [work, hreading, Bool.toNat_false, Bool.toNat_true]
      omega
    · cases hs
  | popMsg certified =>
    simp only [RtcServer.step] at hs
    split at hs
    · rename_i hcan
      rw [Mailbox.pop] at hs
      cases hq : s.inbox.queue with
      | nil =>
        simp only [hq] at hs
        cases hs
        simp only [work, hcan.2, hq, Bool.toNat_false, Bool.toNat_true]
        omega
      | cons msg queue =>
        simp only [hq] at hs
        cases hs
        have htask : taskWork (if certified then .popped msg else .waiting) ≤ 5 := by
          cases certified <;> simp [taskWork]
        simp only [work, hcan.1, hcan.2, hq, Bool.toNat_false, Bool.toNat_true, List.length_cons]
        simp only [taskWork] at htask ⊢
        omega
    · cases hs
  | pushToWorker =>
    simp only [RtcServer.step] at hs
    split at hs
    · rename_i msg htask
      split at hs
      · cases hs
        simp only [work, htask, taskWork]
        omega
      · obtain ⟨ws, hws, rfl⟩ := Option.map_eq_some_iff.mp hs
        obtain ⟨w, w', hw, hf, rfl⟩ := updateWorker_eq_some hws
        cases hf
        have hsum := sum_workerWork_set hw (w.push msg)
        rw [workerWork_push] at hsum
        simp only [work, htask, taskWork]
        omega
    · cases hs
  | notifyWorker written =>
    simp only [RtcServer.step] at hs
    split at hs
    · rename_i k htask
      obtain ⟨ws, hws, rfl⟩ := Option.map_eq_some_iff.mp hs
      obtain ⟨w, w', hw, hf, rfl⟩ := updateWorker_eq_some hws
      cases hf
      have hsum := sum_workerWork_set hw (w.notify written)
      have hnotify := workerWork_notify_le w written
      simp only [work, htask, taskWork]
      omega
    · cases hs
  | workerRead k =>
    obtain ⟨ws, hws, rfl⟩ := Option.map_eq_some_iff.mp hs
    obtain ⟨w, w', hw, hread, rfl⟩ := updateWorker_eq_some hws
    have hsum := sum_workerWork_set hw w'
    have hread := workerWork_read hread
    simp only [work]
    omega
  | workerPop k =>
    obtain ⟨ws, hws, rfl⟩ := Option.map_eq_some_iff.mp hs
    obtain ⟨w, w', hw, hpop, rfl⟩ := updateWorker_eq_some hws
    split at hpop
    · rename_i hreading
      cases hpop
      have hsum := sum_workerWork_set hw w.pop.2
      have hpop := workerWork_pop hreading
      simp only [work]
      omega
    · cases hpop

section runs
variable [DecidableEq ι]

/-- The interleaving of all threads. -/
def Steps (crc32 : Bytes → UInt32) (s : RtcServer ι) (e : Event ι) (t : RtcServer ι) : Prop :=
  s.step crc32 e = some t

/-- No thread can go on before the next message is pushed. -/
def Rests (crc32 : Bytes → UInt32) (s : RtcServer ι) : Prop :=
  ∀ e t, e.pushed = none → e.Ok → ¬ Steps crc32 s e t

/-- Without further messages the threads come to rest, and then every worker has processed the
messages of `ms` with its index in the order of `ms`. -/
def Delivers (crc32 : Bytes → UInt32) (ms : List RtcMsg) (s : RtcServer ι) : Prop :=
  (∀ es t, Leads (Steps crc32) s es t → (∀ e ∈ es, e.pushed = none) → es.length ≤ s.work) ∧
    (s.Rests crc32 → ∀ k (w : Mailbox RtcMsg), s.workers[k]? = some w →
      w.taken = ms.filter fun m => (crc32 m.streamName).toNat % s.workerNum = k)

lemma inv_of_leads {n : Nat} (hn : 0 < n) (hrun : Leads (Steps crc32) (init ι n) es s)
    (hok : ∀ e ∈ es, e.Ok) : Inv crc32 es s := by
  refine hrun.invariant (J := fun es s => (∀ e ∈ es, e.Ok) → Inv crc32 es s)
    (fun _ => inv_init ι hn) ?_ hok
  intro es t e u ih hs hok
  rw [List.forall_mem_append] at hok
  exact (ih hok.1).step (hok.2 e (List.mem_singleton_self e)) hs

lemma length_add_work_le (hrun : Leads (Steps crc32) s es t) (hes : ∀ e ∈ es, e.pushed = none) :
    es.length + t.work ≤ s.work := by
  refine hrun.invariant
    (J := fun es t => (∀ e ∈ es, e.pushed = none) → es.length + t.work ≤ s.work)
    (fun _ => by simp) ?_ hes
  intro es t e u ih hs hes
  rw [List.forall_mem_append] at hes
  have hle := ih hes.1
  have hlt := work_lt (hes.2 e (List.mem_singleton_self e)) hs
  rw [List.length_append, List.length_singleton]
  omega

omit [DecidableEq ι] in
lemma updateWorker_of_eq_some {k : Nat} {w w' : Mailbox RtcMsg}
    (f : Mailbox RtcMsg → Option (Mailbox RtcMsg)) (hw : s.workers[k]? = some w)
    (hf : f w = some w') : s.updateWorker k f = some (s.workers.set k w') := by
  rw [updateWorker, hw, Option.bind_some, hf, Option.map_some]

omit [DecidableEq ι] in
lemma read_of_pos {m : Mailbox RtcMsg} (hreading : m.reading = false) (hpos : 0 < m.tokens) :
    m.read = some { m with tokens := m.tokens - 1, reading := true } :=
  if_pos ⟨hreading, hpos⟩

lemma Inv.task_of_rests (h : Inv crc32 es s) (hrests : s.Rests crc32) : s.task = .waiting := by
  cases htask : s.task with
  | waiting => rfl
  | popped msg =>
    have hlt : (crc32 msg.streamName).toNat % s.workerNum < s.workers.length := by
      rw [h.length_workers]
      exact Nat.mod_lt _ h.workerNum_pos
    have hw := List.getElem?_eq_getElem hlt
    exfalso
    apply hrests .pushToWorker _ rfl trivial
    rw [Steps, RtcServer.step, htask]
    dsimp only
    rw [h.getWorker_eq]
    dsimp only
    rw [updateWorker_of_eq_some (fun w => some (w.push msg)) hw rfl, Option.map_some]
  | pushed k =>
    have hw := List.getElem?_eq_getElem (h.task_lt k htask)
    exfalso
    apply hrests (.notifyWorker true) _ rfl rfl
    rw [Steps, RtcServer.step, htask]
    dsimp only
    rw [updateWorker_of_eq_some (fun w => some (w.notify true)) hw rfl, Option.map_some]

lemma worker_of_rests (hrests : s.Rests crc32) {w : Mailbox RtcMsg} (hw : w ∈ s.workers) :
    w.reading = false ∧ w.tokens = 0 := by
  obtain ⟨k, hk⟩ := List.mem_iff_getElem?.mp hw
  have hreading : w.reading = false := by
    by_contra hreading
    rw [Bool.not_eq_false] at hreading
    apply hrests (.workerPop k) _ rfl trivial
    rw [Steps, RtcServer.step, updateWorker_of_eq_some _ hk (if_pos hreading),
      Option.map_some]
  refine ⟨hreading, Nat.eq_zero_of_not_pos fun hpos => ?_⟩
  apply hrests (.workerRead k) _ rfl trivial
  rw [Steps, RtcServer.step, updateWorker_of_eq_some _ hk (read_of_pos hreading hpos),
    Option.map_some]

lemma Inv.queuesEmpty_of_rests (h : Inv crc32 es s) (hrests : s.Rests crc32) :
    s.QueuesEmpty := by
  have htask := h.task_of_rests hrests
  have hreading : s.inbox.reading = false := by
    by_contra hreading
    rw [Bool.not_eq_false] at hreading
    obtain ⟨msg, hpop, -, -⟩ := h.balanced.exists_pop hreading
    apply hrests (.popMsg true) _ rfl rfl
    rw [Steps, RtcServer.step, if_pos ⟨htask, hreading⟩, hpop]
  have htokens : s.inbox.tokens = 0 := by
    refine Nat.eq_zero_of_not_pos fun hpos => ?_
    apply hrests .readToken _ rfl trivial
    rw [Steps, RtcServer.step, if_pos htask, read_of_pos hreading hpos, Option.map_some]
  have hsending : s.sending = ∅ := by
    rw [Finset.eq_empty_iff_forall_notMem]
    intro i hi
    apply hrests (.notify i true) _ rfl rfl
    rw [Steps, RtcServer.step, if_pos hi]
  refine h.queuesEmpty ⟨htokens, fun w hw => (worker_of_rests hrests hw).2⟩
    ⟨hsending, fun k hk => ?_⟩ ⟨hreading, fun w hw => (worker_of_rests hrests hw).1⟩
  rw [htask] at hk
  cases hk

lemma Inv.delivers (h : Inv crc32 es s) : s.Delivers crc32 (pushes es) := by
  constructor
  · intro es' t hrun hes'
    have hle := length_add_work_le hrun hes'
    omega
  · intro hrests k w hw
    have hempty := h.queuesEmpty_of_rests hrests
    have hhistory := h.history_eq_filter hw
    rw [Mailbox.history, hempty.2 w (List.mem_of_getElem? hw), List.append_nil] at hhistory
    have hheld : s.task.held = [] := by
      rw [h.task_of_rests hrests]
      rfl
    rw [hhistory, h.pushes_eq, hempty.1, hheld, List.append_nil, List.append_nil]

/-- In every interleaving a token that was read announces a message; every message is handed once, to
the worker of its stream, and processed there in the order of the pushes; all queues are empty when
no token and no thread is on the way; and without further messages all are processed. -/
theorem messages_dispatched {n : Nat} (hn : 0 < n) (hrun : Leads (Steps crc32) (init ι n) es s)
    (hok : ∀ e ∈ es, e.Ok) :
    s.TokensBacked ∧ s.HandedOnce crc32 (pushes es) ∧
      (s.PipesEmpty → s.NoneSending → s.NoneReading → s.QueuesEmpty) ∧
        s.InOrder crc32 (pushes es) ∧ s.Delivers crc32 (pushes es) := by
  have h := inv_of_leads hn hrun hok
  exact ⟨h.tokensBacked, h.handedOnce, h.queuesEmpty, h.inOrder, h.delivers⟩

/-- A message on its way to the second of two workers, and the token of the next one. -/
def sampleEvents : List (Event Bool) :=
  [.pushMsg true {}, .pushMsg false { uid := 1 }, .notify false true, .readToken, .popMsg true,
    .pushToWorker, .notify true true, .notifyWorker true, .readToken, .workerRead 1]

def sampleServer : RtcServer Bool where
  inbox := { queue := [{ uid := 1 }], reading := true, taken := [{}] }
  workers := [{}, { queue := [{}], reading := true }]
  workerNum := 2
  handed := [(1, {})]

theorem sampleServer_dispatched :
    sampleServer.TokensBacked ∧
      sampleServer.HandedOnce (fun _ => 3) (pushes sampleEvents) ∧
        (sampleServer.PipesEmpty → sampleServer.NoneSending → sampleServer.NoneReading →
          sampleServer.QueuesEmpty) ∧
          sampleServer.InOrder (fun _ => 3) (pushes sampleEvents) ∧
            sampleServer.Delivers (fun _ => 3) (pushes sampleEvents) := by
  have hrun : Leads (Steps fun _ => 3) (init Bool 2) sampleEvents sampleServer :=
    leads_of_foldlM (fun _ _ _ h => h) rfl
  refine messages_dispatched (by decide) hrun ?_
  simp [sampleEvents, Event.Ok]

/-- Between the read of a token and the pop the pipes are empty and the queue is not. -/
theorem queue_not_empty_before_pop :
    ¬ ∀ (es : List (Event Unit)) (s : RtcServer Unit),
      Leads (Steps fun _ => 0) (init Unit 1) es s → (∀ e ∈ es, e.Ok) →
        s.PipesEmpty → s.NoneSending → s.QueuesEmpty := by
  intro h
  let s : RtcServer Unit :=
    { inbox := { queue := [{}], reading := true }, workers := [{}], workerNum := 1 }
  have hrun : Leads (Steps fun _ => 0) (init Unit 1)
      [.pushMsg () {}, .notify () true, .readToken] s := leads_of_foldlM (fun _ _ _ h => h) rfl
  have hempty := h _ s hrun (by simp [Event.Ok]) ⟨rfl, by simp [s]⟩ ⟨rfl, nofun⟩
  exact List.cons_ne_nil _ _ hempty.1

end runs

end XrtcServer.Rtc.RtcServer
