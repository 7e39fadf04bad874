import XrtcServer.Base.Buffer
import XrtcServer.Core.Heap
import XrtcServer.Core.Run

/-!
# Buffer queues

An `rtc::BufferQueue` holds packets up to a capacity. The buffers of packets that were read are kept
and written to again. `QueueCall.apply` says what a program sees that takes the queue for a list of
packets.
-/

namespace XrtcServer.Base
open XrtcServer.Core Function

inductive QueueCall
  | writeBack (data : Bytes)
  | readFront (bytes : Nat)
  | clear
  deriving DecidableEq, Repr

/-- What a call returns; `read none` where there is nothing to read. -/
inductive QueueAnswer
  | written (ok : Bool)
  | read (data : Option Bytes)
  | cleared
  deriving DecidableEq, Repr

/-- What a call does to the packets that wait. -/
def QueueCall.apply (capacity : Nat) (packets : List Bytes) :
    QueueCall → QueueAnswer × List Bytes
  | .writeBack data =>
    if packets.length = capacity then (.written false, packets)
    else (.written true, packets ++ [data])
  | .readFront bytes => (.read (packets.head?.map (·.take bytes)), packets.tail)
  | .clear => (.cleared, [])

/-- The answers to some calls, and the packets that wait afterwards. -/
def queueRun (capacity : Nat) (calls : List QueueCall) : List QueueAnswer × List Bytes :=
  calls.foldl (fun s call =>
    (s.1 ++ [(call.apply capacity s.2).1], (call.apply capacity s.2).2)) ([], [])

/-- A buffer was used or deleted after it had been deleted. -/
inductive BufferFault
  | deleted
  deriving DecidableEq, Repr

structure BufferQueue where
  capacity : Nat
  defaultSize : Nat
  queue : List Nat := []
  freeList : List Nat := []
  /-- The buffers, by their addresses. -/
  heap : Nat → Option Buffer := fun _ => none

/-- A call with what it returned, the place of the buffer that it may allocate, and what new memory
holds. -/
structure QueueEvent where
  call : QueueCall
  answer : QueueAnswer
  address : Nat
  fill : Nat → UInt8 := fun _ => 0

namespace BufferQueue

/-- What the pointer `p` points to. -/
def load (heap : Nat → Option Buffer) (p : Nat) : Except BufferFault Buffer :=
  match heap p with
  | none => .error .deleted
  | some b => .ok b

/-- What `WriteBack` does once it has a buffer. -/
def fillPacket (fill : Nat → UInt8) (data : Bytes) (packet : Nat) (q : BufferQueue) :
    Except BufferFault (QueueAnswer × BufferQueue) :=
  (load q.heap packet).map fun b =>
    (.written true,
      { q with
        heap := update q.heap packet (some (b.setData fill data))
        queue := q.queue ++ [packet] })

def writeBack (p : Nat) (fill : Nat → UInt8) (data : Bytes) (q : BufferQueue) :
    Except BufferFault (QueueAnswer × BufferQueue) :=
  if q.queue.length = q.capacity then .ok (.written false, q)
  else
    match q.freeList.getLast? with
    | some packet => fillPacket fill data packet { q with freeList := q.freeList.dropLast }
    | none => fillPacket fill data p
        { q with heap := update q.heap p (some (.create fill data.length q.defaultSize)) }

def readFront (bytes : Nat) (q : BufferQueue) : Except BufferFault (QueueAnswer × BufferQueue) :=
  match q.queue with
  | [] => .ok (.read none, q)
  | packet :: queue =>
    (load q.heap packet).map fun b =>
      (.read (some (b.data.take (min bytes b.size))),
        { q with queue, freeList := q.freeList ++ [packet] })

def clear (q : BufferQueue) : BufferQueue :=
  { q with queue := [], freeList := q.freeList ++ q.queue }

/-- The buffers that the destructor leaves. -/
def destroy (q : BufferQueue) : Except BufferFault (Nat → Option Buffer) :=
  (q.queue ++ q.freeList).foldlM (fun heap p =>
    (load heap p).map fun _ => update heap p none) q.heap

def step (q : BufferQueue) (e : QueueEvent) : Except BufferFault (QueueAnswer × BufferQueue) :=
  match e.call with
  | .writeBack data => q.writeBack e.address e.fill data
  | .readFront bytes => q.readFront bytes
  | .clear => .ok (.cleared, q.clear)

/-- A new buffer is placed where there is none. -/
def Steps (q : BufferQueue) (e : QueueEvent) (q' : BufferQueue) : Prop :=
  q.heap e.address = none ∧ q.step e = .ok (e.answer, q')

/-- The queue has the packets, every buffer is in one place, and `hand` are the buffers that are on
their way from one list to the other. -/
structure Holds (q : BufferQueue) (hand : List Nat) (packets : List Bytes) : Prop where
  packets : q.queue.map (fun p => (q.heap p).map Buffer.bytes) = packets.map some
  nodup : (hand ++ q.queue ++ q.freeList).Nodup
  live : ∀ p, (q.heap p).isSome ↔ p ∈ hand ++ q.queue ++ q.freeList
  room : (hand ++ q.queue ++ q.freeList).length ≤ q.capacity

variable {q q' : BufferQueue} {hand hand' : List Nat} {packets packets' : List Bytes} {p : Nat}
  {fill : Nat → UInt8} {data : Bytes} {capacity defaultSize : Nat} {es : List QueueEvent}

lemma bytes_setData (b : Buffer) : (b.setData fill data).bytes = data := by
  have hreads : Reads (b.setData fill data) (({} : Contents).append (data.map some)) :=
    (reads_clear (b := b)).appendData (List.length_map ..) matches_known
  have hfound : Matches (data.map some) (b.setData fill data).bytes := hreads.bytes_found
  have hsize : data.length = (b.setData fill data).bytes.length := by
    rw [Buffer.length_bytes, ← hreads.size]
    simp [Contents.append]
  exact (hfound.eq hsize).symm

lemma Holds.length_eq (h : q.Holds hand packets) : q.queue.length = packets.length := by
  have hlength := congrArg List.length h.packets
  rwa [List.length_map, List.length_map] at hlength

/-- Buffers change places. -/
lemma Holds.rearrange {queue freeList : List Nat} (h : q.Holds hand packets)
    (hperm : (hand' ++ queue ++ freeList).Perm (hand ++ q.queue ++ q.freeList))
    (hpackets : queue.map (fun p => (q.heap p).map Buffer.bytes) = packets'.map some) :
    Holds { q with queue := queue, freeList := freeList } hand' packets' where
  packets := hpackets
  nodup := hperm.nodup_iff.mpr h.nodup
  live p := (h.live p).trans hperm.mem_iff.symm
  room := hperm.length_eq ▸ h.room

lemma Holds.recycle (h : q.Holds [] packets) (hp : q.freeList.getLast? = some p) :
    Holds { q with freeList := q.freeList.dropLast } [p] packets := by
  have hlast : q.freeList.dropLast ++ [p] = q.freeList := List.dropLast_append_getLast? p hp
  refine h.rearrange ?_ h.packets
  conv_rhs => rw [← hlast]
  rw [List.nil_append, ← List.append_assoc, List.append_assoc [p]]
  exact List.perm_append_comm

lemma Holds.allocate (h : q.Holds [] packets) (hnone : q.freeList.getLast? = none)
    (hfull : q.queue.length ≠ q.capacity) (hp : q.heap p = none) (b : Buffer) :
    Holds { q with heap := update q.heap p (some b) } [p] packets := by
  have hfree : q.freeList = [] := List.getLast?_eq_none_iff.mp hnone
  have hnew : p ∉ q.queue := by
    intro hmem
    have hlive := (h.live p).mpr (by simp [hmem])
    rw [hp] at hlive
    cases hlive
  have hnodup := h.nodup
  have hroom := h.room
  simp only [hfree, List.nil_append, List.append_nil] at hnodup hroom
  constructor
  · rw [← h.packets]
    refine List.map_congr_left fun r hr => ?_
    have hne : r ≠ p := fun heq => hnew (heq ▸ hr)
    dsimp only
    rw [update_of_ne hne]
  · simpa [hfree] using ⟨hnew, hnodup⟩
  · intro r
    by_cases hr : r = p
    · subst hr
      simp
    · dsimp only
      rw [update_of_ne hr, h.live]
      simp [hr]
  · simp only [hfree, List.singleton_append, List.append_nil, List.length_cons]
    omega

/-- The buffer in hand takes the packet. -/
lemma Holds.fillPacket (h : q.Holds [p] packets) (fill : Nat → UInt8) (data : Bytes) :
    ∃ q', fillPacket fill data p q = .ok (.written true, q') ∧ q'.Holds [] (packets ++ [data]) ∧
      q'.capacity = q.capacity := by
  obtain ⟨b, hb⟩ := Option.isSome_iff_exists.mp ((h.live p).mpr (by simp))
  have hnew : p ∉ q.queue := by
    have hnodup := h.nodup
    rw [List.append_assoc, List.singleton_append, List.nodup_cons] at hnodup
    exact fun hmem => hnodup.1 (List.mem_append_left _ hmem)
  refine ⟨{ q with
    heap := update q.heap p (some (b.setData fill data))
    queue := q.queue ++ [p] }, ?_, ?_, rfl⟩
  · rw [BufferQueue.fillPacket, load, hb]
    rfl
  · have hperm : ([] ++ (q.queue ++ [p]) ++ q.freeList).Perm ([p] ++ q.queue ++ q.freeList) := by
      rw [List.nil_append]
      exact List.perm_append_comm.append_right _
    refine ⟨?_, hperm.nodup_iff.mpr h.nodup, fun r => ?_, hperm.length_eq ▸ h.room⟩
    · rw [List.map_append, List.map_append, ← h.packets]
      dsimp only
      congr 1
      · refine List.map_congr_left fun r hr => ?_
        have hne : r ≠ p := fun heq => hnew (heq ▸ hr)
        rw [update_of_ne hne]
      · simp [bytes_setData]
    · exact (Bool.eq_iff_iff.mp (isSome_update_some (hb ▸ rfl) _ r)).trans
        ((h.live r).trans hperm.mem_iff.symm)

/-- The answer that `r` gives is that of the list of packets, and the queue goes on to hold it. -/
def Agrees (q : BufferQueue) (packets : List Bytes) (call : QueueCall)
    (r : Except BufferFault (QueueAnswer × BufferQueue)) : Prop :=
  ∃ q', r = .ok ((call.apply q.capacity packets).1, q') ∧
    q'.Holds [] (call.apply q.capacity packets).2 ∧ q'.capacity = q.capacity

lemma Holds.writeBack (h : q.Holds [] packets) (hp : q.heap p = none) (fill : Nat → UInt8)
    (data : Bytes) : q.Agrees packets (.writeBack data) (q.writeBack p fill data) := by
  unfold BufferQueue.writeBack Agrees QueueCall.apply
  rw [h.length_eq]
  dsimp only
  by_cases hfull : packets.length = q.capacity
  · rw [if_pos hfull, if_pos hfull]
    exact ⟨q, rfl, h, rfl⟩
  · rw [if_neg hfull, if_neg hfull]
    cases hlast : q.freeList.getLast? with
    | some packet => exact (h.recycle hlast).fillPacket fill data
    | none => exact (h.allocate hlast (h.length_eq ▸ hfull) hp _).fillPacket fill data

lemma Holds.readFront (h : q.Holds [] packets) (bytes : Nat) :
    q.Agrees packets (.readFront bytes) (q.readFront bytes) := by
  unfold BufferQueue.readFront Agrees QueueCall.apply
  have hpackets := h.packets
  cases hqueue : q.queue with
  | nil =>
    rw [hqueue] at hpackets
    cases packets with
    | nil => exact ⟨q, rfl, h, rfl⟩
    | cons d packets => simp at hpackets
  | cons packet queue =>
    rw [hqueue] at hpackets
    cases packets with
    | nil => simp at hpackets
    | cons d packets =>
      rw [List.map_cons, List.map_cons, List.cons.injEq] at hpackets
      obtain ⟨b, hb, hbytes⟩ := Option.map_eq_some_iff.mp hpackets.1
      have hload : load q.heap packet = .ok b := by rw [load, hb]
      have hread : b.data.take (min bytes b.size) = d.take bytes := by
        rw [← hbytes, Buffer.bytes, List.take_take]
      refine ⟨{ q with queue, freeList := q.freeList ++ [packet] }, ?_, ?_, rfl⟩
      · dsimp only
        rw [hload]
        change Except.ok (QueueAnswer.read (some (b.data.take (min bytes b.size))), _) = _
        rw [hread]
        rfl
      · refine h.rearrange ?_ hpackets.2
        rw [hqueue, List.nil_append, List.nil_append, ← List.append_assoc, List.cons_append]
        exact List.perm_append_comm

lemma Holds.clear (h : q.Holds [] packets) : q.clear.Holds [] [] := by
  refine h.rearrange ?_ rfl
  rw [List.nil_append, List.nil_append, List.nil_append]
  exact List.perm_append_comm

/-- No call goes to a deleted buffer, and each returns what it would of a list of packets. -/
theorem Holds.step {e : QueueEvent} (h : q.Holds [] packets) (hp : q.heap e.address = none) :
    q.Agrees packets e.call (q.step e) := by
  unfold BufferQueue.step
  cases e.call with
  | writeBack data => exact h.writeBack hp e.fill data
  | readFront bytes => exact h.readFront bytes
  | clear => exact ⟨q.clear, rfl, h.clear, rfl⟩

lemma holds_initial : Holds { capacity, defaultSize } [] [] where
  packets := rfl
  nodup := List.nodup_nil
  live p := by simp
  room := Nat.zero_le _

lemma queueRun_snoc (capacity : Nat) (calls : List QueueCall) (call : QueueCall) :
    queueRun capacity (calls ++ [call]) =
      ((queueRun capacity calls).1 ++ [(call.apply capacity (queueRun capacity calls).2).1],
        (call.apply capacity (queueRun capacity calls).2).2) := by
  rw [queueRun, List.foldl_append]
  rfl

/-- The step lemma along a run. -/
lemma holds_of_leads (hrun : Leads Steps { capacity, defaultSize } es q) :
    q.Holds [] (queueRun capacity (es.map (·.call))).2 ∧ q.capacity = capacity ∧
      es.map (·.answer) = (queueRun capacity (es.map (·.call))).1 := by
  refine hrun.invariant (J := fun es q => q.Holds [] (queueRun capacity (es.map (·.call))).2 ∧
    q.capacity = capacity ∧ es.map (·.answer) = (queueRun capacity (es.map (·.call))).1)
    ⟨holds_initial, rfl, rfl⟩ ?_
  rintro es q e q' ⟨h, hcapacity, hanswers⟩ ⟨hp, hstep⟩
  obtain ⟨q'', heq, h', hcapacity'⟩ := h.step hp
  rw [hstep, Except.ok.injEq, Prod.mk.injEq] at heq
  obtain ⟨hanswer, rfl⟩ := heq
  rw [hcapacity] at hanswer h' hcapacity'
  rw [List.map_append, List.map_append, List.map_singleton, List.map_singleton, queueRun_snoc]
  exact ⟨h', hcapacity', by rw [hanswers, hanswer]⟩

lemma heap_fillPacket {packet : Nat} {answer : QueueAnswer}
    (h : fillPacket fill data packet q = .ok (answer, q')) :
    ∃ b, q'.heap = update q.heap packet (some b) := by
  obtain ⟨b, -, heq⟩ := map_eq_ok.mp h
  cases heq
  exact ⟨_, rfl⟩

/-- No call deletes a buffer. -/
lemma isSome_step {e : QueueEvent} {answer : QueueAnswer} (hstep : q.step e = .ok (answer, q'))
    (hp : (q.heap p).isSome) : (q'.heap p).isSome := by
  unfold BufferQueue.step at hstep
  cases hcall : e.call with
  | writeBack data =>
    rw [hcall] at hstep
    dsimp only at hstep
    unfold BufferQueue.writeBack at hstep
    split at hstep
    · cases hstep
      exact hp
    · split at hstep
      · obtain ⟨b, hb⟩ := heap_fillPacket hstep
        rw [hb]
        exact isSome_update_of_isSome hp _ b
      · obtain ⟨b, hb⟩ := heap_fillPacket hstep
        rw [hb]
        exact isSome_update_of_isSome (isSome_update_of_isSome hp _ _) _ b
  | readFront bytes =>
    rw [hcall] at hstep
    dsimp only at hstep
    unfold BufferQueue.readFront at hstep
    split at hstep
    · cases hstep
      exact hp
    · obtain ⟨b, -, heq⟩ := map_eq_ok.mp hstep
      cases heq
      exact hp
  | clear =>
    rw [hcall] at hstep
    cases hstep
    exact hp

/-- Each buffer is deleted once. -/
lemma foldlM_delete (ps : List Nat) (heap : Nat → Option Buffer) (hnodup : ps.Nodup)
    (hlive : ∀ p ∈ ps, (heap p).isSome) : ps.foldlM (fun heap p =>
      (load heap p).map fun _ => update heap p none) heap =
        .ok fun p => if p ∈ ps then none else heap p := by
  induction ps generalizing heap with
  | nil => simp [pure, Except.pure]
  | cons r ps ih =>
    obtain ⟨hr, hnodup⟩ := List.nodup_cons.mp hnodup
    obtain ⟨b, hb⟩ := Option.isSome_iff_exists.mp (hlive r List.mem_cons_self)
    have hload : load heap r = .ok b := by rw [load, hb]
    have hrest : ∀ p ∈ ps, (update heap r none p).isSome := by
      intro p hp
      have hne : p ≠ r := fun heq => hr (heq ▸ hp)
      rw [update_of_ne hne]
      exact hlive p (List.mem_cons_of_mem _ hp)
    rw [List.foldlM_cons, hload]
    refine (ih _ hnodup hrest).trans ?_
    congr 1
    funext p
    by_cases hp : p = r
    · simp [hp]
    · simp [hp]

/-- In every run the calls return what they would of a list of at most `capacity` packets, cut to
the room that a reader has; the packets that wait are in the buffers as they were written; no call
goes to a deleted buffer and none deletes one; there are at most `capacity` buffers, which are all
that were ever made, and the destructor deletes each of them once. -/
theorem bufferQueue_fifo (hrun : Leads Steps { capacity, defaultSize } es q) :
    es.map (·.answer) = (queueRun capacity (es.map (·.call))).1 ∧
      q.queue.map (fun p => (q.heap p).map Buffer.bytes) =
        (queueRun capacity (es.map (·.call))).2.map some ∧
      (∀ e, q.heap e.address = none → ∃ answer q', q.step e = .ok (answer, q') ∧
        ∀ p, (q.heap p).isSome → (q'.heap p).isSome) ∧
      (∃ ps : List Nat, ps.Nodup ∧ ps.length ≤ capacity ∧ ∀ p, (q.heap p).isSome ↔ p ∈ ps) ∧
      q.destroy = .ok fun _ => none := by
  obtain ⟨h, hcapacity, hanswers⟩ := holds_of_leads hrun
  refine ⟨hanswers, h.packets, fun e hp => ?_,
    ⟨_, h.nodup, hcapacity ▸ h.room, h.live⟩, ?_⟩
  · obtain ⟨q', hstep, -⟩ := h.step hp
    exact ⟨_, q', hstep, fun p => isSome_step hstep⟩
  · refine (foldlM_delete _ _ h.nodup fun p hp => (h.live p).mpr hp).trans ?_
    congr 1
    funext p
    split
    · rfl
    · rename_i hp
      exact Option.not_isSome_iff_eq_none.mp (mt (h.live p).mp hp)

/-- A run that can be executed. -/
def exec (q : BufferQueue) (e : QueueEvent) : Option BufferQueue :=
  match q.heap e.address, q.step e with
  | none, .ok (answer, q') => if answer = e.answer then some q' else none
  | _, _ => none

lemma steps_of_exec (q : BufferQueue) (e : QueueEvent) (q' : BufferQueue)
    (h : exec q e = some q') : Steps q e q' := by
  unfold exec at h
  split at h
  · rename_i hp hstep
    split at h
    · rename_i hanswer
      rw [← Option.some.inj h]
      exact ⟨hp, hstep.trans (by rw [hanswer])⟩
    · cases h
  · cases h

/-- The third packet finds the queue full, and the fourth is put into the buffer of the first. -/
def samplePackets : List QueueEvent :=
  [{ call := .writeBack [1, 2], answer := .written true, address := 0 },
    { call := .writeBack [3], answer := .written true, address := 1 },
    { call := .writeBack [4], answer := .written false, address := 2 },
    { call := .readFront 1, answer := .read (some [1]), address := 2 },
    { call := .writeBack [5, 6, 7], answer := .written true, address := 2 },
    { call := .readFront 9, answer := .read (some [3]), address := 2 }]

theorem samplePackets_fifo : ∃ q, Leads Steps { capacity := 2, defaultSize := 4 } samplePackets q ∧
    samplePackets.map (·.answer) = (queueRun 2 (samplePackets.map (·.call))).1 ∧
      q.queue.map (fun p => (q.heap p).map Buffer.bytes) =
        (queueRun 2 (samplePackets.map (·.call))).2.map some ∧
      (∀ e, q.heap e.address = none → ∃ answer q', q.step e = .ok (answer, q') ∧
        ∀ p, (q.heap p).isSome → (q'.heap p).isSome) ∧
      (∃ ps : List Nat, ps.Nodup ∧ ps.length ≤ 2 ∧ ∀ p, (q.heap p).isSome ↔ p ∈ ps) ∧
      q.destroy = .ok fun _ => none := by
  have hrun : (samplePackets.foldlM exec { capacity := 2, defaultSize := 4 }).isSome = true := by
    decide
  obtain ⟨q, hq⟩ := Option.isSome_iff_exists.mp hrun
  have hleads := leads_of_foldlM steps_of_exec hq
  exact ⟨q, hleads, bufferQueue_fifo hleads⟩

end BufferQueue

end XrtcServer.Base
