import Mathlib.Data.List.Forall2
import XrtcServer.Base.BufferQueue
import XrtcServer.Pc.DtlsRecords

/-!
# Datagrams on their way to TLS

A `StreamInterfaceChannel` keeps the DTLS datagrams that come in until the TLS library reads them.
Two may wait. `QueueCall.apply` says what becomes of them in its `BufferQueue`.
-/

namespace XrtcServer.Pc
open XrtcServer.Base XrtcServer.Core

def kMaxDtlsPacketLen : Nat := 2048

/-- `rtc::StreamState` -/
inductive StreamState
  | ssClosed
  | ssOpening
  | ssOpen
  deriving DecidableEq, Repr

inductive StreamCall
  | onReceivedPacket (data : Bytes)
  | read (bufferLen : Nat)
  | close

/-- What `Read` returns, with the octets that it has read. -/
inductive ReadOutcome
  | success (data : Bytes)
  | block
  | eos
  deriving DecidableEq, Repr

/-- A call with what `Read` returned and with what is needed for a new buffer. -/
structure StreamEvent where
  call : StreamCall
  outcome : Option ReadOutcome := none
  address : Nat := 0
  fill : Nat → UInt8 := fun _ => 0

/-- A `StreamInterfaceChannel` with its queue. -/
structure StreamInterface where
  state : StreamState := .ssOpen
  packets : BufferQueue := { capacity := kMaxPendingPackets, defaultSize := kMaxDtlsPacketLen }

namespace StreamInterface

def onReceivedPacket (p : Nat) (fill : Nat → UInt8) (data : Bytes) (s : StreamInterface) :
    Except BufferFault StreamInterface :=
  (s.packets.writeBack p fill data).map fun r => { s with packets := r.2 }

def read (bufferLen : Nat) (s : StreamInterface) :
    Except BufferFault (ReadOutcome × StreamInterface) :=
  match s.state with
  | .ssClosed => .ok (.eos, s)
  | .ssOpening => .ok (.block, s)
  | .ssOpen => (s.packets.readFront bufferLen).map fun r =>
      match r.1 with
      | .read (some data) => (.success data, { s with packets := r.2 })
      | _ => (.block, { s with packets := r.2 })

def close (s : StreamInterface) : StreamInterface :=
  { state := .ssClosed, packets := s.packets.clear }

def step (s : StreamInterface) (e : StreamEvent) :
    Except BufferFault (Option ReadOutcome × StreamInterface) :=
  match e.call with
  | .onReceivedPacket data => (s.onReceivedPacket e.address e.fill data).map fun s => (none, s)
  | .read bufferLen => (s.read bufferLen).map fun r => (some r.1, r.2)
  | .close => .ok (none, s.close)

def Steps (s : StreamInterface) (e : StreamEvent) (s' : StreamInterface) : Prop :=
  s.packets.heap e.address = none ∧ s.step e = .ok (e.outcome, s')

end StreamInterface

/-- The datagram that comes in. -/
def StreamEvent.datagram (e : StreamEvent) : Option Bytes :=
  match e.call with
  | .onReceivedPacket data => some data
  | _ => none

/-- What is read. -/
def StreamEvent.octets (e : StreamEvent) : Option Bytes :=
  match e.outcome with
  | some (.success data) => some data
  | _ => none

/-- What becomes of the datagrams: they are taken in whole or in part, wait, or were lost because
two others waited or the channel was closed. -/
structure StreamView where
  isOpen : Bool := true
  taken : List Bytes := []
  waiting : List Bytes := []
  lost : List Bytes := []

def StreamView.apply (v : StreamView) : StreamCall → StreamView
  | .onReceivedPacket data =>
    if v.waiting.length = kMaxPendingPackets then { v with lost := v.lost ++ [data] }
    else { v with waiting := v.waiting ++ [data] }
  | .read _ =>
    match v.isOpen, v.waiting with
    | true, d :: waiting => { v with taken := v.taken ++ [d], waiting := waiting }
    | _, _ => v
  | .close => { v with isOpen := false, waiting := [], lost := v.lost ++ v.waiting }

def streamView (es : List StreamEvent) : StreamView :=
  (es.map (·.call)).foldl StreamView.apply {}

/-- The channel is as the view says. -/
structure StreamInterface.Carries (s : StreamInterface) (es : List StreamEvent)
    (v : StreamView) : Prop where
  holds : s.packets.Holds [] v.waiting
  capacity : s.packets.capacity = kMaxPendingPackets
  state : s.state = if v.isOpen then .ssOpen else .ssClosed
  read : List.Forall₂ (· <+: ·) (es.filterMap (·.octets)) v.taken
  order : (v.taken ++ v.waiting).Sublist (es.filterMap (·.datagram))
  account : (v.taken ++ v.waiting ++ v.lost).Perm (es.filterMap (·.datagram))

variable {s s' : StreamInterface} {es : List StreamEvent} {e : StreamEvent} {v : StreamView}
  {p bufferLen : Nat} {data : Bytes}

lemma StreamInterface.carries_initial : Carries {} [] {} where
  holds := BufferQueue.holds_initial
  capacity := rfl
  state := rfl
  read := .nil
  order := List.nil_sublist _
  account := .nil

/-- `on_received_packet` does to the queue what the walk over the records takes it to do. -/
theorem StreamInterface.onReceivedPacket_refines {c : StreamInterfaceChannel}
    (h : s.packets.Holds [] c.packets) (hcapacity : s.packets.capacity = kMaxPendingPackets)
    (hp : s.packets.heap p = none) (fill : Nat → UInt8) (data : Bytes) :
    ∃ s', s.onReceivedPacket p fill data = .ok s' ∧ s'.state = s.state ∧
      s'.packets.Holds [] (c.onReceivedPacket data).2.packets ∧
      s'.packets.capacity = kMaxPendingPackets := by
  obtain ⟨q, hq, hholds, hkept⟩ := h.writeBack hp fill data
  have hqueue : ((QueueCall.writeBack data).apply s.packets.capacity c.packets).2 =
      (c.onReceivedPacket data).2.packets := by
    rw [hcapacity]
    unfold QueueCall.apply StreamInterfaceChannel.onReceivedPacket
    dsimp only
    split <;> rfl
  refine ⟨{ s with packets := q }, ?_, rfl, hqueue ▸ hholds, hkept.trans hcapacity⟩
  rw [StreamInterface.onReceivedPacket, hq]
  rfl

lemma perm_account {taken waiting lost received : List Bytes} {d : Bytes}
    (h : (taken ++ waiting ++ lost).Perm received) :
    (taken ++ (waiting ++ [d]) ++ lost).Perm (received ++ [d]) := by
  have hmoved : (taken ++ (waiting ++ [d]) ++ lost).Perm (taken ++ waiting ++ lost ++ [d]) := by
    simp only [List.append_assoc]
    exact ((List.perm_append_comm.append_left waiting).append_left taken)
  exact hmoved.trans (h.append_right _)

lemma StreamInterface.Carries.receive (h : s.Carries es v) (hcall : e.call = .onReceivedPacket data)
    (hp : s.packets.heap e.address = none) : ∃ s',
      s.onReceivedPacket e.address e.fill data = .ok s' ∧
        (e.outcome = none → s'.Carries (es ++ [e]) (v.apply (.onReceivedPacket data))) := by
  obtain ⟨s', hs', hstate, hholds, hcapacity⟩ := StreamInterface.onReceivedPacket_refines
    (c := { packets := v.waiting }) h.holds h.capacity hp e.fill data
  refine ⟨s', hs', fun hnone => ?_⟩
  have hoctets : (es ++ [e]).filterMap (·.octets) = es.filterMap (·.octets) := by
    simp [StreamEvent.octets, hnone]
  have hdatagrams : (es ++ [e]).filterMap (·.datagram) = es.filterMap (·.datagram) ++ [data] := by
    simp [StreamEvent.datagram, hcall]
  unfold StreamInterfaceChannel.onReceivedPacket at hholds
  unfold StreamView.apply
  dsimp only at hholds ⊢
  split <;> rename_i hfull
  · rw [if_pos hfull] at hholds
    refine ⟨hholds, hcapacity, hstate.trans h.state, hoctets ▸ h.read, ?_, ?_⟩
    · exact hdatagrams ▸ h.order.trans (List.sublist_append_left ..)
    · rw [hdatagrams, ← List.append_assoc]
      exact h.account.append_right _
  · rw [if_neg hfull] at hholds
    refine ⟨hholds, hcapacity, hstate.trans h.state, hoctets ▸ h.read, ?_, ?_⟩
    · rw [hdatagrams, ← List.append_assoc]
      exact h.order.append_right _
    · rw [hdatagrams]
      exact perm_account h.account

/-- A read that gets nothing changes nothing of the view. -/
lemma StreamInterface.Carries.stays {q : BufferQueue} {outcome : ReadOutcome} (h : s.Carries es v)
    (hcall : e.call = .read bufferLen) (hq : q.Holds [] v.waiting)
    (hcapacity : q.capacity = kMaxPendingPackets) (hne : ∀ d, outcome ≠ .success d)
    (houtcome : some outcome = e.outcome) :
    Carries { s with packets := q } (es ++ [e]) v := by
  have hdatagrams : (es ++ [e]).filterMap (·.datagram) = es.filterMap (·.datagram) := by
    simp [StreamEvent.datagram, hcall]
  have hoctets : (es ++ [e]).filterMap (·.octets) = es.filterMap (·.octets) := by
    cases outcome with
    | success d => exact absurd rfl (hne d)
    | block => simp [StreamEvent.octets, ← houtcome]
    | eos => simp [StreamEvent.octets, ← houtcome]
  exact ⟨hq, hcapacity, h.state, hoctets ▸ h.read, hdatagrams ▸ h.order, hdatagrams ▸ h.account⟩

/-- A read that gets the datagram that came first. -/
lemma StreamInterface.Carries.takes {q : BufferQueue} {d : Bytes} {waiting : List Bytes}
    (h : s.Carries es v) (hcall : e.call = .read bufferLen) (hwaiting : v.waiting = d :: waiting)
    (hq : q.Holds [] waiting) (hcapacity : q.capacity = kMaxPendingPackets)
    (houtcome : some (.success (d.take bufferLen)) = e.outcome) :
    Carries { s with packets := q } (es ++ [e])
      { v with taken := v.taken ++ [d], waiting := waiting } := by
  have hdatagrams : (es ++ [e]).filterMap (·.datagram) = es.filterMap (·.datagram) := by
    simp [StreamEvent.datagram, hcall]
  have hoctets : (es ++ [e]).filterMap (·.octets) =
      es.filterMap (·.octets) ++ [d.take bufferLen] := by
    simp [StreamEvent.octets, ← houtcome]
  have hmoved : v.taken ++ [d] ++ waiting = v.taken ++ v.waiting := by
    rw [hwaiting, List.append_assoc, List.singleton_append]
  refine ⟨hq, hcapacity, h.state, ?_, ?_, ?_⟩
  · rw [hoctets]
    exact List.rel_append h.read (.cons (List.take_prefix ..) .nil)
  · rw [hdatagrams, hmoved]
    exact h.order
  · rw [hdatagrams, hmoved]
    exact h.account

lemma StreamInterface.Carries.reads (h : s.Carries es v) (hcall : e.call = .read bufferLen) :
    ∃ r, s.read bufferLen = .ok r ∧
      (some r.1 = e.outcome → r.2.Carries (es ++ [e]) (v.apply (.read bufferLen))) := by
  have hstate := h.state
  cases hopen : v.isOpen with
  | false =>
    rw [hopen, if_neg Bool.false_ne_true] at hstate
    have hread : s.read bufferLen = .ok (.eos, s) := by rw [StreamInterface.read, hstate]
    have hview : v.apply (.read bufferLen) = v := by simp only [StreamView.apply, hopen]
    refine ⟨_, hread, fun houtcome => ?_⟩
    rw [hview]
    exact h.stays hcall h.holds h.capacity (fun d hd => by cases hd) houtcome
  | true =>
    rw [hopen, if_pos rfl] at hstate
    obtain ⟨q, hq, hholds, hkept⟩ := h.holds.readFront bufferLen
    have hcapacity := hkept.trans h.capacity
    cases hwaiting : v.waiting with
    | nil =>
      rw [hwaiting] at hq hholds
      have hread : s.read bufferLen = .ok (.block, { s with packets := q }) := by
        rw [StreamInterface.read, hstate]
        dsimp only
        rw [hq]
        rfl
      have hview : v.apply (.read bufferLen) = v := by
        simp only [StreamView.apply, hopen, hwaiting]
      refine ⟨_, hread, fun houtcome => ?_⟩
      rw [hview]
      exact h.stays hcall (hwaiting ▸ hholds) hcapacity (fun d hd => by cases hd) houtcome
    | cons d waiting =>
      rw [hwaiting] at hq hholds
      have hread : s.read bufferLen =
          .ok (.success (d.take bufferLen), { s with packets := q }) := by
        rw [StreamInterface.read, hstate]
        dsimp only
        rw [hq]
        rfl
      have hview : v.apply (.read bufferLen) =
          { v with taken := v.taken ++ [d], waiting := waiting } := by
        simp only [StreamView.apply, hopen, hwaiting]
      refine ⟨_, hread, fun houtcome => ?_⟩
      rw [hview]
      exact h.takes hcall hwaiting hholds hcapacity houtcome

lemma StreamInterface.Carries.closes (h : s.Carries es v) (hcall : e.call = .close)
    (hnone : e.outcome = none) : s.close.Carries (es ++ [e]) (v.apply .close) := by
  have hdatagrams : (es ++ [e]).filterMap (·.datagram) = es.filterMap (·.datagram) := by
    simp [StreamEvent.datagram, hcall]
  have hoctets : (es ++ [e]).filterMap (·.octets) = es.filterMap (·.octets) := by
    simp [StreamEvent.octets, hnone]
  refine ⟨h.holds.clear, h.capacity, rfl, hoctets ▸ h.read, ?_, ?_⟩
  · rw [hdatagrams]
    change (v.taken ++ []).Sublist _
    rw [List.append_nil]
    exact (List.sublist_append_left ..).trans h.order
  · rw [hdatagrams]
    refine List.Perm.trans ?_ h.account
    simp only [StreamView.apply, List.append_assoc, List.nil_append]
    exact List.perm_append_comm.append_left _

/-- No call goes to a deleted buffer, and where it returns what the event says, the view goes on. -/
theorem StreamInterface.Carries.step (h : s.Carries es v) (hp : s.packets.heap e.address = none) :
    ∃ r, s.step e = .ok r ∧ (r.1 = e.outcome → r.2.Carries (es ++ [e]) (v.apply e.call)) := by
  unfold StreamInterface.step
  cases hcall : e.call with
  | onReceivedPacket data =>
    obtain ⟨s', hs', hnext⟩ := h.receive hcall hp
    dsimp only
    rw [hs']
    exact ⟨_, rfl, fun hnone => hnext hnone.symm⟩
  | read bufferLen =>
    obtain ⟨r, hr, hnext⟩ := h.reads hcall
    dsimp only
    rw [hr]
    exact ⟨_, rfl, hnext⟩
  | close => exact ⟨_, rfl, fun hnone => h.closes hcall hnone.symm⟩

lemma carries_of_leads (hrun : Leads StreamInterface.Steps {} es s) :
    s.Carries es (streamView es) := by
  refine hrun.invariant (J := fun es s => s.Carries es (streamView es))
    StreamInterface.carries_initial ?_
  rintro es s e s' h ⟨hp, hstep⟩
  obtain ⟨r, hr, hnext⟩ := h.step hp
  rw [hstep, Except.ok.injEq] at hr
  subst hr
  rw [streamView, List.map_append, List.foldl_append]
  exact hnext rfl

/-- In every run what TLS reads are the beginnings of datagrams that came in, in their order and
none twice; each datagram that came in was read, waits, or was lost because it came while two others
waited or because the channel was closed; no call goes to a deleted buffer, and there are never more
than two buffers. -/
theorem datagrams_accounted (hrun : Leads StreamInterface.Steps {} es s) :
    s.packets.queue.map (fun p => (s.packets.heap p).map Buffer.bytes) =
        (streamView es).waiting.map some ∧
      List.Forall₂ (· <+: ·) (es.filterMap (·.octets)) (streamView es).taken ∧
      ((streamView es).taken ++ (streamView es).waiting).Sublist (es.filterMap (·.datagram)) ∧
      ((streamView es).taken ++ (streamView es).waiting ++ (streamView es).lost).Perm
        (es.filterMap (·.datagram)) ∧
      (∀ e, s.packets.heap e.address = none → ∃ r, s.step e = .ok r) ∧
      ∃ ps : List Nat, ps.Nodup ∧ ps.length ≤ kMaxPendingPackets ∧
        ∀ p, (s.packets.heap p).isSome ↔ p ∈ ps := by
  have h := carries_of_leads hrun
  refine ⟨h.holds.packets, h.read, h.order, h.account, fun e hp => ?_,
    ⟨_, h.holds.nodup, h.capacity ▸ h.holds.room, h.holds.live⟩⟩
  obtain ⟨r, hr, -⟩ := h.step hp
  exact ⟨r, hr⟩

/-- A run that can be executed. -/
def StreamInterface.exec (s : StreamInterface) (e : StreamEvent) : Option StreamInterface :=
  match s.packets.heap e.address, s.step e with
  | none, .ok (outcome, s') => if outcome = e.outcome then some s' else none
  | _, _ => none

lemma steps_of_exec (s : StreamInterface) (e : StreamEvent) (s' : StreamInterface)
    (h : s.exec e = some s') : StreamInterface.Steps s e s' := by
  unfold StreamInterface.exec at h
  split at h
  · rename_i hp hstep
    split at h
    · rename_i houtcome
      rw [← Option.some.inj h]
      exact ⟨hp, hstep.trans (by rw [houtcome])⟩
    · cases h
  · cases h

/-- Of three datagrams that come in together the last is lost, and TLS reads part of the first. -/
def sampleDatagrams : List StreamEvent :=
  [{ call := .onReceivedPacket [22, 1] }, { call := .onReceivedPacket [22, 2], address := 1 },
    { call := .onReceivedPacket [22, 3], address := 2 },
    { call := .read 1, outcome := some (.success [22]), address := 2 },
    { call := .close, address := 2 }, { call := .read 9, outcome := some .eos, address := 2 }]

theorem sampleDatagrams_accounted : ∃ s, Leads StreamInterface.Steps {} sampleDatagrams s ∧
    (streamView sampleDatagrams).taken = [[22, 1]] ∧
    (streamView sampleDatagrams).lost = [[22, 3], [22, 2]] ∧
    s.packets.queue.map (fun p => (s.packets.heap p).map Buffer.bytes) =
        (streamView sampleDatagrams).waiting.map some ∧
      List.Forall₂ (· <+: ·) (sampleDatagrams.filterMap (·.octets))
        (streamView sampleDatagrams).taken ∧
      ((streamView sampleDatagrams).taken ++ (streamView sampleDatagrams).waiting).Sublist
        (sampleDatagrams.filterMap (·.datagram)) ∧
      ((streamView sampleDatagrams).taken ++ (streamView sampleDatagrams).waiting ++
        (streamView sampleDatagrams).lost).Perm (sampleDatagrams.filterMap (·.datagram)) ∧
      (∀ e, s.packets.heap e.address = none → ∃ r, s.step e = .ok r) ∧
      ∃ ps : List Nat, ps.Nodup ∧ ps.length ≤ kMaxPendingPackets ∧
        ∀ p, (s.packets.heap p).isSome ↔ p ∈ ps := by
  -- the kernel alone can walk through buffers of 2048 octets
  have hrun : (sampleDatagrams.foldlM StreamInterface.exec {}).isSome = true := by
    decide +kernel
  obtain ⟨s, hs⟩ := Option.isSome_iff_exists.mp hrun
  have hleads := leads_of_foldlM steps_of_exec hs
  exact ⟨s, hleads, rfl, rfl, datagrams_accounted hleads⟩

end XrtcServer.Pc
