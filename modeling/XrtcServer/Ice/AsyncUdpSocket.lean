import XrtcServer.Core.Run
import XrtcServer.Ice.Connection

/-!
# Sending datagrams

`AsyncUdpSocket` keeps the datagrams that the kernel would not take. `send_to` and the write event
both offer the list to the kernel from the front. Every call of `sendto` is logged with the number
of the datagram that it is for; a datagram has the number of its `send_to`.
-/

namespace XrtcServer.Ice
open XrtcServer.Base XrtcServer.Core

structure UdpPacketData where
  number : Nat
  data : Bytes
  addr : SocketAddress
  deriving DecidableEq, Repr

/-- What the kernel does with a datagram. -/
inductive Answer
  | sent
  | wouldBlock
  | error
  deriving DecidableEq, Repr

/-- What `sendto` returns. -/
def sendto (packet : UdpPacketData) : Answer → Int
  | .sent => packet.data.length
  | .wouldBlock => -1
  | .error => -1

/-- `sock_send_to` -/
def sockSendTo (packet : UdpPacketData) (answer : Answer) : Int :=
  let sent := toInt (sendto packet answer)
  if sent < 0 then if answer = .wouldBlock then 0 else -1
  else if sent = 0 then -1
  else sent

abbrev SendLog := List (Nat × Answer)

structure AsyncUdpSocket where
  udpPacketList : List UdpPacketData := []
  /-- The socket is watched for `EventLoop::WRITE`. -/
  writeActive : Bool := false
  log : SendLog := []
  /-- What the calls of `send_to` have returned. -/
  returned : List Int := []
  deriving DecidableEq, Repr

/-- How a loop over `_udp_packet_list` ends. -/
inductive DrainEnd
  | emptied
  | failed
  | again
  deriving DecidableEq, Repr

/-- The loop of `send_data` and of `_add_udp_packet`. The kernel answers the call number `n` by
`kernel n`. -/
def drain (kernel : Nat → Answer) :
    List UdpPacketData → SendLog → DrainEnd × List UdpPacketData × SendLog
  | [], log => (.emptied, [], log)
  | packet :: packets, log =>
    let answer := kernel log.length
    let sent := sockSendTo packet answer
    let log := log ++ [(packet.number, answer)]
    if sent < 0 then (.failed, packets, log)
    else if sent = 0 then (.again, packet :: packets, log)
    else drain kernel packets log

namespace AsyncUdpSocket

def sendData (kernel : Nat → Answer) (s : AsyncUdpSocket) : AsyncUdpSocket :=
  let (drainEnd, packets, log) := drain kernel s.udpPacketList s.log
  let s := { s with udpPacketList := packets, log }
  match drainEnd with
  | .emptied => { s with writeActive := false }
  | .failed => s
  | .again => s

/-- The end of `_add_udp_packet` from `SEND_AGAIN` on. -/
def sendAgain (packet : UdpPacketData) (s : AsyncUdpSocket) : Int × AsyncUdpSocket :=
  (toInt packet.data.length,
    { s with udpPacketList := s.udpPacketList ++ [packet], writeActive := true })

/-- The part of `_add_udp_packet` that sends the datagram itself. -/
def sendCurrent (kernel : Nat → Answer) (packet : UdpPacketData) (s : AsyncUdpSocket) :
    Int × AsyncUdpSocket :=
  let answer := kernel s.log.length
  let sent := sockSendTo packet answer
  let s := { s with log := s.log ++ [(packet.number, answer)] }
  if sent < 0 then (-1, s) else if sent = 0 then sendAgain packet s else (sent, s)

def addUdpPacket (kernel : Nat → Answer) (packet : UdpPacketData) (s : AsyncUdpSocket) :
    Int × AsyncUdpSocket :=
  let (drainEnd, packets, log) := drain kernel s.udpPacketList s.log
  let s := { s with udpPacketList := packets, log }
  match drainEnd with
  | .failed => (-1, s)
  | .again => sendAgain packet s
  | .emptied => sendCurrent kernel packet s

def sendTo (kernel : Nat → Answer) (data : Bytes) (addr : SocketAddress) (s : AsyncUdpSocket) :
    AsyncUdpSocket :=
  let (ret, s) := addUdpPacket kernel ⟨s.returned.length, data, addr⟩ s
  { s with returned := s.returned ++ [ret] }

end AsyncUdpSocket

inductive UdpEvent
  | sendTo (data : Bytes) (addr : SocketAddress)
  | write
  deriving DecidableEq, Repr

open AsyncUdpSocket in
/-- The transition relation of a socket whose kernel answers by `kernel`. The write event comes while
it is watched for. -/
def UdpStep (kernel : Nat → Answer) (s : AsyncUdpSocket) (e : UdpEvent) (t : AsyncUdpSocket) :
    Prop :=
  match e with
  | .sendTo data addr => t = s.sendTo kernel data addr
  | .write => s.writeActive = true ∧ t = s.sendData kernel

/-! ## What the kernel did -/

variable {kernel : Nat → Answer} {packet : UdpPacketData} {packets : List UdpPacketData}
  {log : SendLog} {answer : Answer}

/-- The numbers of the datagrams that the kernel has taken, in that order. -/
def handed (log : SendLog) : List Nat := (log.filter (·.2 = .sent)).map Prod.fst

/-- The kernel has refused the datagram. -/
def Failed (log : SendLog) (i : Nat) : Prop := (i, .error) ∈ log

def numbers (packets : List UdpPacketData) : List Nat := packets.map UdpPacketData.number

/-- The kernel takes the datagram, and `sendto` returns a positive number. -/
def Accepted (packet : UdpPacketData) (answer : Answer) : Prop :=
  answer = .sent ∧ 0 < toInt packet.data.length

/-- `sendto` fails, or the number that it returns is not positive. -/
def Refused (packet : UdpPacketData) (answer : Answer) : Prop :=
  answer = .error ∨ answer = .sent ∧ toInt packet.data.length ≤ 0

lemma sockSendTo_sent (packet : UdpPacketData) : sockSendTo packet .sent =
    if 0 < toInt packet.data.length then toInt packet.data.length else -1 := by
  unfold sockSendTo sendto
  dsimp only
  rcases lt_trichotomy (toInt packet.data.length) 0 with h | h | h
  · rw [if_pos h, if_neg (by decide), if_neg h.not_gt]
  · rw [if_neg (by omega), if_pos h, if_neg (by omega)]
  · rw [if_neg (by omega), if_neg (by omega), if_pos h]

lemma sockSendTo_wouldBlock (packet : UdpPacketData) : sockSendTo packet .wouldBlock = 0 := rfl

lemma sockSendTo_error (packet : UdpPacketData) : sockSendTo packet .error = -1 := rfl

/-- What comes of a datagram that is offered to the kernel. -/
lemma offered_cases (packet : UdpPacketData) (answer : Answer) :
    (sockSendTo packet answer < 0 ∧ Refused packet answer) ∨
      (sockSendTo packet answer = 0 ∧ answer = .wouldBlock) ∨
        0 < sockSendTo packet answer ∧ Accepted packet answer := by
  cases answer with
  | sent =>
    rw [sockSendTo_sent]
    by_cases h : 0 < toInt packet.data.length
    · rw [if_pos h]
      exact .inr (.inr ⟨h, rfl, h⟩)
    · rw [if_neg h]
      exact .inl ⟨by decide, .inr ⟨rfl, Int.not_lt.mp h⟩⟩
  | wouldBlock => exact .inr (.inl ⟨sockSendTo_wouldBlock packet, rfl⟩)
  | error => exact .inl ⟨by rw [sockSendTo_error]; decide, .inl rfl⟩

/-! ## What the loop does -/

/-- The loop from `packets` and `log` on, turn by turn. -/
inductive Drains (kernel : Nat → Answer) : List UdpPacketData → SendLog → DrainEnd →
    List UdpPacketData → SendLog → Prop
  | emptied {log : SendLog} : Drains kernel [] log .emptied [] log
  | failed {packet : UdpPacketData} {packets : List UdpPacketData} {log : SendLog}
      (h : Refused packet (kernel log.length)) :
      Drains kernel (packet :: packets) log .failed packets
        (log ++ [(packet.number, kernel log.length)])
  | again {packet : UdpPacketData} {packets : List UdpPacketData} {log : SendLog}
      (h : kernel log.length = .wouldBlock) :
      Drains kernel (packet :: packets) log .again (packet :: packets)
        (log ++ [(packet.number, .wouldBlock)])
  | sent {packet : UdpPacketData} {packets packets' : List UdpPacketData} {log log' : SendLog}
      {drainEnd : DrainEnd} (h : Accepted packet (kernel log.length))
      (hrest : Drains kernel packets (log ++ [(packet.number, .sent)]) drainEnd packets' log') :
      Drains kernel (packet :: packets) log drainEnd packets' log'

lemma drains_drain (kernel : Nat → Answer) (packets : List UdpPacketData) (log : SendLog) :
    Drains kernel packets log (drain kernel packets log).1 (drain kernel packets log).2.1
      (drain kernel packets log).2.2 := by
  induction packets generalizing log with
  | nil => exact .emptied
  | cons packet packets ih =>
    rw [drain]
    rcases offered_cases packet (kernel log.length) with ⟨hneg, h⟩ | ⟨hzero, h⟩ | ⟨hpos, h⟩
    · rw [if_pos hneg]
      exact .failed h
    · rw [if_neg (by omega), if_pos hzero, h]
      exact .again h
    · rw [if_neg (by omega), if_neg (by omega)]
      have hrest := ih (log ++ [(packet.number, .sent)])
      rw [← h.1] at hrest
      exact .sent h (h.1 ▸ hrest)

/-- Some datagram of the list is refused, after all before it were accepted. -/
def RefusesOne (kernel : Nat → Answer) : List UdpPacketData → Nat → Prop
  | [], _ => False
  | packet :: packets, n =>
    Refused packet (kernel n) ∨ Accepted packet (kernel n) ∧ RefusesOne kernel packets (n + 1)

/-- The whole list is accepted. -/
def TakesAll (kernel : Nat → Answer) : List UdpPacketData → Nat → Prop
  | [], _ => True
  | packet :: packets, n => Accepted packet (kernel n) ∧ TakesAll kernel packets (n + 1)

variable {packets' : List UdpPacketData} {log' : SendLog} {drainEnd : DrainEnd} {n i : Nat}

lemma not_accepted_of_refused (h : Refused packet answer) : ¬ Accepted packet answer := by
  rintro ⟨rfl, hpos⟩
  rcases h with h | ⟨-, h⟩
  · cases h
  · omega

/-- How the loop ends is decided by the answers of the kernel. -/
lemma Drains.end_iff (h : Drains kernel packets log drainEnd packets' log') :
    (drainEnd = .failed ↔ RefusesOne kernel packets log.length) ∧
      (drainEnd = .emptied ↔ TakesAll kernel packets log.length) := by
  induction h with
  | emptied => simp [RefusesOne, TakesAll]
  | failed h => simp [RefusesOne, TakesAll, h, not_accepted_of_refused h]
  | again h => simp [RefusesOne, TakesAll, Refused, Accepted, h]
  | @sent packet _ _ log _ _ h _ ih =>
    have hnot : ¬ Refused packet (kernel log.length) := fun hr => not_accepted_of_refused hr h
    simpa [RefusesOne, TakesAll, h, hnot] using ih

lemma Drains.emptied_eq (h : Drains kernel packets log .emptied packets' log') :
    packets' = [] ∧ log'.length = log.length + packets.length := by
  generalize hend : DrainEnd.emptied = drainEnd at h
  induction h with
  | emptied => exact ⟨rfl, rfl⟩
  | failed => cases hend
  | again => cases hend
  | sent _ _ ih =>
    obtain ⟨hnil, hlen⟩ := ih hend
    refine ⟨hnil, ?_⟩
    rw [hlen, List.length_append, List.length_singleton, List.length_cons]
    omega

/-! ## The order of the datagrams -/

lemma handed_append (log : SendLog) (i : Nat) (answer : Answer) :
    handed (log ++ [(i, answer)]) = if answer = .sent then handed log ++ [i] else handed log := by
  unfold handed
  by_cases h : answer = .sent <;> simp [h]

/-- The datagrams that the kernel has taken and those that are kept, in the order of their numbers,
which are below `n`. -/
structure Ledger (n : Nat) (log : SendLog) (packets : List UdpPacketData) : Prop where
  ordered : (handed log ++ numbers packets).Pairwise (· < ·)
  log_lt : ∀ e ∈ log, e.1 < n
  numbers_lt : ∀ i ∈ numbers packets, i < n

/-- The first datagram of the list was offered and is gone. -/
lemma Ledger.offered (h : Ledger n log (packet :: packets)) (answer : Answer) :
    Ledger n (log ++ [(packet.number, answer)]) packets := by
  have hnumber : packet.number < n := h.numbers_lt _ List.mem_cons_self
  refine ⟨?_, ?_, fun i hi => h.numbers_lt i (List.mem_cons_of_mem _ hi)⟩
  · rw [handed_append]
    split
    · rw [List.append_assoc]
      exact h.ordered
    · refine h.ordered.sublist ((List.Sublist.refl _).append ?_)
      exact List.sublist_cons_self ..
  · intro e he
    rcases List.mem_append.mp he with he | he
    · exact h.log_lt e he
    · rw [List.mem_singleton.mp he]
      exact hnumber

lemma Ledger.blocked (h : Ledger n log (packet :: packets)) :
    Ledger n (log ++ [(packet.number, .wouldBlock)]) (packet :: packets) := by
  refine ⟨?_, (h.offered .wouldBlock).log_lt, h.numbers_lt⟩
  rw [handed_append, if_neg (by decide)]
  exact h.ordered

lemma Drains.ledger (h : Drains kernel packets log drainEnd packets' log')
    (hledger : Ledger n log packets) : Ledger n log' packets' := by
  induction h with
  | emptied => exact hledger
  | failed => exact hledger.offered _
  | again => exact hledger.blocked
  | sent _ _ ih => exact ih (hledger.offered .sent)

/-- A new datagram is kept behind the others. -/
lemma Ledger.push (h : Ledger n log packets) (hnumber : packet.number = n) :
    Ledger (n + 1) log (packets ++ [packet]) := by
  have hmap : numbers (packets ++ [packet]) = numbers packets ++ [n] := by
    rw [numbers, List.map_append, List.map_singleton, hnumber]
    rfl
  refine ⟨?_, fun e he => Nat.lt_succ_of_lt (h.log_lt e he), ?_⟩
  · rw [hmap, ← List.append_assoc, List.pairwise_append]
    refine ⟨h.ordered, List.pairwise_singleton .., fun i hi j hj => ?_⟩
    rw [List.mem_singleton.mp hj]
    rcases List.mem_append.mp hi with hi | hi
    · obtain ⟨e, he, rfl⟩ := List.mem_map.mp hi
      exact h.log_lt e (List.mem_filter.mp he).1
    · exact h.numbers_lt i hi
  · rw [hmap]
    intro i hi
    rcases List.mem_append.mp hi with hi | hi
    · exact Nat.lt_succ_of_lt (h.numbers_lt i hi)
    · rw [List.mem_singleton.mp hi]
      exact Nat.lt_succ_self n

/-! ## What becomes of a datagram -/

/-- The datagram was sent, is kept or was refused by the kernel. -/
def Accounted (log : SendLog) (packets : List UdpPacketData) (i : Nat) : Prop :=
  i ∈ handed log ∨ i ∈ numbers packets ∨ Failed log i

lemma mem_handed : i ∈ handed log ↔ (i, .sent) ∈ log := by
  simp [handed]

lemma Accounted.offered (h : Accounted log (packet :: packets) i)
    (hanswer : answer ≠ .wouldBlock) :
    Accounted (log ++ [(packet.number, answer)]) packets i := by
  unfold Accounted Failed at *
  rw [mem_handed] at *
  rcases h with h | h | h
  · exact .inl (List.mem_append_left _ h)
  · rcases List.mem_cons.mp h with rfl | h
    · cases answer with
      | sent => exact .inl (List.mem_append_right _ (List.mem_singleton.mpr rfl))
      | wouldBlock => exact absurd rfl hanswer
      | error => exact .inr (.inr (List.mem_append_right _ (List.mem_singleton.mpr rfl)))
    · exact .inr (.inl h)
  · exact .inr (.inr (List.mem_append_left _ h))

lemma Accounted.mono (h : Accounted log packets i) (hlog : log ⊆ log')
    (hnumbers : numbers packets ⊆ numbers packets') : Accounted log' packets' i := by
  unfold Accounted Failed at *
  rw [mem_handed] at *
  exact h.imp (@hlog _) (.imp (@hnumbers _) (@hlog _))

lemma ne_wouldBlock_of_refused (h : Refused packet answer) : answer ≠ .wouldBlock := by
  rintro rfl
  rcases h with h | ⟨h, -⟩ <;> cases h

lemma Drains.accounted (h : Drains kernel packets log drainEnd packets' log')
    (hi : Accounted log packets i) : Accounted log' packets' i := by
  induction h with
  | emptied => exact hi
  | failed h => exact hi.offered (ne_wouldBlock_of_refused h)
  | again => exact hi.mono (List.subset_append_left ..) (List.Subset.refl _)
  | sent _ _ ih => exact ih (hi.offered (by decide))

lemma Drains.log_subset (h : Drains kernel packets log drainEnd packets' log') : log ⊆ log' := by
  induction h with
  | emptied => exact List.Subset.refl _
  | failed => exact List.subset_append_left ..
  | again => exact List.subset_append_left ..
  | sent _ _ ih => exact List.Subset.trans (List.subset_append_left ..) ih

end XrtcServer.Ice
