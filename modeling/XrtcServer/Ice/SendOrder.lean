import XrtcServer.Ice.AsyncUdpSocket

/-!
# Datagrams over a run

Over any run of a socket the kernel takes the datagrams in the order of their `send_to`, each at most
once. The file says when the results of `send_to` tell what became of the datagrams.
-/

namespace XrtcServer.Ice
open XrtcServer.Base XrtcServer.Core AsyncUdpSocket

variable {kernel : Nat → Answer} {s t : AsyncUdpSocket} {data : Bytes} {addr : SocketAddress}

/-- What `send_to` does, one case for each way that it can go. -/
inductive Sends (kernel : Nat → Answer) (s : AsyncUdpSocket) (packet : UdpPacketData) :
    AsyncUdpSocket → Prop
  | olderRefused {packets : List UdpPacketData} {log : SendLog}
      (h : Drains kernel s.udpPacketList s.log .failed packets log) :
      Sends kernel s packet
        { s with udpPacketList := packets, log, returned := s.returned ++ [-1] }
  | queued {packets : List UdpPacketData} {log : SendLog}
      (h : Drains kernel s.udpPacketList s.log .again packets log) :
      Sends kernel s packet
        { udpPacketList := packets ++ [packet]
          writeActive := true
          log
          returned := s.returned ++ [toInt packet.data.length] }
  | refused {log : SendLog} (h : Drains kernel s.udpPacketList s.log .emptied [] log)
      (hown : Refused packet (kernel log.length)) :
      Sends kernel s packet
        { s with
          udpPacketList := []
          log := log ++ [(packet.number, kernel log.length)]
          returned := s.returned ++ [-1] }
  | blocked {log : SendLog} (h : Drains kernel s.udpPacketList s.log .emptied [] log)
      (hown : kernel log.length = .wouldBlock) :
      Sends kernel s packet
        { udpPacketList := [packet]
          writeActive := true
          log := log ++ [(packet.number, .wouldBlock)]
          returned := s.returned ++ [toInt packet.data.length] }
  | sent {log : SendLog} {ret : Int} (h : Drains kernel s.udpPacketList s.log .emptied [] log)
      (hown : Accepted packet (kernel log.length)) (hret : 0 < ret) :
      Sends kernel s packet
        { s with
          udpPacketList := []
          log := log ++ [(packet.number, .sent)]
          returned := s.returned ++ [ret] }

lemma sends_sendTo (kernel : Nat → Answer) (s : AsyncUdpSocket) (data : Bytes)
    (addr : SocketAddress) :
    Sends kernel s ⟨s.returned.length, data, addr⟩ (s.sendTo kernel data addr) := by
  have hdrains := drains_drain kernel s.udpPacketList s.log
  unfold sendTo addUdpPacket sendCurrent sendAgain
  generalize drain kernel s.udpPacketList s.log = result at hdrains
  obtain ⟨drainEnd, packets, log⟩ := result
  dsimp only at hdrains ⊢
  cases drainEnd with
  | failed => exact .olderRefused hdrains
  | again =>
    dsimp only
    exact .queued hdrains
  | emptied =>
    obtain ⟨rfl, -⟩ := hdrains.emptied_eq
    dsimp only
    rcases offered_cases ⟨s.returned.length, data, addr⟩ (kernel log.length) with
      ⟨hneg, h⟩ | ⟨hzero, h⟩ | ⟨hpos, h⟩
    · rw [if_pos hneg]
      exact .refused hdrains h
    · rw [if_neg (by omega), if_pos hzero, h]
      dsimp only
      exact .blocked hdrains h
    · rw [if_neg (by omega), if_neg (by omega)]
      have hanswer := h.1
      rw [hanswer] at hpos ⊢
      dsimp only
      exact .sent hdrains h hpos

/-- What a write event does. -/
inductive Writes (kernel : Nat → Answer) (s : AsyncUdpSocket) : AsyncUdpSocket → Prop
  | emptied {log : SendLog} (h : Drains kernel s.udpPacketList s.log .emptied [] log) :
      Writes kernel s { s with udpPacketList := [], log, writeActive := false }
  | stopped {drainEnd : DrainEnd} {packets : List UdpPacketData} {log : SendLog}
      (h : Drains kernel s.udpPacketList s.log drainEnd packets log) :
      Writes kernel s { s with udpPacketList := packets, log }

lemma writes_sendData (kernel : Nat → Answer) (s : AsyncUdpSocket) :
    Writes kernel s (s.sendData kernel) := by
  have hdrains := drains_drain kernel s.udpPacketList s.log
  unfold sendData
  generalize drain kernel s.udpPacketList s.log = result at hdrains
  obtain ⟨drainEnd, packets, log⟩ := result
  dsimp only at hdrains ⊢
  cases drainEnd with
  | emptied =>
    obtain ⟨rfl, -⟩ := hdrains.emptied_eq
    exact .emptied hdrains
  | failed => exact .stopped hdrains
  | again => exact .stopped hdrains

/-! ## Runs -/

/-- The datagrams go out in order, and the results of `send_to` say what became of them. -/
structure SendsInOrder (s : AsyncUdpSocket) : Prop where
  inOrder : (handed s.log).Pairwise (· < ·)
  accounted : ∀ i ret, s.returned[i]? = some ret → 0 ≤ ret →
    Accounted s.log s.udpPacketList i
  refused : ∀ i, s.returned[i]? = some (-1) → Failed s.log i
  watched : s.udpPacketList ≠ [] → s.writeActive = true

/-- No `send_to` meets a refusal of an older datagram or a datagram whose length is no positive
`int`. -/
def Undisturbed (kernel : Nat → Answer) (s : AsyncUdpSocket) : UdpEvent → Prop
  | .sendTo data _ =>
    let older := s.udpPacketList
    let own := kernel (s.log.length + older.length)
    ¬ RefusesOne kernel older s.log.length ∧
      (TakesAll kernel older s.log.length → own = .sent → 0 < toInt data.length) ∧
      (¬ TakesAll kernel older s.log.length ∨ own = .wouldBlock → toInt data.length ≠ -1)
  | .write => True

/-- The invariant of a run. -/
structure UdpInv (s : AsyncUdpSocket) : Prop where
  ledger : Ledger s.returned.length s.log s.udpPacketList
  accounted : ∀ i ret, s.returned[i]? = some ret → 0 ≤ ret →
    Accounted s.log s.udpPacketList i
  refused : ∀ i, s.returned[i]? = some (-1) → Failed s.log i
  watched : s.udpPacketList ≠ [] → s.writeActive = true

lemma UdpInv.sendsInOrder (h : UdpInv s) : SendsInOrder s where
  inOrder := (List.pairwise_append.mp h.ledger.ordered).1
  accounted := h.accounted
  refused := h.refused
  watched := h.watched

lemma forall_getElem?_concat {l : List Int} {r : Int} {Q : Nat → Int → Prop}
    (hold : ∀ i ret, l[i]? = some ret → Q i ret) (hnew : Q l.length r) (i : Nat) (ret : Int)
    (h : (l ++ [r])[i]? = some ret) : Q i ret := by
  rcases Nat.lt_or_ge i l.length with hi | hi
  · rw [List.getElem?_append_left hi] at h
    exact hold i ret h
  · rw [List.getElem?_append_right hi, List.getElem?_singleton] at h
    split at h
    · rename_i hzero
      cases h
      obtain rfl : i = l.length := by omega
      exact hnew
    · cases h

/-- Where `send_to` goes on with a list and a log in which the earlier datagrams are accounted for,
its own result has to be. -/
lemma UdpInv.append (h : UdpInv s) {packets : List UdpPacketData} {log : SendLog} {active : Bool}
    {ret : Int} (hledger : Ledger (s.returned.length + 1) log packets)
    (hold : ∀ i, Accounted s.log s.udpPacketList i → Accounted log packets i)
    (hlog : s.log ⊆ log) (haccounted : 0 ≤ ret → Accounted log packets s.returned.length)
    (hrefused : ret = -1 → Failed log s.returned.length)
    (hwatched : packets ≠ [] → active = true) :
    UdpInv
      { udpPacketList := packets
        writeActive := active
        log
        returned := s.returned ++ [ret] } where
  ledger := by rwa [List.length_append, List.length_singleton]
  accounted := forall_getElem?_concat (fun i ret hi hpos => hold i (h.accounted i ret hi hpos))
    haccounted
  refused i hi := forall_getElem?_concat (Q := fun i ret => ret = -1 → Failed log i)
    (fun i ret hi hret => hlog (h.refused i (hret ▸ hi))) hrefused i (-1) hi rfl
  watched := hwatched

lemma mem_numbers_self (packets : List UdpPacketData) (packet : UdpPacketData) :
    packet.number ∈ numbers (packets ++ [packet]) := by
  simp [numbers]

lemma numbers_subset (packets : List UdpPacketData) (packet : UdpPacketData) :
    numbers packets ⊆ numbers (packets ++ [packet]) := by
  rw [numbers, numbers, List.map_append]
  exact List.subset_append_left ..

lemma UdpInv.sends (h : UdpInv s) (hclean : Undisturbed kernel s (.sendTo data addr))
    (ht : Sends kernel s ⟨s.returned.length, data, addr⟩ t) : UdpInv t := by
  obtain ⟨holder, hlength, hkept⟩ := hclean
  cases ht with
  | olderRefused hd => exact absurd (hd.end_iff.1.mp rfl) holder
  | queued hd =>
    have hnot : ¬ TakesAll kernel s.udpPacketList s.log.length :=
      fun hall => by cases hd.end_iff.2.mpr hall
    refine h.append ((hd.ledger h.ledger).push rfl) (fun i hi => ?_) hd.log_subset
      (fun _ => .inr (.inl (mem_numbers_self ..))) (fun hret => absurd hret (hkept (.inl hnot)))
      (fun _ => rfl)
    exact (hd.accounted hi).mono (List.Subset.refl _) (numbers_subset ..)
  | refused hd hown =>
    have hall := hd.end_iff.2.mp rfl
    have hlen := hd.emptied_eq.2
    refine h.append (((hd.ledger h.ledger).push rfl).offered _) (fun i hi => ?_)
      (List.Subset.trans hd.log_subset (List.subset_append_left ..))
      (fun hpos => absurd hpos (by decide)) (fun _ => ?_) (fun hne => absurd rfl hne)
    · exact (hd.accounted hi).mono (List.subset_append_left ..) (List.Subset.refl _)
    · rcases hown with herror | ⟨hsent, hneg⟩
      · rw [herror]
        exact List.mem_append_right _ (List.mem_singleton.mpr rfl)
      · have hpos := hlength hall (hlen ▸ hsent)
        exact absurd hpos (Int.not_lt.mpr hneg)
  | blocked hd hown =>
    have hlen := hd.emptied_eq.2
    refine h.append ((hd.ledger h.ledger).push rfl).blocked (fun i hi => ?_)
      (List.Subset.trans hd.log_subset (List.subset_append_left ..))
      (fun _ => .inr (.inl (List.mem_singleton.mpr rfl)))
      (fun hret => absurd hret (hkept (.inr (hlen ▸ hown)))) (fun _ => rfl)
    exact (hd.accounted hi).mono (List.subset_append_left ..) (List.nil_subset _)
  | sent hd hown hret =>
    refine h.append (((hd.ledger h.ledger).push rfl).offered .sent) (fun i hi => ?_)
      (List.Subset.trans hd.log_subset (List.subset_append_left ..)) (fun _ => ?_)
      (fun hminus => absurd hminus (by omega)) (fun hne => absurd rfl hne)
    · exact (hd.accounted hi).mono (List.subset_append_left ..) (List.Subset.refl _)
    · rw [Accounted, mem_handed]
      exact .inl (List.mem_append_right _ (List.mem_singleton.mpr rfl))

lemma UdpInv.drains (h : UdpInv s) {drainEnd : DrainEnd} {packets : List UdpPacketData}
    {log : SendLog} {active : Bool}
    (hd : Drains kernel s.udpPacketList s.log drainEnd packets log)
    (hwatched : packets ≠ [] → active = true) :
    UdpInv { s with udpPacketList := packets, log, writeActive := active } where
  ledger := hd.ledger h.ledger
  accounted i ret hi hpos := hd.accounted (h.accounted i ret hi hpos)
  refused i hi := hd.log_subset (h.refused i hi)
  watched := hwatched

lemma UdpInv.step {e : UdpEvent} (h : UdpInv s) (hclean : Undisturbed kernel s e)
    (hstep : UdpStep kernel s e t) : UdpInv t := by
  cases e with
  | sendTo data addr =>
    obtain rfl := hstep
    exact h.sends hclean (sends_sendTo kernel s data addr)
  | write =>
    obtain ⟨hactive, ht⟩ := hstep
    have hwrites := writes_sendData kernel s
    rw [← ht] at hwrites
    cases hwrites with
    | emptied hd => exact h.drains hd fun hne => absurd rfl hne
    | stopped hd => exact h.drains hd fun _ => hactive

lemma Ledger.not_failed {n : Nat} {log : SendLog} {packets : List UdpPacketData}
    (h : Ledger n log packets) : ¬ Failed log n :=
  fun hfailed => Nat.lt_irrefl n (h.log_lt _ hfailed)

/-- Where the results of `send_to` still say what became of the datagrams, it was not disturbed. -/
lemma undisturbed_of_sends (h : UdpInv s)
    (ht : Sends kernel s ⟨s.returned.length, data, addr⟩ t) (hin : SendsInOrder t) :
    Undisturbed kernel s (.sendTo data addr) := by
  have hown : ∀ {ret log}, t.returned = s.returned ++ [ret] → t.log = log → ret = -1 →
      Failed log s.returned.length := by
    rintro ret log hreturned rfl rfl
    refine hin.refused _ ?_
    rw [hreturned, List.getElem?_append_right (le_refl _), Nat.sub_self]
    rfl
  unfold Undisturbed
  dsimp only
  cases ht with
  | olderRefused hd =>
    exact absurd (hown rfl rfl rfl) (hd.ledger h.ledger).not_failed
  | queued hd =>
    have hend := hd.end_iff
    refine ⟨fun hr => ?_, fun hall => ?_, fun _ hret => ?_⟩
    · cases hend.1.mpr hr
    · cases hend.2.mpr hall
    · exact (hd.ledger h.ledger).not_failed (hown rfl rfl hret)
  | refused hd hrefused =>
    rw [← hd.emptied_eq.2]
    have hend := hd.end_iff
    refine ⟨fun hr => ?_, fun _ hsent => ?_, ?_⟩
    · cases hend.1.mpr hr
    · rcases List.mem_append.mp (hown rfl rfl rfl) with hold | hnew
      · exact absurd hold (hd.ledger h.ledger).not_failed
      · obtain ⟨-, hanswer⟩ := Prod.mk.inj (List.mem_singleton.mp hnew)
        cases hanswer.trans hsent
    · rintro (hnot | hblocked)
      · exact absurd (hend.2.mp rfl) hnot
      · exact absurd hblocked (ne_wouldBlock_of_refused hrefused)
  | blocked hd hblocked =>
    rw [← hd.emptied_eq.2, hblocked]
    have hend := hd.end_iff
    refine ⟨fun hr => ?_, fun _ hsent => ?_, fun _ hret => ?_⟩
    · cases hend.1.mpr hr
    · cases hsent
    · rcases List.mem_append.mp (hown rfl rfl hret) with hold | hnew
      · exact (hd.ledger h.ledger).not_failed hold
      · cases List.mem_singleton.mp hnew
  | sent hd haccepted =>
    rw [← hd.emptied_eq.2]
    have hend := hd.end_iff
    refine ⟨fun hr => ?_, fun _ _ => haccepted.2, ?_⟩
    · cases hend.1.mpr hr
    · rintro (hnot | hblocked)
      · exact absurd (hend.2.mp rfl) hnot
      · cases hblocked.symm.trans haccepted.1

lemma udpInv_initial : UdpInv {} where
  ledger := ⟨List.Pairwise.nil, fun e he => absurd he List.not_mem_nil,
    fun i hi => absurd hi List.not_mem_nil⟩
  accounted i ret hi := by cases hi
  refused i hi := by cases hi
  watched hne := absurd rfl hne

/-- The datagrams go out in order and the results of `send_to` say what became of them throughout a
run exactly when every `send_to` is undisturbed. -/
theorem sendsInOrder_iff (kernel : Nat → Answer) (es : List UdpEvent) :
    Along (UdpStep kernel) SendsInOrder {} es ↔ Meets (UdpStep kernel) (Undisturbed kernel) {} es := by
  apply along_iff_meets (I := UdpInv)
  · exact fun s h => h.sendsInOrder
  · exact fun s e t h hclean hstep => h.step hclean hstep
  · intro s e t h hstep hin
    cases e with
    | sendTo data addr =>
      obtain rfl := hstep
      exact undisturbed_of_sends h (sends_sendTo kernel s data addr) hin
    | write => trivial
  · exact udpInv_initial

/-- The kernel would block, then refuses the first datagram, and would take the second one. -/
def refusingKernel : Nat → Answer
  | 0 => .wouldBlock
  | 1 => .error
  | _ => .sent

/-- The second datagram is dropped although it was never offered to the kernel. -/
theorem newer_datagram_dropped :
    ¬ Along (UdpStep refusingKernel) SendsInOrder {}
      [.sendTo [1] ⟨[10, 0, 0, 1], 5000⟩, .sendTo [2] ⟨[10, 0, 0, 1], 5000⟩] := by
  intro h
  have hlast := ((h.2 _ rfl).2 _ rfl).head
  have hfailed := hlast.refused 1 (by decide)
  revert hfailed
  unfold Failed
  decide

end XrtcServer.Ice
