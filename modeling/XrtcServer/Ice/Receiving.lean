import XrtcServer.Ice.Credentials
import XrtcServer.Ice.PortConnections

/-!
# What a connection has received

`last_received` combines the times of the last request, the last response and the last data. Only
the path of the responses writes its time. The file says in which runs of a connection that does no
harm.
-/

namespace XrtcServer.Ice
open XrtcServer.Base XrtcServer.Core IceTransportChannel

variable {ch ch' ch₁ : IceTransportChannel} {p : ConnPtr} {now : Int}

/-- What an accepted datagram is. -/
inductive PacketKind
  | data
  | bindingRequest
  | pingResponse
  deriving DecidableEq, Repr

/-- What `on_read_packet` of the connection `conn` accepts a datagram as. -/
def IceConnection.packetKind (crc32 : Bytes → Nat) (hmac : Bytes → Bytes → Bytes) (icePwd : Bytes)
    (conn : IceConnection) (data : Bytes) : Option PacketKind :=
  match getStunMessage crc32 hmac icePwd data with
  | .error _ => none
  | .ok result =>
    if result.ret = false then some .data
    else
      match result.outMsg with
      | none => none
      | some msg =>
        if msg.type = stunBindingRequest then
          if result.outUsername = conn.remoteCandidate.username then some .bindingRequest else none
        else if msg.type = stunBindingResponse then
          match msg.validateMessageIntegrity hmac conn.remoteCandidate.password with
          | .error _ => none
          | .ok msg =>
            if msg.integrityOk ∧ (conn.requests msg.transactionId).isSome then some .pingResponse
            else none
        else none

lemma eq_ok_of_toOption {α : Type} {x : Except OutOfBounds α} {a : α} (h : x.toOption = some a) :
    x = .ok a := by
  cases x with
  | error e => cases h
  | ok b =>
    cases h
    rfl

/-! ## What keeps the times -/

/-- The connection at `p` has received at the same times as before, and lives if it did. -/
structure KeepsTimes (p : ConnPtr) (ch ch' : IceTransportChannel) : Prop where
  receivedTimes : (ch'.memory p).receivedTimes = (ch.memory p).receivedTimes
  live : ch'.live p = ch.live p

lemma KeepsTimes.refl (ch : IceTransportChannel) : KeepsTimes p ch ch := ⟨rfl, rfl⟩

lemma KeepsTimes.trans (h : KeepsTimes p ch ch₁) (h' : KeepsTimes p ch₁ ch') :
    KeepsTimes p ch ch' :=
  ⟨h'.receivedTimes.trans h.receivedTimes, h'.live.trans h.live⟩

lemma keepsTimes_modify (ch : IceTransportChannel) (q : ConnPtr)
    (f : IceConnection → IceConnection) (hf : ∀ c, (f c).receivedTimes = c.receivedTimes) :
    KeepsTimes p ch (ch.modify q f) := by
  refine ⟨?_, rfl⟩
  rw [memory_modify]
  by_cases hp : p = q
  · rw [if_pos hp, hf, hp]
  · rw [if_neg hp]

lemma keepsTimes_sort (ch : IceTransportChannel) (now : Int) :
    KeepsTimes p ch (ch.sortConnectionAndUpdateState now) := by
  have hres := ch.sortConnectionAndUpdateState_spec now
  refine ⟨?_, congrFun hres.live p⟩
  obtain ⟨b, hb⟩ := hres.memory p
  rw [hb]
  rfl

lemma reports_keepsTimes : Reports (KeepsTimes p) where
  refl := .refl
  trans := .trans
  modify ch q f hf := keepsTimes_modify ch q f hf.receivedTimes
  sort := keepsTimes_sort

/-- `update_receiving` leaves the flag as it has computed it. -/
lemma receiving_updateReceiving (ch : IceTransportChannel) (p : ConnPtr) (now : Int) :
    ((ch.updateReceiving p now).memory p).receiving = (ch.memory p).computeReceiving now := by
  unfold updateReceiving onConnectionStateChange
  dsimp only
  split
  · assumption
  · obtain ⟨b, hb⟩ := (sortConnectionAndUpdateState_spec (ch.modify p
      ({ · with receiving := (ch.memory p).computeReceiving now })) now).memory p
    rw [hb, memory_modify, if_pos rfl]
    rfl

/-! ## What a datagram does -/

variable {crc32 : Bytes → Nat} {hmac : Bytes → Bytes → Bytes} {icePwd data : Bytes}

/-- The handling of a response that arrives at `now`, by what becomes of the times. -/
lemma checkResponse_times {msg : StunMessage} :
    ((ch.checkResponse p msg now).live p = true →
      ((ch.checkResponse p msg now).memory p).receivedTimes =
        if msg.type = stunBindingResponse ∧ ((ch.memory p).requests msg.transactionId).isSome then
          (recordResponse 0 now (ch.memory p)).receivedTimes
        else (ch.memory p).receivedTimes) := by
  have hreports := reports_keepsTimes (p := p)
  unfold checkResponse
  cases hts : (ch.memory p).requests msg.transactionId with
  | none => simp
  | some ts =>
    dsimp only
    by_cases htype : msg.type = stunBindingResponse
    · rw [if_pos htype, if_pos ⟨htype, rfl⟩]
      intro _
      have hkeeps := (hreports.receivedPingResponse ch p (toInt (now - ts)) now).trans
        (hreports.removeRequest _ p msg.transactionId)
      refine hkeeps.receivedTimes.trans ?_
      rw [memory_modify, if_pos rfl]
      rfl
    · simp only [htype, false_and, if_false]
      split
      · unfold onConnectionRequestErrorResponse
        split
        · exact fun _ => (hreports.removeRequest ch p msg.transactionId).receivedTimes
        · intro hdead
          rw [failAndDestroy, live_destroy] at hdead
          cases hdead
      · exact fun _ => (hreports.removeRequest ch p msg.transactionId).receivedTimes

/-- What `on_read_packet` does with a packet of each kind. -/
inductive Receives (p : ConnPtr) (now : Int) (ch : IceTransportChannel) :
    Option PacketKind → IceTransportChannel → Prop
  | data : Receives p now ch (some .data) ch
  | bindingRequest : Receives p now ch (some .bindingRequest) ch
  | pingResponse {ch' : IceTransportChannel}
      (h : ch'.live p = true →
        (ch'.memory p).receivedTimes = (recordResponse 0 now (ch.memory p)).receivedTimes) :
      Receives p now ch (some .pingResponse) ch'
  | other {ch' : IceTransportChannel}
      (h : ch'.live p = true → (ch'.memory p).receivedTimes = (ch.memory p).receivedTimes) :
      Receives p now ch none ch'

lemma receives_checkResponse {msg : StunMessage} : Receives p now ch
    (if msg.type = stunBindingResponse ∧ ((ch.memory p).requests msg.transactionId).isSome then
      some .pingResponse else none) (ch.checkResponse p msg now) := by
  have htimes := @checkResponse_times ch p now msg
  split
  · rename_i hresponse
    rw [if_pos hresponse] at htimes
    exact .pingResponse htimes
  · rename_i hother
    rw [if_neg hother] at htimes
    exact .other htimes

lemma receives_of_onReadPacket
    (h : ch.connectionOnReadPacket crc32 hmac icePwd p data now = .ok ch') :
    Receives p now ch ((ch.memory p).packetKind crc32 hmac icePwd data) ch' := by
  unfold connectionOnReadPacket at h
  unfold IceConnection.packetKind
  obtain ⟨result, hresult, h⟩ := bind_eq_ok.mp h
  rw [hresult]
  dsimp only
  cases hmsg : result.outMsg with
  | none =>
    rw [hmsg] at h
    cases h
    split
    · exact .data
    · exact .other fun _ => rfl
  | some msg =>
    rw [hmsg] at h
    rw [(outMsg_spec hresult hmsg).1, if_neg (by simp)]
    dsimp only at h ⊢
    by_cases hrequest : msg.type = stunBindingRequest
    · have hother : ¬ (msg.type = stunBindingResponse ∨ msg.type = stunBindingErrorResponse) := by
        rw [hrequest]
        decide
      rw [if_neg hother] at h
      cases h
      rw [if_pos hrequest]
      split
      · exact .bindingRequest
      · exact .other fun _ => rfl
    · rw [if_neg hrequest]
      by_cases htype : msg.type = stunBindingResponse ∨ msg.type = stunBindingErrorResponse
      · rw [if_pos htype] at h
        obtain ⟨msg', hval, h⟩ := bind_eq_ok.mp h
        have hsame : msg'.type = msg.type := by rw [(validateMessageIntegrity_spec hval).1]
        rw [hval, ← hsame]
        dsimp only
        by_cases hok : msg'.integrityOk = true
        · rw [if_pos hok] at h
          cases h
          simpa only [hok, true_and, ite_and] using @receives_checkResponse ch p now msg'
        · rw [if_neg hok] at h
          cases h
          simp only [hok, Bool.false_eq_true, false_and, if_false, ite_self]
          exact .other fun _ => rfl
      · rw [if_neg htype] at h
        cases h
        rw [if_neg fun h => htype (Or.inl h)]
        exact .other fun _ => rfl

/-! ## Runs of a connection -/

/-- What can happen to a connection. -/
inductive ConnectionEvent
  | ping (id : TransactionId) (now : Int)
  | datagram (data : Bytes) (now : Int)
  | updateState (now : Int)
  | remoteIceParams (params : IceParameters)
  deriving DecidableEq, Repr

/-- A channel with the times at which the connection at `p` was delivered a packet that it accepted,
and the time of the last delivery. -/
structure Delivery where
  channel : IceTransportChannel
  heard : List Int := []
  clock : Int

variable (crc32 : Bytes → Nat) (hmac : Bytes → Bytes → Bytes) (icePwd : Bytes) (p : ConnPtr)

/-- One event of the connection at `p`. The clock that stamps deliveries does not go back. -/
def Delivery.apply (s : Delivery) : ConnectionEvent → Option Delivery
  | .ping id now => some { s with channel := s.channel.modify p (ping id now) }
  | .datagram data now =>
    if s.clock ≤ now then
      let heard :=
        if ((s.channel.memory p).packetKind crc32 hmac icePwd data).isSome then now :: s.heard
        else s.heard
      (s.channel.connectionOnReadPacket crc32 hmac icePwd p data now).toOption.map fun channel =>
        { channel, heard, clock := now }
    else none
  | .updateState now => some { s with channel := s.channel.updateConnectionState p now }
  | .remoteIceParams params =>
    some { s with channel := s.channel.modify p (maybeSetRemoteIceParams params) }

/-- The transition relation of a connection while it is alive. -/
def DeliveryStep (s : Delivery) (e : ConnectionEvent) (t : Delivery) : Prop :=
  s.channel.live p = true ∧ s.apply crc32 hmac icePwd p e = some t

/-- A connection that was just created at `p`. -/
def Delivery.start (ch : IceTransportChannel) (port : Nat) (localPriority : UInt32)
    (remoteCandidate : Candidate) (clock : Int) : Delivery :=
  { channel := ch.newConnection p { port, localPriority, remoteCandidate }, clock }

/-- The connection remembers the last packet it accepted, and is receiving while that is recent. -/
structure Hears (s : Delivery) : Prop where
  lastReceived : ∀ t ∈ s.heard, 0 < t → t ≤ (s.channel.memory p).lastReceived
  receiving : ∀ now, (∃ t ∈ s.heard, 0 < t ∧ now < t + 2500) →
    ((s.channel.updateReceiving p now).memory p).receiving = true

/-- A request or data is accepted only where the last response came in the same millisecond. -/
def Answered (s : Delivery) : ConnectionEvent → Prop
  | .datagram data now =>
    let kind := (s.channel.memory p).packetKind crc32 hmac icePwd data
    kind = some .data ∨ kind = some .bindingRequest →
      0 < now → now ≤ (s.channel.memory p).lastPingResponseReceived
  | _ => True

/-- The invariant of such runs. -/
structure HearsInv (s : Delivery) : Prop where
  lastPingReceived : (s.channel.memory p).lastPingReceived = 0
  lastDataReceived : (s.channel.memory p).lastDataReceived = 0
  heard : ∀ t ∈ s.heard, 0 < t → t ≤ (s.channel.memory p).lastPingResponseReceived
  clock : ∀ t ∈ s.heard, t ≤ s.clock

variable {crc32 hmac icePwd p} {s t : Delivery}

lemma HearsInv.lastReceived_eq (h : HearsInv p s) : (s.channel.memory p).lastReceived =
    max 0 (s.channel.memory p).lastPingResponseReceived := by
  rw [IceConnection.lastReceived, h.lastPingReceived, h.lastDataReceived]
  omega

lemma HearsInv.hears (h : HearsInv p s) : Hears p s := by
  have hlast : ∀ t ∈ s.heard, 0 < t → t ≤ (s.channel.memory p).lastReceived := by
    intro t ht hpos
    rw [h.lastReceived_eq]
    exact (h.heard t ht hpos).trans (le_max_right ..)
  refine ⟨hlast, ?_⟩
  rintro now ⟨t, ht, hpos, hrecent⟩
  have htime := hlast t ht hpos
  rw [receiving_updateReceiving, IceConnection.computeReceiving]
  split
  · rfl
  · rw [Bool.and_eq_true, decide_eq_true_eq, decide_eq_true_eq, weakConnectionReceiveTimeout]
    omega

/-- What leaves the times alone keeps the invariant. -/
lemma HearsInv.keepsTimes (h : HearsInv p s) {ch' : IceTransportChannel}
    (hk : (ch'.memory p).receivedTimes = (s.channel.memory p).receivedTimes) :
    HearsInv p { s with channel := ch' } := by
  simp only [IceConnection.receivedTimes, Prod.mk.injEq] at hk
  obtain ⟨hping, hresponse, hdata⟩ := hk
  exact ⟨hping.trans h.lastPingReceived, hdata.trans h.lastDataReceived,
    fun t ht hpos => hresponse ▸ h.heard t ht hpos, h.clock⟩

/-- The invariant of the steps on which a connection is alive afterwards. -/
lemma HearsInv.step {e : ConnectionEvent} (h : HearsInv p s)
    (hanswered : Answered crc32 hmac icePwd p s e)
    (hstep : s.apply crc32 hmac icePwd p e = some t) (hlive : t.channel.live p = true) :
    HearsInv p t := by
  cases e with
  | ping id now =>
    cases hstep
    exact h.keepsTimes (keepsTimes_modify s.channel p (ping id now) fun _ => rfl).receivedTimes
  | datagram data now =>
    obtain ⟨hclock, hstep⟩ := Option.ite_none_right_eq_some.mp hstep
    obtain ⟨ch', hch', rfl⟩ := Option.map_eq_some_iff.mp hstep
    have hreceives := receives_of_onReadPacket (eq_ok_of_toOption hch')
    have hlater : ∀ u ∈ s.heard, u ≤ now := fun u hu => (h.clock u hu).trans hclock
    -- A packet that was heard at `now`, at the time of the last response or before it.
    have hheard : ∀ {c : IceTransportChannel}, (c.memory p).lastPingReceived = 0 →
        (c.memory p).lastDataReceived = 0 →
        (∀ u ∈ now :: s.heard, 0 < u → u ≤ (c.memory p).lastPingResponseReceived) →
        HearsInv p { channel := c, heard := now :: s.heard, clock := now } := by
      intro c hping hdata hall
      exact ⟨hping, hdata, hall, List.forall_mem_cons.mpr ⟨le_refl now, hlater⟩⟩
    unfold Answered at hanswered
    dsimp only at hanswered hlive ⊢
    generalize (s.channel.memory p).packetKind crc32 hmac icePwd data = kind at hreceives hanswered ⊢
    cases hreceives with
    | data =>
      exact hheard h.lastPingReceived h.lastDataReceived
        (List.forall_mem_cons.mpr ⟨hanswered (Or.inl rfl), h.heard⟩)
    | bindingRequest =>
      exact hheard h.lastPingReceived h.lastDataReceived
        (List.forall_mem_cons.mpr ⟨hanswered (Or.inr rfl), h.heard⟩)
    | pingResponse htimes =>
      have hk := htimes hlive
      simp only [IceConnection.receivedTimes, recordResponse, Prod.mk.injEq] at hk
      obtain ⟨hping, hresponse, hdata⟩ := hk
      refine hheard (hping.trans h.lastPingReceived) (hdata.trans h.lastDataReceived) ?_
      rw [hresponse]
      exact List.forall_mem_cons.mpr ⟨fun _ => le_refl now, fun u hu _ => hlater u hu⟩
    | other htimes =>
      have hk := h.keepsTimes (htimes hlive)
      exact ⟨hk.lastPingReceived, hk.lastDataReceived, hk.heard, hlater⟩
  | updateState now =>
    cases hstep
    exact h.keepsTimes (reports_keepsTimes.updateConnectionState s.channel p now).receivedTimes
  | remoteIceParams params =>
    cases hstep
    refine h.keepsTimes (keepsTimes_modify s.channel p (maybeSetRemoteIceParams params)
      fun c => ?_).receivedTimes
    unfold maybeSetRemoteIceParams
    split <;> rfl

/-- Where the last packet is still remembered after a step, the step met the condition. -/
lemma answered_of_hears {e : ConnectionEvent} (h : HearsInv p s)
    (hstep : s.apply crc32 hmac icePwd p e = some t) (hlive : s.channel.live p = true)
    (hhears : t.channel.live p = true → Hears p t) : Answered crc32 hmac icePwd p s e := by
  cases e with
  | datagram data now =>
    obtain ⟨-, hstep⟩ := Option.ite_none_right_eq_some.mp hstep
    obtain ⟨ch', hch', rfl⟩ := Option.map_eq_some_iff.mp hstep
    have hreceives := receives_of_onReadPacket (eq_ok_of_toOption hch')
    intro hkind hpos
    have hsame : ch' = s.channel := by
      rcases hkind with hkind | hkind
      all_goals
        rw [hkind] at hreceives
        cases hreceives
        rfl
    subst hsame
    have hmem : now ∈ (if ((s.channel.memory p).packetKind crc32 hmac icePwd data).isSome then
        now :: s.heard else s.heard) := by
      rw [if_pos (by rcases hkind with hkind | hkind <;> rw [hkind] <;> rfl)]
      exact List.mem_cons_self
    have hlast := (hhears hlive).lastReceived now hmem hpos
    dsimp only at hlast
    rw [h.lastReceived_eq] at hlast
    omega
  | _ => trivial

lemma hearsInv_start (ch : IceTransportChannel) (port : Nat) (localPriority : UInt32)
    (remoteCandidate : Candidate) (clock : Int) :
    HearsInv p (.start p ch port localPriority remoteCandidate clock) := by
  refine ⟨?_, ?_, fun t ht => ?_, fun t ht => ?_⟩
  · simp [Delivery.start, newConnection]
  · simp [Delivery.start, newConnection]
  · cases ht
  · cases ht

/-- A connection hears what it accepts throughout a run exactly when every request and every packet
of data comes in the millisecond of the last response. -/
theorem hears_iff (ch : IceTransportChannel) (port : Nat) (localPriority : UInt32)
    (remoteCandidate : Candidate) (clock : Int) (es : List ConnectionEvent) :
    Along (DeliveryStep crc32 hmac icePwd p) (fun s => s.channel.live p = true → Hears p s)
        (.start p ch port localPriority remoteCandidate clock) es ↔
      Meets (DeliveryStep crc32 hmac icePwd p) (Answered crc32 hmac icePwd p)
        (.start p ch port localPriority remoteCandidate clock) es := by
  apply along_iff_meets (I := fun s => s.channel.live p = true → HearsInv p s)
  · exact fun s h hlive => (h hlive).hears
  · rintro s e t h hanswered ⟨hlive, hstep⟩ hlive'
    exact (h hlive).step hanswered hstep hlive'
  · rintro s e t h ⟨hlive, hstep⟩ hhears
    exact answered_of_hears (h hlive) hstep hlive hhears
  · exact fun _ => hearsInv_start ch port localPriority remoteCandidate clock

/-- Media arrives, and 100 ms later the connection is not receiving. -/
theorem data_not_heard :
    ¬ Along (DeliveryStep (fun _ => 0) (fun _ _ => []) [] 1)
      (fun s => s.channel.live 1 = true → Hears 1 s)
      (.start 1
        (initial fun _ =>
          { port := 0, localPriority := 0, remoteCandidate := ⟨⟨[], 0⟩, [], [], 0⟩ })
        0 0 ⟨⟨[], 0⟩, [], [], 0⟩ 0)
      [.datagram [128, 111] 5000] := by
  intro h
  have hhears := (h.2 _ ⟨rfl, rfl⟩).head rfl
  have hreceiving := hhears.receiving 5100 ⟨5000, by decide, by decide, by decide⟩
  revert hreceiving
  decide

end XrtcServer.Ice
