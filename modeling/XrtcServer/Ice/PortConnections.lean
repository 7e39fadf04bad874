import XrtcServer.Ice.Port
import XrtcServer.Ice.SelectionRuns
import XrtcServer.Ice.StunAuthenticated

/-!
# The map of a port and the connections that live

A port files a connection when it creates one and never removes an entry. Its map is therefore
exact over a run precisely as long as no connection is destroyed.
-/

namespace XrtcServer.Ice
open XrtcServer.Base XrtcServer.Core IceTransportChannel ChannelPorts

variable {crc32 : Bytes → Nat} {hmac : Bytes → Bytes → Bytes} {s s' : ChannelPorts}
  {ch ch' : IceTransportChannel} {i : Nat} {addr : SocketAddress} {p c : ConnPtr} {now : Int}
  {data : Bytes}

/-- The maps of the ports hold exactly the live connections, each under the port that created it
and its remote address. -/
def MapsExact (s : ChannelPorts) : Prop :=
  ∀ i addr p, (s.ports i).connections addr = some p ↔
    s.channel.live p = true ∧ (s.channel.memory p).key = (i, addr)

/-- The datagram is an error response to a request of the connection that it is handed to, and
passes the checks on the way. -/
def MatchedError (crc32 : Bytes → Nat) (hmac : Bytes → Bytes → Bytes) (s : ChannelPorts) (i : Nat)
    (addr : SocketAddress) (data : Bytes) : Prop :=
  ∃ c result msg msg', (s.ports i).connections addr = some c ∧
    getStunMessage crc32 hmac (s.ports (s.channel.memory c).port).iceParams.icePwd data =
      .ok result ∧
    result.outMsg = some msg ∧ msg.type = stunBindingErrorResponse ∧
    msg.validateMessageIntegrity hmac (s.channel.memory c).remoteCandidate.password = .ok msg' ∧
    msg'.integrityOk = true ∧
    ((s.channel.memory c).requests msg.transactionId).isSome = true

/-- The condition on an event: it destroys no connection. -/
def DestroysNone (crc32 : Bytes → Nat) (hmac : Bytes → Bytes → Bytes) (s : ChannelPorts) :
    PortEvent → Prop
  | .datagram i addr data _ _ => ¬ MatchedError crc32 hmac s i addr data
  | .destroy _ _ => False
  | _ => True

lemma MapsExact.moves (h : MapsExact s) (hm : Moves s.channel ch') :
    MapsExact { s with channel := ch' } := by
  intro i addr p
  rw [h i addr p, hm.live, hm.key]

lemma MapsExact.file {conn : IceConnection} (h : MapsExact s) (hp : s.channel.live p = false)
    (haddr : (s.ports i).connections addr = none) (hkey : conn.key = (i, addr)) :
    MapsExact { s.fileConnection i addr p with
      channel := (s.channel.newConnection p conn).addConnection p } := by
  have hports : ∀ j a, ((s.fileConnection i addr p).ports j).connections a =
      if j = i ∧ a = addr then some p else (s.ports j).connections a := by
    intro j a
    by_cases hj : j = i
    · subst hj
      by_cases ha : a = addr <;> simp [fileConnection, ha]
    · simp [fileConnection, hj]
  intro j a q
  simp only [hports, addConnection, newConnection, Function.update_apply]
  by_cases hq : q = p
  · subst hq
    have hold : ¬ (s.ports j).connections a = some q := by
      rw [h j a q, hp]
      simp
    by_cases hja : j = i ∧ a = addr
    · simp [hja, hkey]
    · simp only [if_neg hja, hold, if_true, hkey, true_and, Prod.mk.injEq, false_iff]
      exact fun heq => hja ⟨heq.1.symm, heq.2.symm⟩
  · rw [if_neg hq, if_neg hq]
    by_cases hja : j = i ∧ a = addr
    · obtain ⟨rfl, rfl⟩ := hja
      have hold := h j a q
      rw [haddr] at hold
      simp only [and_self, if_true, Option.some.injEq, Ne.symm hq, false_iff]
      simpa using hold
    · rw [if_neg hja]
      exact h j a q

lemma MapsExact.onUnknownAddress (h : MapsExact s) (hp : s.channel.live p = false)
    (haddr : (s.ports i).connections addr = none) (msg : StunMessage) (ufrag : Bytes) (now : Int) :
    MapsExact (s.onUnknownAddress i addr msg ufrag p now) := by
  unfold ChannelPorts.onUnknownAddress
  cases hprio : msg.getUInt32 stunAttrPriority with
  | none => exact h
  | some priority => exact (h.file hp haddr rfl).moves (moves_sort ..)

/-- The code of an error response: the reader makes no object of an ERROR-CODE. -/
lemma getErrorCodeValue_of_read {msg : StunMessage} (h : StunMessage.read data = some msg) :
    msg.getErrorCodeValue = stunErrorGlobalFail := by
  obtain ⟨-, hattrs, -⟩ := read_eq_some h
  have hnone : msg.attrs.find? (·.type = stunAttrErrorCode) = none := by
    rw [List.find?_eq_none]
    intro a ha htype
    have hknown := type_of_readAttributes hattrs a ha
    rw [of_decide_eq_true htype] at hknown
    exact hknown rfl
  rw [StunMessage.getErrorCodeValue, hnone]

lemma getErrorCodeValue_of_outMsg {icePwd : Bytes} {result : StunResult} {msg : StunMessage}
    (h : getStunMessage crc32 hmac icePwd data = .ok result) (hmsg : result.outMsg = some msg) :
    msg.getErrorCodeValue = stunErrorGlobalFail := by
  obtain ⟨-, msg₀, hread, hsame, -⟩ := outMsg_spec h hmsg
  rw [StunMessage.getErrorCodeValue, hsame]
  exact getErrorCodeValue_of_read hread

/-- What the handling of a response may do short of a destruction. -/
lemma moves_checkResponse {msg : StunMessage}
    (h : msg.type = stunBindingErrorResponse →
      (ch.memory c).requests msg.transactionId = none) :
    Moves ch (ch.checkResponse c msg now) := by
  unfold checkResponse
  split
  · exact .refl ch
  · rename_i ts hts
    split
    · exact (absorbs_moves.receivedPingResponse ..).trans (absorbs_moves.reports.removeRequest ..)
    · split
      · rename_i htype
        rw [h htype] at hts
        cases hts
      · exact absorbs_moves.reports.removeRequest ..

lemma connectionOnReadPacket_cases {icePwd : Bytes}
    (h : ch.connectionOnReadPacket crc32 hmac icePwd c data now = .ok ch') :
    ch' = ch ∨ ∃ result msg msg', getStunMessage crc32 hmac icePwd data = .ok result ∧
      result.outMsg = some msg ∧
      msg.validateMessageIntegrity hmac (ch.memory c).remoteCandidate.password = .ok msg' ∧
      msg'.integrityOk = true ∧ ch' = ch.checkResponse c msg' now := by
  unfold connectionOnReadPacket at h
  obtain ⟨result, hresult, h⟩ := bind_eq_ok.mp h
  split at h
  · cases h
    exact Or.inl rfl
  · rename_i msg hmsg
    split at h
    · obtain ⟨msg', hval, h⟩ := bind_eq_ok.mp h
      split at h
      · rename_i hok
        cases h
        exact Or.inr ⟨result, msg, msg', hresult, hmsg, hval, hok, rfl⟩
      · cases h
        exact Or.inl rfl
    · cases h
      exact Or.inl rfl

lemma MapsExact.apply {e : PortEvent} (h : MapsExact s) (hd : DestroysNone crc32 hmac s e)
    (he : portApply crc32 hmac s e = some s') : MapsExact s' := by
  cases e with
  | datagram i addr data p now =>
    simp only [portApply, Option.ite_none_left_eq_some, Bool.not_eq_true] at he
    obtain ⟨hp, he⟩ := he
    cases hr : s.onReadPacket crc32 hmac i addr data p now with
    | error e =>
      rw [hr] at he
      cases he
    | ok s₁ =>
      rw [hr] at he
      cases he
      unfold onReadPacket at hr
      split at hr
      · rename_i c hc
        obtain ⟨ch', hch', hr⟩ := bind_eq_ok.mp hr
        cases hr
        rcases connectionOnReadPacket_cases hch' with
          rfl | ⟨result, msg, msg', hresult, hmsg, hval, hok, rfl⟩
        · exact h
        · refine h.moves (moves_checkResponse fun htype => ?_)
          have hsame := (validateMessageIntegrity_spec hval).1
          by_contra hsome
          rw [hsame] at htype hsome
          exact hd ⟨c, result, msg, msg', hc, hresult, hmsg, htype, hval, hok,
            Option.isSome_iff_ne_none.mpr hsome⟩
      · rename_i hc
        obtain ⟨result, -, hr⟩ := bind_eq_ok.mp hr
        split at hr
        · cases hr
          exact h
        · split at hr
          · cases hr
            exact h.onUnknownAddress hp hc _ _ _
          · cases hr
            exact h
  | checkAndPing id now =>
    cases he
    exact h.moves (moves_onCheckAndPing ..)
  | setRemoteIceParams params now =>
    cases he
    exact h.moves (absorbs_moves.setRemoteIceParams ..)
  | destroy p now => exact absurd hd not_false

/-- A connection that goes while the ports keep their maps leaves an entry behind. -/
lemma MapsExact.not_destroyed (h : MapsExact s) (h' : MapsExact s')
    (hlive : s.channel.live c = true) (hports : s'.ports = s.ports)
    (hdead : s'.channel.live c = false) : False := by
  have hentry := (h _ _ c).mpr ⟨hlive, rfl⟩
  rw [← hports, h' _ _ c, hdead] at hentry
  cases hentry.1

lemma live_destroy (ch : IceTransportChannel) (p : ConnPtr) (now : Int) :
    (ch.destroy p now).live p = false := by
  simp [IceTransportChannel.destroy]

lemma destroysNone_of_mapsExact {e : PortEvent} (h : MapsExact s)
    (he : portApply crc32 hmac s e = some s') (h' : MapsExact s') :
    DestroysNone crc32 hmac s e := by
  cases e with
  | datagram i addr data p now =>
    rintro ⟨c, result, msg, msg', hc, hresult, hmsg, htype, hval, hok, hsome⟩
    simp only [portApply, Option.ite_none_left_eq_some, Bool.not_eq_true] at he
    obtain ⟨-, he⟩ := he
    obtain ⟨hlive, hkey⟩ := (h i addr c).mp hc
    have hsame := (validateMessageIntegrity_spec hval).1
    have hcode : msg'.getErrorCodeValue = stunErrorGlobalFail := by
      rw [hsame]
      exact (getErrorCodeValue_of_outMsg hresult hmsg : msg.getErrorCodeValue = _)
    obtain ⟨ts, hts⟩ := Option.isSome_iff_exists.mp hsome
    have hcheck : s.channel.checkResponse c msg' now =
        (s.channel.removeRequest c msg.transactionId).failAndDestroy c now := by
      have hid : msg'.transactionId = msg.transactionId := by rw [hsame]
      have htype' : msg'.type = stunBindingErrorResponse := by rw [hsame, htype]
      unfold checkResponse onConnectionRequestErrorResponse
      rw [hid, hts, htype', hcode]
      rfl
    have hread : s.onReadPacket crc32 hmac i addr data p now =
        .ok { s with channel := s.channel.checkResponse c msg' now } := by
      unfold onReadPacket connectionOnReadPacket
      simp only [hc, hresult, hmsg, htype, hval, hok, bind, Except.bind, or_true, if_true, pure,
        Except.pure]
    rw [hread] at he
    cases he
    refine h.not_destroyed h' hlive rfl ?_
    rw [hcheck]
    exact live_destroy ..
  | destroy p now =>
    obtain ⟨hp, he⟩ := Option.ite_none_right_eq_some.mp he
    cases he
    exact h.not_destroyed h' hp rfl (live_destroy ..)
  | _ => trivial

lemma MapsExact.congr (h : MapsExact s) (memory : ConnPtr → IceConnection)
    (hmem : ∀ p, s.channel.live p = true → memory p = s.channel.memory p) :
    MapsExact { s with channel := { s.channel with memory := memory } } := by
  intro i addr p
  rw [h i addr p]
  refine and_congr_right fun hp => ?_
  change _ ↔ (memory p).key = (i, addr)
  rw [hmem p hp]

/-- The maps hold exactly the live connections throughout a run precisely when no event of it
destroys a connection. -/
theorem mapsExact_iff (crc32 : Bytes → Nat) (hmac : Bytes → Bytes → Bytes)
    (memory : ConnPtr → IceConnection) (iceParams : Nat → IceParameters)
    (localPriority : Nat → UInt32) (es : List PortEvent) :
    Along (PortStep crc32 hmac) MapsExact (.initial memory iceParams localPriority) es ↔
      Meets (PortStep crc32 hmac) (DestroysNone crc32 hmac)
        (.initial memory iceParams localPriority) es := by
  apply along_iff_meets (I := MapsExact)
  · exact fun s h => h
  · rintro s e s' h hd ⟨s₁, mem, he, hmem, rfl⟩
    exact (h.apply hd he).congr _ hmem
  · rintro s e s' h ⟨s₁, mem, he, hmem, rfl⟩ h'
    exact destroysNone_of_mapsExact h he
      (h'.congr s₁.channel.memory fun p hp => (hmem p hp).symm)
  · intro i addr p
    simp [ChannelPorts.initial, IceTransportChannel.initial]

lemma portApply_request {result : StunResult} {msg : StunMessage}
    (hp : s.channel.live p = false) (haddr : (s.ports i).connections addr = none)
    (hresult : getStunMessage crc32 hmac (s.ports i).iceParams.icePwd data = .ok result)
    (hmsg : result.outMsg = some msg) (htype : msg.type = stunBindingRequest) :
    portApply crc32 hmac s (.datagram i addr data p now) =
      some (s.onUnknownAddress i addr msg result.outUsername p now) := by
  have hread : s.onReadPacket crc32 hmac i addr data p now =
      .ok (s.onUnknownAddress i addr msg result.outUsername p now) := by
    unfold onReadPacket
    simp only [haddr, hresult, hmsg, htype, bind, Except.bind, if_true, pure, Except.pure]
  rw [portApply, hp, hread, if_neg (by simp)]
  rfl

lemma portStep_of_portApply {e : PortEvent} (h : portApply crc32 hmac s e = some s') :
    PortStep crc32 hmac s e s' :=
  ⟨s', s'.channel.memory, h, fun _ _ => rfl, rfl⟩

lemma portApply_destroy (hp : s.channel.live p = true) :
    portApply crc32 hmac s (.destroy p now) =
      some { s with channel := s.channel.destroy p now } := by
  rw [portApply, if_pos hp]

lemma connections_onUnknownAddress {msg : StunMessage} {ufrag : Bytes} {priority : Nat}
    (h : msg.getUInt32 stunAttrPriority = some priority) :
    ((s.onUnknownAddress i addr msg ufrag p now).ports i).connections addr = some p := by
  simp [ChannelPorts.onUnknownAddress, h, fileConnection]

/-- A request creates a connection, the connection is destroyed, and its entry stays. -/
theorem destroyed_connection_stays_filed :
    ¬ Along (PortStep (fun _ => 0) (fun _ _ => List.replicate 20 0)) MapsExact
      (.initial (fun _ => { port := 0, localPriority := 0, remoteCandidate := ⟨⟨[], 0⟩, [], [], 0⟩ })
        (fun _ => ⟨[98], []⟩) (fun _ => 100))
      [.datagram 0 ⟨[10, 0, 0, 1], 5000⟩ (requestWith priorityOne []) 1 10, .destroy 1 20] := by
  intro h
  obtain ⟨result, hresult, -, hmsg, htype⟩ := accepts_priority_before
  have hcreated := h.2 _ (portStep_of_portApply (portApply_request rfl rfl hresult hmsg htype))
  have hlive := ((hcreated.head _ _ _).mp (connections_onUnknownAddress rfl)).1
  have hlast := (hcreated.2 _ (portStep_of_portApply (portApply_destroy hlive))).head
  exact hcreated.head.not_destroyed hlast hlive rfl (live_destroy ..)

end XrtcServer.Ice
