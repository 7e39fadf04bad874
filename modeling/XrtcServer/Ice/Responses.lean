import XrtcServer.Ice.Port
import XrtcServer.Ice.StunBounds
import XrtcServer.Ice.StunAuthenticated

/-!
# Which datagrams reach the state of a connection

A datagram passes the fingerprint check, the reader, the choice by its type, the integrity check and
the lookup of its transaction before it changes a connection. The file proves that nothing changes
where one of these fails.
-/

namespace XrtcServer.Ice
open XrtcServer.Base XrtcServer.Core StunMessage IceTransportChannel

variable {crc32 : Bytes → Nat} {hmac : Bytes → Bytes → Vector UInt8 20} {icePwd data : Bytes}
  {msg : StunMessage}

/-- The datagram is a binding response of either kind to a request of the connection, and its
fingerprint and its integrity under the password of the remote candidate are right. -/
structure AuthenticResponse (crc32 : Bytes → Nat) (hmac : Bytes → Bytes → Vector UInt8 20)
    (conn : IceConnection) (data : Bytes) : Prop where
  fingerprint : validateFingerprint crc32 data = .ok true
  response : ∃ msg, read data = some msg ∧
    (msg.type = stunBindingResponse ∨ msg.type = stunBindingErrorResponse) ∧
    (conn.requests msg.transactionId).isSome = true ∧
    ∃ msg', msg.validateMessageIntegrity (digestOf hmac) conn.remoteCandidate.password = .ok msg' ∧
      msg'.integrity = .kIntegrityOk

/-- The members of a connection that a response is there to change. -/
structure SameProgress (c d : IceConnection) : Prop where
  writeState : d.writeState = c.writeState
  receiving : d.receiving = c.receiving
  rtt : d.rtt = c.rtt
  rttSamples : d.rttSamples = c.rttSamples
  pingsSinceLastResponse : d.pingsSinceLastResponse = c.pingsSinceLastResponse
  state : d.state = c.state

lemma SameProgress.refl (c : IceConnection) : SameProgress c c := ⟨rfl, rfl, rfl, rfl, rfl, rfl⟩

lemma validateMessageIntegrity_or_overreads (hmac : Bytes → Bytes → Vector UInt8 20)
    (hread : read data = some msg) (password : Bytes) :
    (∃ msg', msg.validateMessageIntegrity (digestOf hmac) password = .ok msg') ∨
      msg.validateMessageIntegrity (digestOf hmac) password = .error .outOfBounds ∧
        Overreads data := by
  by_cases h : Overreads data
  · cases hval : msg.validateMessageIntegrity (digestOf hmac) password with
    | ok msg' => exact Or.inl ⟨msg', rfl⟩
    | error e => exact Or.inr ⟨by cases e; rfl, h⟩
  · exact Or.inl (exists_validate_of_not_overreads h hread hmac password)

/-- What `get_stun_message` makes of a datagram: nothing, a request, another message that it has not
checked, or a read outside. -/
lemma getStunMessage_cases (crc32 : Bytes → Nat) (hmac : Bytes → Bytes → Vector UInt8 20)
    (icePwd data : Bytes) :
    (∃ result, getStunMessage crc32 (digestOf hmac) icePwd data = .ok result ∧
      ∀ msg, result.outMsg = some msg → msg.type = stunBindingRequest ∨
        validateFingerprint crc32 data = .ok true ∧ read data = some msg) ∨
    getStunMessage crc32 (digestOf hmac) icePwd data = .error .outOfBounds ∧ Overreads data := by
  obtain ⟨ok, hok⟩ := exists_validateFingerprint crc32 data
  unfold getStunMessage
  rw [hok]
  cases ok with
  | false => exact Or.inl ⟨_, rfl, nofun⟩
  | true =>
    simp only [bind, Except.bind, Bool.not_true, Bool.false_eq_true, if_false]
    cases hread : read data with
    | none => exact Or.inl ⟨_, rfl, nofun⟩
    | some msg =>
      dsimp only
      by_cases htype : msg.type = stunBindingRequest
      · rw [if_pos htype]
        split
        · exact Or.inl ⟨_, rfl, nofun⟩
        · split
          · exact Or.inl ⟨_, rfl, nofun⟩
          · rcases validateMessageIntegrity_or_overreads hmac hread icePwd with
              ⟨msg', hval⟩ | ⟨hval, hover⟩
            · rw [hval]
              dsimp only
              split
              · exact Or.inl ⟨_, rfl, nofun⟩
              · refine Or.inl ⟨_, rfl, ?_⟩
                rintro m ⟨⟩
                left
                rw [(validateMessageIntegrity_spec hval).1]
                exact htype
            · rw [hval]
              exact Or.inr ⟨rfl, hover⟩
      · rw [if_neg htype]
        refine Or.inl ⟨_, rfl, ?_⟩
        rintro m ⟨⟩
        exact Or.inr ⟨trivial, rfl⟩

lemma checkResponse_of_none {ch : IceTransportChannel} {c : ConnPtr}
    (h : (ch.memory c).requests msg.transactionId = none) (now : Int) :
    ch.checkResponse c msg now = ch := by
  rw [checkResponse, h]

/-- A datagram that is no authentic response changes nothing, unless the check of its integrity
leaves the datagram. -/
lemma connectionOnReadPacket_of_not_authentic (icePwd : Bytes) (ch : IceTransportChannel)
    (c : ConnPtr) (now : Int) (h : ¬ AuthenticResponse crc32 hmac (ch.memory c) data) :
    ch.connectionOnReadPacket crc32 (digestOf hmac) icePwd c data now = .ok ch ∨
      ch.connectionOnReadPacket crc32 (digestOf hmac) icePwd c data now = .error .outOfBounds ∧
        Overreads data := by
  unfold connectionOnReadPacket
  rcases getStunMessage_cases crc32 hmac icePwd data with ⟨result, hresult, hout⟩ | ⟨herror, hover⟩
  · rw [hresult]
    simp only [bind, Except.bind]
    cases hmsg : result.outMsg with
    | none => exact Or.inl rfl
    | some msg =>
      dsimp only
      by_cases htype : msg.type = stunBindingResponse ∨ msg.type = stunBindingErrorResponse
      · rw [if_pos htype]
        rcases hout msg hmsg with hrequest | ⟨hfingerprint, hread⟩
        · rw [hrequest] at htype
          rcases htype with htype | htype <;> cases htype
        · rcases validateMessageIntegrity_or_overreads hmac hread
            (ch.memory c).remoteCandidate.password with ⟨msg', hval⟩ | ⟨hval, hover⟩
          · rw [hval]
            dsimp only
            split
            · rename_i hok
              left
              have hid : msg'.transactionId = msg.transactionId := by
                rw [(validateMessageIntegrity_spec hval).1]
              cases hrequest : (ch.memory c).requests msg'.transactionId with
              | none =>
                rw [checkResponse_of_none hrequest]
                rfl
              | some ts =>
                refine absurd ⟨hfingerprint, msg, hread, htype, ?_, msg', hval, ?_⟩ h
                · rw [← hid, hrequest, Option.isSome_some]
                · simpa [integrityOk] using hok
            · exact Or.inl rfl
          · rw [hval]
            exact Or.inr ⟨rfl, hover⟩
      · rw [if_neg htype]
        exact Or.inl rfl
  · rw [herror]
    exact Or.inr ⟨rfl, hover⟩

/-- What changes the progress of a connection or destroys it is an authentic response; any other
datagram leaves the whole channel as it is, or is one of those on which the check of the integrity
leaves the datagram before anything was written. -/
theorem progress_only_by_authentic_response (crc32 : Bytes → Nat)
    (hmac : Bytes → Bytes → Vector UInt8 20) (icePwd : Bytes) (ch : IceTransportChannel)
    (c : ConnPtr) (data : Bytes) (now : Int) :
    (∀ ch', ch.connectionOnReadPacket crc32 (digestOf hmac) icePwd c data now = .ok ch' →
      ¬ (SameProgress (ch.memory c) (ch'.memory c) ∧ ch'.live c = ch.live c) →
        AuthenticResponse crc32 hmac (ch.memory c) data) ∧
    (¬ AuthenticResponse crc32 hmac (ch.memory c) data →
      ch.connectionOnReadPacket crc32 (digestOf hmac) icePwd c data now = .ok ch ∨
        ch.connectionOnReadPacket crc32 (digestOf hmac) icePwd c data now = .error .outOfBounds ∧
          Overreads data) := by
  refine ⟨fun ch' hch' hchanged => ?_, connectionOnReadPacket_of_not_authentic icePwd ch c now⟩
  by_contra hnot
  rcases connectionOnReadPacket_of_not_authentic icePwd ch c now hnot with hsame | ⟨herror, -⟩
  · rw [hsame] at hch'
    cases hch'
    exact hchanged ⟨.refl _, rfl⟩
  · cases herror.symm.trans hch'

/-- A success response, for a digest of zeros and a checksum of zero. -/
def successResponse : Bytes :=
  [1, 1, 0, 32, 0x21, 0x12, 0xA4, 0x42] ++ List.replicate 12 7 ++ [0, 8, 0, 20] ++
    List.replicate 20 0 ++ [0x80, 0x28, 0, 4, 0x53, 0x54, 0x55, 0x4E]

/-- A connection that waits for it. -/
def waitingConnection : IceConnection where
  port := 0
  localPriority := 0
  remoteCandidate := ⟨⟨[], 0⟩, [], [112], 0⟩
  requests := Function.update (fun _ => none) (List.replicate 12 7) (some 0)

lemma successResponse_writable : ((initial fun _ => waitingConnection).connectionOnReadPacket
    (fun _ => 0) (digestOf fun _ _ => Vector.replicate 20 0) [] 0 successResponse 5).map
      (fun ch' => (ch'.memory 0).writeState) = .ok .stateWritable := by
  decide +kernel

theorem successResponse_authentic :
    AuthenticResponse (fun _ => 0) (fun _ _ => Vector.replicate 20 0) waitingConnection
      successResponse := by
  obtain ⟨ch', hch', hstate⟩ := map_eq_ok.mp successResponse_writable
  refine (progress_only_by_authentic_response (fun _ => 0) (fun _ _ => Vector.replicate 20 0) []
    (initial fun _ => waitingConnection) 0 successResponse 5).1 ch' hch' ?_
  rintro ⟨hsame, -⟩
  rw [hsame.writeState] at hstate
  cases hstate

end XrtcServer.Ice
