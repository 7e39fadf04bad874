import XrtcServer.Ice.PortConnections
import XrtcServer.Ice.Responses
import XrtcServer.Ice.StunWrite

/-!
# The code of an error response

`StunErrorCodeAttribute` splits a code into its hundreds and the rest, writes it and gives it back.
The reader of messages makes no object for the type of this attribute, so that an error response
never shows its code, and every connection that gets one is failed.
-/

namespace XrtcServer.Ice
open XrtcServer.Base XrtcServer.Core StunMessage IceTransportChannel

namespace StunAttribute

/-- `create_error_code` with `set_code` and `set_reason`. The class and the number have eight
bits. -/
def createErrorCode (code : Int) (reason : Bytes) : StunAttribute :=
  .errorCode stunAttrErrorCode (code.tdiv 100 % 2 ^ 8).toNat (code.tmod 100 % 2 ^ 8).toNat reason

lemma made_createErrorCode (code : Int) (reason : Bytes) : (createErrorCode code reason).Made := by
  have hcls : (code.tdiv 100 % 2 ^ 8).toNat < 2 ^ 8 := by omega
  have hnumber : (code.tmod 100 % 2 ^ 8).toNat < 2 ^ 8 := by omega
  have hmade := Made.errorCode 9 (UInt8.ofNat (code.tdiv 100 % 2 ^ 8).toNat)
    (UInt8.ofNat (code.tmod 100 % 2 ^ 8).toNat) reason
  rw [UInt8.toNat_ofNat_of_lt' hcls, UInt8.toNat_ofNat_of_lt' hnumber] at hmade
  exact hmade

end StunAttribute

variable {crc32 : Bytes → Nat} {hmac : Bytes → Bytes → Vector UInt8 20} {icePwd data : Bytes}
  {ch ch' : IceTransportChannel} {p : ConnPtr} {c now : Int} {msg : StunMessage}

/-- The datagram is a binding error response to a request of the connection, its fingerprint and its
integrity are right, and its attributes are well-formed, with the code `c` in the first
ERROR-CODE. -/
structure CarriesError (crc32 : Bytes → Nat) (hmac : Bytes → Bytes → Vector UInt8 20)
    (conn : IceConnection) (data : Bytes) (c : Int) : Prop where
  fingerprint : validateFingerprint crc32 data = .ok true
  response : ∃ msg, read data = some msg ∧ msg.type = stunBindingErrorResponse ∧
    (conn.requests msg.transactionId).isSome = true ∧
    ∃ msg', msg.validateMessageIntegrity (digestOf hmac) conn.remoteCandidate.password = .ok msg' ∧
      msg'.integrity = .kIntegrityOk
  range : 300 ≤ c ∧ c ≤ 699
  errorCode : ∃ T reason, Tiles (data.drop kStunHeaderSize) T ∧
    firstValue T stunAttrErrorCode = some (StunAttribute.createErrorCode c reason).tlv.value

/-- The parsed message has the code, and the connection is kept or failed and destroyed by it. -/
structure HeedsError (crc32 : Bytes → Nat) (hmac : Bytes → Bytes → Vector UInt8 20)
    (icePwd : Bytes) (ch : IceTransportChannel) (p : ConnPtr) (data : Bytes) (c now : Int) :
    Prop where
  code : ∀ msg, read data = some msg → msg.getErrorCodeValue = c
  outcome : ∃ ch', ch.connectionOnReadPacket crc32 (digestOf hmac) icePwd p data now = .ok ch' ∧
    if retryable c then ch'.live p = true
    else ch'.live p = false ∧ (ch'.memory p).state = .failed

lemma memory_onConnectionDestroyed (ch : IceTransportChannel) (p q : ConnPtr) (now : Int) :
    (ch.memory q).SameButSelected ((ch.onConnectionDestroyed p now).memory q) := by
  by_cases hs : ch.selectedConnection = some p
  · rw [onConnectionDestroyed_selected hs]
    exact (memory_switch (ch.forgetConnection p) none q).trans
      ((sortConnectionAndUpdateState_spec _ now).memory q)
  · rw [onConnectionDestroyed_other hs, memory_updateState]
    exact .refl _

lemma failAndDestroy_spec (ch : IceTransportChannel) (p : ConnPtr) (now : Int) :
    (ch.failAndDestroy p now).live p = false ∧
      ((ch.failAndDestroy p now).memory p).state = .failed := by
  refine ⟨live_destroy _ p now, ?_⟩
  obtain ⟨b, hb⟩ := memory_onConnectionDestroyed (ch.modify p ({ · with state := .failed })) p p now
  rw [memory_modify, if_pos rfl] at hb
  rw [failAndDestroy, destroy]
  dsimp only
  rw [hb]
  rfl

/-- Whatever code such a response carries, the connection is failed and destroyed. -/
lemma CarriesError.fails (h : CarriesError crc32 hmac (ch.memory p) data c) (icePwd : Bytes)
    (now : Int) :
    ∃ ch', ch.connectionOnReadPacket crc32 (digestOf hmac) icePwd p data now = .ok ch' ∧
      ch'.live p = false ∧ (ch'.memory p).state = .failed := by
  obtain ⟨msg, hread, htype, hrequest, msg', hval, hok⟩ := h.response
  have hsame := (validateMessageIntegrity_spec hval).1
  have htype' : msg'.type = stunBindingErrorResponse := by
    rw [hsame]
    exact htype
  have hid : msg'.transactionId = msg.transactionId := by rw [hsame]
  have hattrs : msg'.attrs = msg.attrs := by rw [hsame]
  have hcode : msg'.getErrorCodeValue = stunErrorGlobalFail := by
    rw [getErrorCodeValue, hattrs]
    exact getErrorCodeValue_of_read hread
  have hresult : getStunMessage crc32 (digestOf hmac) icePwd data =
      .ok { ret := true, outMsg := some msg } := by
    have hnot : ¬ msg.type = stunBindingRequest := by
      rw [htype]
      decide
    unfold getStunMessage
    simp only [h.fingerprint, bind, Except.bind, Bool.not_true, Bool.false_eq_true, if_false, hread,
      if_neg hnot]
    rfl
  obtain ⟨ts, hts⟩ := Option.isSome_iff_exists.mp hrequest
  refine ⟨(ch.removeRequest p msg'.transactionId).failAndDestroy p now, ?_,
    failAndDestroy_spec _ p now⟩
  have hintegrity : msg'.integrityOk = true := decide_eq_true hok
  have herror : ¬ stunBindingErrorResponse = stunBindingResponse := by decide
  have hfatal : retryable stunErrorGlobalFail = false := rfl
  unfold connectionOnReadPacket
  simp only [hresult, bind, Except.bind, htype, or_true, if_true, hval, hintegrity]
  rw [checkResponse, hid, hts]
  simp only [htype', herror, if_false, if_true, onConnectionRequestErrorResponse, hcode, hfatal,
    Bool.false_eq_true]
  rfl

/-- The error code is heeded exactly where it is the one that stands for a missing attribute. -/
theorem heedsError_iff (icePwd : Bytes) (now : Int)
    (h : CarriesError crc32 hmac (ch.memory p) data c) :
    HeedsError crc32 hmac icePwd ch p data c now ↔ c = stunErrorGlobalFail := by
  obtain ⟨msg, hread, -⟩ := h.response
  constructor
  · intro hheeds
    exact (hheeds.code msg hread).symm.trans (getErrorCodeValue_of_read hread)
  · rintro rfl
    obtain ⟨ch', hch', hdead⟩ := h.fails icePwd now
    exact ⟨fun _ hmsg => getErrorCodeValue_of_read hmsg, ch', hch', hdead⟩

/-- The attributes of an error response with the class and the number, for a digest of zeros and a
checksum of zero. -/
def errorAttributes (cls number : UInt8) : Bytes :=
  ([0, 9] ++ ([0, 4] ++ ([0, 0, cls, number] ++ []))) ++
    (([0, 8] ++ ([0, 20] ++ (List.replicate 20 0 ++ []))) ++
      (([0x80, 0x28] ++ ([0, 4] ++ ([0x53, 0x54, 0x55, 0x4E] ++ []))) ++ []))

def errorDatagram (cls number : UInt8) : Bytes :=
  [1, 0x11, 0, 40, 0x21, 0x12, 0xA4, 0x42] ++ List.replicate 12 7 ++ errorAttributes cls number

lemma tiles_errorAttributes (cls number : UInt8) : Tiles (errorAttributes cls number)
    [⟨stunAttrErrorCode, [0, 0, cls, number]⟩, ⟨stunAttrMessageIntegrity, List.replicate 20 0⟩,
      ⟨stunAttrFingerprint, [0x53, 0x54, 0x55, 0x4E]⟩] := by
  have htype : ofBE [0, 9] = stunAttrErrorCode := by decide
  have hlength : ofBE [0, 4] = 4 := by decide
  have hpad : 4 + 0 = padded 4 := by decide
  exact .cons ⟨[0, 9], [0, 4], [], rfl, rfl, htype, rfl, hlength, hpad⟩ (.cons
    ⟨[0, 8], [0, 20], [], rfl, rfl, by decide, rfl, by decide, by decide⟩ (.cons
    ⟨[0x80, 0x28], [0, 4], [], rfl, rfl, by decide, rfl, by decide, by decide⟩ .nil))

lemma carriesError_of_read {cls number : UInt8} (hc : 300 ≤ c ∧ c ≤ 699)
    (hfingerprint : validateFingerprint (fun _ => 0) (errorDatagram cls number) = .ok true)
    (hread : (read (errorDatagram cls number)).map (fun msg => (msg.type, msg.transactionId)) =
      some (stunBindingErrorResponse, List.replicate 12 7))
    (hval : ((read (errorDatagram cls number)).map fun msg =>
      (msg.validateMessageIntegrity (digestOf fun _ _ => Vector.replicate 20 0) [112]).map
        (·.integrity)) = some (.ok .kIntegrityOk))
    (hcode : (StunAttribute.createErrorCode c []).tlv.value = [0, 0, cls, number]) :
    CarriesError (fun _ => 0) (fun _ _ => Vector.replicate 20 0) waitingConnection
      (errorDatagram cls number) c := by
  obtain ⟨msg, hmsg, hheader⟩ := Option.map_eq_some_iff.mp hread
  rw [Prod.mk.injEq] at hheader
  rw [hmsg, Option.map_some, Option.some.injEq] at hval
  obtain ⟨msg', hmsg', hok⟩ := map_eq_ok.mp hval
  have hdrop : (errorDatagram cls number).drop kStunHeaderSize = errorAttributes cls number :=
    List.drop_left' rfl
  refine ⟨hfingerprint, ⟨msg, hmsg, hheader.1, ?_, msg', hmsg', hok⟩, hc, _, [],
    hdrop ▸ tiles_errorAttributes cls number, ?_⟩
  · rw [hheader.2]
    rfl
  · rw [hcode]
    rfl

lemma errorDatagram_600 :
    CarriesError (fun _ => 0) (fun _ _ => Vector.replicate 20 0) waitingConnection
      (errorDatagram 6 0) 600 :=
  carriesError_of_read (by decide) (by decide +kernel) (by decide +kernel) (by decide +kernel)
    (by decide +kernel)

lemma errorDatagram_401 :
    CarriesError (fun _ => 0) (fun _ _ => Vector.replicate 20 0) waitingConnection
      (errorDatagram 4 1) 401 :=
  carriesError_of_read (by decide) (by decide +kernel) (by decide +kernel) (by decide +kernel)
    (by decide +kernel)

theorem globalFail_heeded :
    HeedsError (fun _ => 0) (fun _ _ => Vector.replicate 20 0) []
      (initial fun _ => waitingConnection) 0 (errorDatagram 6 0) 600 5 :=
  (heedsError_iff [] 5 errorDatagram_600).mpr rfl

/-- An `Unauthorized` destroys the connection that is to try again. -/
theorem unauthorized_not_heeded :
    CarriesError (fun _ => 0) (fun _ _ => Vector.replicate 20 0) waitingConnection
        (errorDatagram 4 1) 401 ∧
      ¬ HeedsError (fun _ => 0) (fun _ _ => Vector.replicate 20 0) []
        (initial fun _ => waitingConnection) 0 (errorDatagram 4 1) 401 5 := by
  refine ⟨errorDatagram_401, fun hheeds => ?_⟩
  obtain ⟨msg, hread, -⟩ := errorDatagram_401.response
  have hcode := (hheeds.code msg hread).symm.trans (getErrorCodeValue_of_read hread)
  cases hcode

end XrtcServer.Ice
