import XrtcServer.Ice.ErrorCode
import XrtcServer.Ice.StunSigned

/-!
# Which binding requests a port accepts

`UDPPort::get_stun_message` takes the USERNAME of a request apart, but only its remote half is ever
looked at: a request for another ufrag is accepted as long as its integrity is right. The file says
exactly on which datagrams this shows, and what the error responses of the port contain.
-/

namespace XrtcServer.Ice
open XrtcServer.Base XrtcServer.Core StunMessage

variable {crc32 : Bytes → Nat} {hmac : Bytes → Bytes → Vector UInt8 20} {params : IceParameters}
  {data l r username : Bytes} {msg : StunMessage}

/-! ## The halves of a username -/

lemma split_eq_pair_iff {c : UInt8} :
    split c username = [l, r] ↔ username = l ++ c :: r ∧ c ∉ l ∧ c ∉ r := by
  unfold split
  constructor
  · intro h
    by_cases hmem : c ∈ username
    · obtain ⟨a, b, rfl, ha⟩ := List.eq_append_cons_of_mem hmem
      rw [List.splitOn_append_cons_self_of_not_mem ha] at h
      obtain ⟨rfl, hb⟩ := List.cons.inj h
      by_cases hmem' : c ∈ b
      · obtain ⟨a', b', rfl, ha'⟩ := List.eq_append_cons_of_mem hmem'
        rw [List.splitOn_append_cons_self_of_not_mem ha'] at hb
        exact absurd (List.cons.inj hb).2 (List.splitOn_ne_nil c b')
      · rw [List.splitOn_eq_singleton hmem'] at hb
        obtain ⟨rfl, -⟩ := List.cons.inj hb
        exact ⟨rfl, ha, hmem'⟩
    · rw [List.splitOn_eq_singleton hmem] at h
      cases h
  · rintro ⟨rfl, hl, hr⟩
    rw [List.splitOn_append_cons_self_of_not_mem hl, List.splitOn_eq_singleton hr]

/-- The USERNAME of the message is `l`, a colon and `r`, and has no other colon. -/
def UsernameIs (msg : StunMessage) (l r : Bytes) : Prop :=
  msg.getByteString stunAttrUsername = some (l ++ 58 :: r) ∧ 58 ∉ l ∧ 58 ∉ r

lemma parseStunUsername_eq_some_iff : parseStunUsername msg = some (l, r) ↔ UsernameIs msg l r := by
  unfold parseStunUsername UsernameIs
  cases msg.getByteString stunAttrUsername with
  | none => simp
  | some username =>
    simp only [Option.some.injEq]
    rw [← split_eq_pair_iff]
    constructor
    · intro h
      split at h
      next hsplit =>
        cases h
        exact hsplit
      next => cases h
    · intro h
      rw [h]

/-! ## The requests -/

/-- The datagram passes the fingerprint check and is read as the binding request `msg`. -/
structure IsRequest (crc32 : Bytes → Nat) (data : Bytes) (msg : StunMessage) : Prop where
  fingerprint : validateFingerprint crc32 data = .ok true
  read : read data = some msg
  type : msg.type = stunBindingRequest

/-- The request names the port and the remote ufrag `r`, and its integrity is right. -/
structure Authentic (hmac : Bytes → Bytes → Vector UInt8 20) (params : IceParameters) (data : Bytes)
    (msg : StunMessage) (r : Bytes) : Prop where
  username : UsernameIs msg params.iceUfrag r
  present : (msg.getByteString stunAttrMessageIntegrity).isSome = true
  integrity : validateMessageIntegrityOfType (digestOf hmac) data params.icePwd = .ok true

/-- The error that a request gets which is not accepted. -/
def refusal (msg : StunMessage) : Int × String :=
  if (msg.getByteString stunAttrUsername).isNone ∨
      (msg.getByteString stunAttrMessageIntegrity).isNone then
    (stunErrorBadRequest, "Bad request")
  else (stunErrorUnathorized, "Unathorized")

/-- A binding request comes out of `get_stun_message` only if it is authentic, with its remote
ufrag; every other one is answered with an error. -/
structure AnswersRequests (crc32 : Bytes → Nat) (hmac : Bytes → Bytes → Vector UInt8 20)
    (params : IceParameters) (data : Bytes) : Prop where
  accepted : ∀ result msg,
    getStunMessage crc32 (digestOf hmac) params.icePwd data = .ok result →
    result.outMsg = some msg → msg.type = stunBindingRequest →
    Authentic hmac params data msg result.outUsername
  refused : ∀ msg, IsRequest crc32 data msg → (¬ ∃ r, Authentic hmac params data msg r) →
    getStunMessage crc32 (digestOf hmac) params.icePwd data =
      .ok { ret := true, errorResponse := some (refusal msg) }

/-- Where a request has both attributes and a username of two halves, the check of its integrity
stays inside it, and if that succeeds, the first half is the ufrag of the port. -/
def ChecksOut (crc32 : Bytes → Nat) (hmac : Bytes → Bytes → Vector UInt8 20)
    (params : IceParameters) (data : Bytes) : Prop :=
  ∀ msg l r, IsRequest crc32 data msg → UsernameIs msg l r →
    (msg.getByteString stunAttrMessageIntegrity).isSome = true →
    ¬ Overreads data ∧
      (validateMessageIntegrityOfType (digestOf hmac) data params.icePwd = .ok true →
        l = params.iceUfrag)

lemma UsernameIs.unique {l' r' : Bytes} (h : UsernameIs msg l r) (h' : UsernameIs msg l' r') :
    l = l' ∧ r = r' := by
  have heq :=
    (parseStunUsername_eq_some_iff.mpr h).symm.trans (parseStunUsername_eq_some_iff.mpr h')
  rwa [Option.some.injEq, Prod.mk.injEq] at heq

lemma UsernameIs.isNone (h : UsernameIs msg l r) :
    (msg.getByteString stunAttrUsername).isNone = false := by
  rw [h.1, Option.isNone_some]

section request
variable (h : IsRequest crc32 data msg)
include h

/-- Without a username of two halves or without MESSAGE-INTEGRITY the request is refused. -/
lemma IsRequest.refused (icePwd : Bytes) (hnot : (¬ ∃ l r, UsernameIs msg l r) ∨
    (msg.getByteString stunAttrMessageIntegrity).isNone = true) :
    getStunMessage crc32 (digestOf hmac) icePwd data =
      .ok { ret := true, errorResponse := some (refusal msg) } := by
  unfold getStunMessage refusal
  simp only [h.fingerprint, bind, Except.bind, Bool.not_true, Bool.false_eq_true, if_false, h.read,
    if_pos h.type]
  split_ifs with hmissing
  · rfl
  · have hparse : parseStunUsername msg = none := by
      cases hp : parseStunUsername msg with
      | none => rfl
      | some halves =>
        exact absurd ⟨_, _, parseStunUsername_eq_some_iff.mp hp⟩
          (hnot.resolve_right fun hnone => hmissing (.inr hnone))
    rw [hparse]
    rfl

/-- With both, the integrity check decides. -/
lemma IsRequest.checked (hmac : Bytes → Bytes → Vector UInt8 20) (icePwd : Bytes)
    (huser : UsernameIs msg l r)
    (hpresent : (msg.getByteString stunAttrMessageIntegrity).isSome = true) :
    getStunMessage crc32 (digestOf hmac) icePwd data =
      (validateMessageIntegrityOfType (digestOf hmac) data icePwd).map fun ok =>
        if ok then
          { ret := true, outMsg := some { msg with integrity := .kIntegrityOk }, outUsername := r }
        else { ret := true, errorResponse := some (refusal msg) } := by
  have hbuffer := (read_eq_some h.read).1
  have hnone : (msg.getByteString stunAttrMessageIntegrity).isNone = false := by
    rw [← Option.not_isSome, hpresent]
    rfl
  unfold getStunMessage refusal validateMessageIntegrity
  simp only [h.fingerprint, bind, Except.bind, Bool.not_true, Bool.false_eq_true, if_false, h.read,
    if_pos h.type, huser.isNone, hnone, or_self, parseStunUsername_eq_some_iff.mpr huser, hpresent,
    if_true, hbuffer]
  cases validateMessageIntegrityOfType (digestOf hmac) data icePwd with
  | error e => rfl
  | ok b => cases b <;> rfl

/-- The check of the integrity comes to an end on a request exactly if it does not leave it. -/
lemma IsRequest.exists_validate_iff (hmac : Bytes → Bytes → Vector UInt8 20) (icePwd : Bytes)
    (hpresent : (msg.getByteString stunAttrMessageIntegrity).isSome = true) :
    (∃ ok, validateMessageIntegrityOfType (digestOf hmac) data icePwd = .ok ok) ↔
      ¬ Overreads data := by
  have hbuffer := (read_eq_some h.read).1
  have hiff := exists_validateMessageIntegrity_iff (digestOf hmac) msg icePwd
  rw [hbuffer, forall_prop_of_true hpresent] at hiff
  rw [← hiff]
  constructor
  · rintro ⟨msg', hval⟩
    exact not_overreads_of_validate h.read hval
  · intro hinside
    exact exists_validate_of_not_overreads hinside h.read hmac icePwd

end request

lemma exists_isRequest {result : StunResult}
    (h : getStunMessage crc32 (digestOf hmac) params.icePwd data = .ok result)
    (hmsg : result.outMsg = some msg) (htype : msg.type = stunBindingRequest) :
    ∃ msg₀, IsRequest crc32 data msg₀ := by
  unfold getStunMessage at h
  obtain ⟨fp, hfp, h⟩ := bind_eq_ok.mp h
  cases fp with
  | false =>
    cases h
    cases hmsg
  | true =>
    cases hread : read data with
    | none =>
      rw [hread] at h
      cases h
      cases hmsg
    | some msg₀ =>
      refine ⟨msg₀, hfp, hread, ?_⟩
      by_contra hother
      simp only [hread, Bool.not_true, Bool.false_eq_true, if_false, if_neg hother] at h
      cases h
      cases hmsg
      exact hother htype

lemma AnswersRequests.checksOut (h : AnswersRequests crc32 hmac params data) :
    ChecksOut crc32 hmac params data := by
  intro msg l r hreq huser hpresent
  have hchecked := hreq.checked hmac params.icePwd huser hpresent
  constructor
  · rw [← hreq.exists_validate_iff hmac params.icePwd hpresent]
    cases hval : validateMessageIntegrityOfType (digestOf hmac) data params.icePwd with
    | ok b => exact ⟨b, rfl⟩
    | error e =>
      have hnot : ¬ ∃ r, Authentic hmac params data msg r := by
        rintro ⟨r', hauth⟩
        cases hval.symm.trans hauth.integrity
      rw [h.refused msg hreq hnot, hval] at hchecked
      cases hchecked
  · intro hval
    rw [hval] at hchecked
    exact (huser.unique (h.accepted _ _ hchecked rfl hreq.type).username).1

lemma ChecksOut.answersRequests (h : ChecksOut crc32 hmac params data) :
    AnswersRequests crc32 hmac params data := by
  constructor
  · intro result msg hresult hmsg htype
    obtain ⟨msg₀, hreq⟩ := exists_isRequest hresult hmsg htype
    by_cases hnot : (¬ ∃ l r, UsernameIs msg₀ l r) ∨
        (msg₀.getByteString stunAttrMessageIntegrity).isNone = true
    · rw [hreq.refused params.icePwd hnot] at hresult
      cases hresult
      cases hmsg
    · obtain ⟨huser, hsome⟩ := not_or.mp hnot
      obtain ⟨l, r, huser⟩ := not_not.mp huser
      have hpresent : (msg₀.getByteString stunAttrMessageIntegrity).isSome = true := by
        rw [Option.isSome_iff_ne_none]
        simpa using hsome
      rw [hreq.checked hmac params.icePwd huser hpresent] at hresult
      obtain ⟨ok, hval, hok⟩ := map_eq_ok.mp hresult
      cases ok with
      | false =>
        cases hok
        cases hmsg
      | true =>
        cases hok
        cases hmsg
        obtain rfl := (h msg₀ l r hreq huser hpresent).2 hval
        exact ⟨huser, hpresent, hval⟩
  · intro msg hreq hother
    by_cases hnot : (¬ ∃ l r, UsernameIs msg l r) ∨
        (msg.getByteString stunAttrMessageIntegrity).isNone = true
    · exact hreq.refused params.icePwd hnot
    · obtain ⟨huser, hsome⟩ := not_or.mp hnot
      obtain ⟨l, r, huser⟩ := not_not.mp huser
      have hpresent : (msg.getByteString stunAttrMessageIntegrity).isSome = true := by
        rw [Option.isSome_iff_ne_none]
        simpa using hsome
      obtain ⟨hinside, hnamed⟩ := h msg l r hreq huser hpresent
      obtain ⟨ok, hval⟩ := (hreq.exists_validate_iff hmac params.icePwd hpresent).mpr hinside
      rw [hreq.checked hmac params.icePwd huser hpresent, hval]
      cases ok with
      | false => rfl
      | true =>
        obtain rfl := hnamed hval
        exact absurd ⟨r, huser, hpresent, hval⟩ hother

/-- The requests that the port accepts are those that name it, and the others get their error,
exactly where what the code leaves unchecked is right. -/
theorem answersRequests_iff (crc32 : Bytes → Nat) (hmac : Bytes → Bytes → Vector UInt8 20)
    (params : IceParameters) (data : Bytes) :
    AnswersRequests crc32 hmac params data ↔ ChecksOut crc32 hmac params data :=
  ⟨fun h => h.checksOut, fun h => h.answersRequests⟩

/-- A request of the user `a:b` passes on a port with the ufrag `x`. -/
theorem foreignRequest_accepted :
    ¬ AnswersRequests (fun _ => 0) (fun _ _ => Vector.replicate 20 0) ⟨[120], []⟩
      (requestWith [] []) := by
  intro h
  have haccepted : getStunMessage (fun _ => 0) (digestOf fun _ _ => Vector.replicate 20 0) []
      (requestWith [] []) = .ok {
        ret := true, outUsername := [98]
        outMsg := some {
          type := stunBindingRequest, length := 40, transactionId := List.replicate 12 7
          attrs := [.byteString 6 [97, 58, 98], .byteString 8 (List.replicate 20 0)]
          integrity := .kIntegrityOk, buffer := requestWith [] [] } } := by
    decide +kernel
  have huser := (h.accepted _ _ haccepted rfl rfl).username.1
  cases huser

/-! ## The error responses -/

/-- `UDPPort::send_binding_error_response`, with the datagram it sends. -/
def sendBindingErrorResponse (crc32 : Bytes → Nat) (hmac : Bytes → Bytes → Bytes)
    (icePwd : Bytes) (msg : StunMessage) (errCode : Int) (reason : String) : Option Bytes :=
  let response := build 0x0111 msg.transactionId [.createErrorCode errCode reason.toUTF8.toList]
  let response :=
    if errCode ≠ stunErrorBadRequest ∧ errCode ≠ stunErrorUnathorized then
      (response.addMessageIntegrity hmac icePwd).1
    else response
  (response.addFingerprint crc32).1.write

lemma IsRequest.length_transactionId (h : IsRequest crc32 data msg) :
    msg.transactionId.length = kStunTransactionIdLength := by
  have hlen := length_of_read h.read
  rw [kStunHeaderSize] at hlen
  obtain ⟨-, -, attrs, -, rfl⟩ := read_eq_some_iff.mp h.read
  have hfingerprint := h.fingerprint
  unfold validateFingerprint kStunTransactionIdOffset kStunMagicCookieLength at hfingerprint
  dsimp only at hfingerprint
  split at hfingerprint
  · cases hfingerprint
  · obtain ⟨cookie, hcookie, hfingerprint⟩ := bind_eq_ok.mp hfingerprint
    split at hfingerprint
    · cases hfingerprint
    · rename_i hmagic
      obtain ⟨-, hcookie⟩ := getBE_eq_ok hcookie
      rw [headerTransactionId, kStunMagicCookieLength, hcookie, if_neg hmagic, List.length_take,
        List.length_drop, kStunTransactionIdLength]
      omega

section response
variable {crc32 : Bytes → UInt32} {id : Bytes} {type : UInt16} {a : StunAttribute}

/-- A message of one attribute with a fingerprint is read again, with the attribute in it. -/
lemma read_fingerprinted (crc32 : Bytes → UInt32) (type : UInt16) (hbit : type.toNat &&& 0x0800 = 0)
    (hid : id.length = kStunTransactionIdLength) (ha : a.Made)
    (hprio : a.type ≠ stunAttrPriority) {body : Bytes} (hbody : a.write = some body)
    (hlen : body.length + 40 < 2 ^ 16) :
    ∃ sent msg', ((build type id [a]).addFingerprint (checksumOf crc32)).1.write = some sent ∧
      validateFingerprint (checksumOf crc32) sent = .ok true ∧ read sent = some msg' ∧
      msg'.type = type.toNat ∧ msg'.transactionId = id ∧
      ∃ T, Tiles (sent.drop kStunHeaderSize) T ∧ T.head? = some a.tlv := by
  obtain ⟨l, hl⟩ : ∃ l, l = toBE 2 a.type ++ (toBE 2 a.length ++ body) := ⟨_, rfl⟩
  have hmade : ∀ b ∈ [a], b.Made := List.forall_mem_singleton.mpr ha
  have hwrite : writeAttributes [a] = some l := by
    rw [hl]
    simp [writeAttributes, hbody, bind]
  have hlength : l.length = 4 + body.length := by
    rw [hl, List.length_append, List.length_append, length_toBE, length_toBE]
    omega
  have hmod := (tiles_writeAttributes hmade hwrite (by omega)).length_mod
  have hadd := addFingerprint_build crc32 type id .kNotSet hmade hwrite (by omega)
  obtain ⟨value, hvalue⟩ : ∃ value, value =
    checksumOf crc32 (writeHeader type.toNat (l.length + 8) id ++ l) ^^^ stunFingerprintXorValue :=
      ⟨_, rfl⟩
  rw [← hvalue] at hadd
  have hmade' : ∀ b ∈ [a] ++ [.uint32 stunAttrFingerprint value], b.Made := by
    rw [List.forall_mem_append, List.forall_mem_singleton, List.forall_mem_singleton, hvalue]
    exact ⟨ha, made_fingerprint _⟩
  have hsync : ∀ b ∈ [a] ++ [.uint32 stunAttrFingerprint value], InSync b.tlv := by
    rw [List.forall_mem_append, List.forall_mem_singleton, List.forall_mem_singleton]
    exact ⟨fun h => absurd h hprio, fun h => by cases h⟩
  have hencode := length_encodeFingerprint value
  have hwrite' := writeAttributes_fingerprint hwrite value
  have hsent := write_build_eq type id hmade' hwrite'
    (by rw [List.length_append, hencode]; omega)
  obtain ⟨sent, hdata⟩ : ∃ sent, sent =
    writeHeader type.toNat (l ++ encodeFingerprint value).length id ++
      (l ++ encodeFingerprint value) := ⟨_, rfl⟩
  rw [← hdata] at hsent
  have hsize : sent.length < 2 ^ 16 := by
    rw [hdata, List.length_append, length_writeHeader hid, List.length_append, hencode,
      kStunHeaderSize]
    omega
  have hread := read_of_write hbit hid hmade' hsync hsent hsize
  have hdrop : sent.drop kStunHeaderSize = l ++ encodeFingerprint value := by
    rw [hdata]
    exact List.drop_left' (length_writeHeader hid)
  refine ⟨sent, _, ?write, ?fingerprint, hread, rfl, rfl,
    [a, StunAttribute.uint32 stunAttrFingerprint value].map StunAttribute.tlv, ?tiles, rfl⟩
  case write =>
    have hplain : { build type id [a] with integrity := .kNotSet } = build type id [a] := by
      rw [build_eq]
    rw [hplain] at hadd
    rw [hadd]
    exact hsent
  case fingerprint =>
    refine validateFingerprint_signed type (l.length + 8) hid hmod ?_
    rw [hdata, hvalue, List.length_append, length_encodeFingerprint, List.append_assoc]
  case tiles =>
    rw [hdrop]
    exact tiles_writeAttributes hmade' hwrite' (by rw [List.length_append, hencode]; omega)

/-- What a refused request gets is read as a binding error response to it, and the first attribute
has the code of the error and its reason. -/
theorem refusal_sent (h : IsRequest (checksumOf crc32) data msg) (icePwd : Bytes) :
    ∃ sent msg', sendBindingErrorResponse (checksumOf crc32) (digestOf hmac) icePwd msg
        (refusal msg).1 (refusal msg).2 = some sent ∧
      validateFingerprint (checksumOf crc32) sent = .ok true ∧ read sent = some msg' ∧
      msg'.type = stunBindingErrorResponse ∧ msg'.transactionId = msg.transactionId ∧
      ∃ T, Tiles (sent.drop kStunHeaderSize) T ∧ T.head? =
        some (StunAttribute.createErrorCode (refusal msg).1 (refusal msg).2.toUTF8.toList).tlv := by
  obtain ⟨errCode, errReason, hrefusal, hcode, hreason⟩ : ∃ errCode errReason,
      refusal msg = (errCode, errReason) ∧
      ¬ (errCode ≠ stunErrorBadRequest ∧ errCode ≠ stunErrorUnathorized) ∧
      errReason.toUTF8.toList.length ≤ 12 := by
    unfold refusal
    split
    · exact ⟨_, _, rfl, by decide, by decide +kernel⟩
    · exact ⟨_, _, rfl, by decide, by decide +kernel⟩
  have hmade := StunAttribute.made_createErrorCode errCode errReason.toUTF8.toList
  obtain ⟨body, hbody⟩ : ∃ body, (StunAttribute.createErrorCode errCode
    errReason.toUTF8.toList).write = some body := ⟨_, rfl⟩
  have hlen : body.length + 40 < 2 ^ 16 := by
    cases hbody
    have hpad := StunAttribute.length_writePadding
      ((4 + errReason.toUTF8.toList.length) % 2 ^ 16)
    simp only [StunAttribute.length, stunErrorCodeMinSize, List.length_append, length_toBE]
    unfold padded at hpad
    split at hpad <;> omega
  obtain ⟨sent, msg', hwrite, hfingerprint, hread, htype, hid, T, hT, hhead⟩ :=
    read_fingerprinted crc32 0x0111 (by decide) h.length_transactionId hmade
      (fun h => by cases h) hbody hlen
  rw [hrefusal]
  refine ⟨sent, msg', ?_, hfingerprint, hread, htype, hid, T, hT, hhead⟩
  unfold sendBindingErrorResponse
  dsimp only
  rw [if_neg hcode]
  exact hwrite

end response

end XrtcServer.Ice
