import XrtcServer.Ice.BindingRequest
import XrtcServer.Ice.Responses
import XrtcServer.Ice.WriteStates

/-!
# A ping and its answer

What a connection sends as a ping, and what the connection at the other end sends back. Between two
ends that know each other's credentials a ping that is not disturbed comes back as a response that
the pinging connection takes, unless there is a colon in one of the ufrags.
-/

namespace XrtcServer.Ice
open XrtcServer.Base XrtcServer.Core StunMessage IceTransportChannel

def stunAttrXorMappedAddress : Nat := 0x0020
def stunAttrUseCandidate : Nat := 0x0025
def stunAttrIceControlling : Nat := 0x802A
def iceTypePreferencePrflx : UInt32 := 110

/-- `UDPPort::create_stun_username` of a port with the ufrag `iceUfrag`. -/
def createStunUsername (iceUfrag remoteUsername : Bytes) : Bytes :=
  remoteUsername ++ 58 :: iceUfrag

/-- The attributes that `ConnectionRequest::prepare` adds before the message is signed. -/
def prepareAttributes (params : IceParameters) (conn : IceConnection) : List StunAttribute :=
  let username := createStunUsername params.iceUfrag conn.remoteCandidate.username
  let prflxPriority := (iceTypePreferencePrflx <<< 24) ||| (conn.localPriority &&& 0x00FFFFFF)
  [.ofString stunAttrUsername username, .uint64 stunAttrIceControlling 0,
    .ofString stunAttrUseCandidate [], .uint32 stunAttrPriority prflxPriority.toNat]

/-- `ConnectionRequest::prepare` of the transaction `id`, on a port with these parameters. -/
def prepare (crc32 : Bytes → Nat) (hmac : Bytes → Bytes → Bytes) (params : IceParameters)
    (conn : IceConnection) (id : TransactionId) : StunMessage :=
  let msg := build 0x0001 id (prepareAttributes params conn)
  let msg := (msg.addMessageIntegrity hmac conn.remoteCandidate.password).1
  (msg.addFingerprint crc32).1

/-- `StunRequest::send` of a ping: the datagram, if there is one. -/
def sendPing (crc32 : Bytes → Nat) (hmac : Bytes → Bytes → Bytes) (params : IceParameters)
    (conn : IceConnection) (id : TransactionId) : Option Bytes :=
  (prepare crc32 hmac params conn id).write

/-- The attributes that `send_stun_binding_response` adds before the message is signed. -/
def responseAttributes (conn : IceConnection) : List StunAttribute :=
  [.xorAddress stunAttrXorMappedAddress conn.remoteCandidate.address]

/-- `IceConnection::send_stun_binding_response`, with the datagram it sends. -/
def sendStunBindingResponse (crc32 : Bytes → Nat) (hmac : Bytes → Bytes → Bytes) (icePwd : Bytes)
    (conn : IceConnection) (msg : StunMessage) : Option Bytes :=
  if (msg.getByteString stunAttrUsername).isNone then none
  else
    let response := build 0x0101 msg.transactionId (responseAttributes conn)
    let response := (response.addMessageIntegrity hmac icePwd).1
    (response.addFingerprint crc32).1.write

/-- The datagram that `IceConnection::on_read_packet` of the connection `conn` sends back. -/
def reply (crc32 : Bytes → Nat) (hmac : Bytes → Bytes → Bytes) (params : IceParameters)
    (conn : IceConnection) (data : Bytes) : Except OutOfBounds (Option Bytes) := do
  let result ← getStunMessage crc32 hmac params.icePwd data
  match result.errorResponse with
  | some (errCode, reason) =>
    return (read data).bind fun msg =>
      sendBindingErrorResponse crc32 hmac params.icePwd msg errCode reason
  | none =>
    match result.outMsg with
    | none => return none
    | some msg =>
      if msg.type = stunBindingRequest then
        if result.outUsername ≠ conn.remoteCandidate.username then
          return sendBindingErrorResponse crc32 hmac params.icePwd msg stunErrorUnathorized
            "Unathorized"
        else return sendStunBindingResponse crc32 hmac params.icePwd conn msg
      else return none

variable {hmac : Bytes → Bytes → Vector UInt8 20} {crc32 : Bytes → UInt32}
  {attrs : List StunAttribute} {l id data password : Bytes} {type : UInt16}
  {msg : StunMessage} {params params' : IceParameters} {conn conn' : IceConnection}

/-! ## What a signed message is read as -/

/-- The datagram has both checks right and is read as `msg`. -/
structure ReadAs (crc32 : Bytes → UInt32) (hmac : Bytes → Bytes → Vector UInt8 20)
    (password data : Bytes) (msg : StunMessage) : Prop where
  fingerprint : validateFingerprint (checksumOf crc32) data = .ok true
  integrity : validateMessageIntegrityOfType (digestOf hmac) data password = .ok true
  read : read data = some msg

lemma filter_append_fingerprint (attrs : List StunAttribute) (v : Nat) :
    (attrs ++ [StunAttribute.uint32 stunAttrFingerprint v]).filter (·.IsKnown) =
      attrs.filter (·.IsKnown) := by
  have hunknown : ¬ (StunAttribute.uint32 stunAttrFingerprint v).IsKnown := by
    have hne : ¬ (stunAttrFingerprint = stunAttrUsername ∨
      stunAttrFingerprint = stunAttrMessageIntegrity ∨
        stunAttrFingerprint = stunAttrPriority) := by decide
    exact hne
  rw [List.filter_append, List.filter_cons_of_neg (by simpa using hunknown), List.filter_nil,
    List.append_nil]

/-- A message that has a fingerprint but no signature is read with the attributes that were added. -/
lemma fingerprinted_read (crc32 : Bytes → UInt32) (hbit : type.toNat &&& 0x0800 = 0)
    (hid : id.length = kStunTransactionIdLength) (hmade : ∀ a ∈ attrs, a.Made)
    (hkind : ∀ a ∈ attrs, a.KindOfType) (hl : writeAttributes attrs = some l)
    (hlen : l.length + 28 < 2 ^ 16) :
    ∃ sent msg, ((build type id attrs).addFingerprint (checksumOf crc32)).1.write = some sent ∧
      validateFingerprint (checksumOf crc32) sent = .ok true ∧ read sent = some msg ∧
      msg.type = type.toNat ∧ msg.attrs = attrs.filter (·.IsKnown) := by
  have hmod := (tiles_writeAttributes hmade hl (by omega)).length_mod
  have hadd := addFingerprint_build crc32 type id .kNotSet hmade hl (by omega)
  have hplain : { build type id attrs with integrity := .kNotSet } = build type id attrs := by
    rw [build_eq]
  rw [hplain] at hadd
  obtain ⟨value, hvalue⟩ : ∃ value, value =
    checksumOf crc32 (writeHeader type.toNat (l.length + 8) id ++ l) ^^^ stunFingerprintXorValue :=
      ⟨_, rfl⟩
  have hmade' : ∀ a ∈ attrs ++ [.uint32 stunAttrFingerprint value], a.Made := by
    rw [List.forall_mem_append, List.forall_mem_singleton, hvalue]
    exact ⟨hmade, made_fingerprint _⟩
  have hkind' : ∀ a ∈ attrs ++ [.uint32 stunAttrFingerprint value], a.KindOfType := by
    rw [List.forall_mem_append, List.forall_mem_singleton]
    exact ⟨hkind, trivial⟩
  have hencode := length_encodeFingerprint value
  have hsent := write_build_eq type id hmade' (writeAttributes_fingerprint hl value)
    (by rw [List.length_append, hencode]; omega)
  have hsize : (writeHeader type.toNat (l ++ encodeFingerprint value).length id ++
      (l ++ encodeFingerprint value)).length < 2 ^ 16 := by
    rw [List.length_append, length_writeHeader hid, List.length_append, hencode, kStunHeaderSize]
    omega
  obtain ⟨msg, hread, htype, -, -, hattrs⟩ :=
    read_of_write_build hbit hid hmade' hkind' hsent hsize
  refine ⟨_, msg, ?_, ?_, hread, htype, hattrs.trans (filter_append_fingerprint _ _)⟩
  · rw [hadd, ← hvalue]
    exact hsent
  · refine validateFingerprint_signed type (l.length + 8) hid hmod ?_
    rw [List.length_append, hencode, hvalue, List.append_assoc]

variable (hmac crc32) in
lemma signed_read (hbit : type.toNat &&& 0x0800 = 0) (hid : id.length = kStunTransactionIdLength)
    (hsign : Signable attrs) (hkind : ∀ a ∈ attrs, a.KindOfType) (password : Bytes)
    (hl : writeAttributes attrs = some l) (hlen : l.length + 52 < 2 ^ 16) :
    ∃ sent msg digest,
      (((build type id attrs).addMessageIntegrity (digestOf hmac) password).1.addFingerprint
        (checksumOf crc32)).1.write = some sent ∧
      ReadAs crc32 hmac password sent msg ∧ msg.type = type.toNat ∧ msg.transactionId = id ∧
      msg.attrs = attrs.filter (·.IsKnown) ++
        [.byteString stunAttrMessageIntegrity digest] := by
  obtain ⟨digest, hdigest⟩ : ∃ digest, digest =
      digestOf hmac password (writeHeader type.toNat (l.length + 24) id ++ l) := ⟨_, rfl⟩
  have hdigestLength : digest.length = 20 := by
    rw [hdigest]
    exact length_digestOf _ _
  have hencode := length_encodeIntegrity hdigestLength
  have hwrite := writeAttributes_integrity hl hdigestLength
  have hmade : ∀ a ∈ attrs ++ [.byteString stunAttrMessageIntegrity digest], a.Made := by
    rw [List.forall_mem_append]
    exact ⟨hsign.made, List.forall_mem_singleton.mpr (made_integrity hdigestLength)⟩
  obtain ⟨sent, hsent, hfingerprint, hverified⟩ :=
    @verified_fingerprint hmac crc32 _ _ _ _ _ _ hbit hid hsign hl hlen hdigest _ rfl
  have hmade' := List.forall_mem_append.mpr ⟨hmade, List.forall_mem_singleton.mpr
    (@made_fingerprint crc32
      (writeHeader type.toNat (l.length + 32) id ++ (l ++ encodeIntegrity digest)))⟩
  have hkind' : ∀ a ∈ attrs ++ [.byteString stunAttrMessageIntegrity digest] ++
      [.uint32 stunAttrFingerprint (checksumOf crc32 (writeHeader type.toNat (l.length + 32) id ++
        (l ++ encodeIntegrity digest)) ^^^ stunFingerprintXorValue)], a.KindOfType := by
    rw [List.forall_mem_append, List.forall_mem_append]
    exact ⟨⟨hkind, List.forall_mem_singleton.mpr ⟨digest, rfl⟩⟩,
      List.forall_mem_singleton.mpr trivial⟩
  have hsize : sent.length < 2 ^ 16 := by
    have hbuilt := write_build_eq type id hmade' (writeAttributes_fingerprint hwrite _)
      (by rw [List.length_append, List.length_append, hencode, length_encodeFingerprint]; omega)
    rw [hsent, Option.some.injEq] at hbuilt
    rw [hbuilt, List.length_append, length_writeHeader hid, List.length_append, List.length_append,
      hencode, length_encodeFingerprint, kStunHeaderSize]
    omega
  obtain ⟨msg, hread, htype, hident, -, hattrs⟩ :=
    read_of_write_build hbit hid hmade' hkind' hsent hsize
  have hintegrity := addMessageIntegrity_build hmac password type id hsign.made hl
    (by omega) hdigest
  refine ⟨sent, msg, digest, ?_, ⟨hfingerprint, ?_, hread⟩, htype, hident, ?_⟩
  · rw [hintegrity, addFingerprint_build _ _ _ _ hmade hwrite
      (by rw [List.length_append, hencode]; omega), List.length_append, hencode]
    exact hsent
  · obtain ⟨msg₀, msg', hread₀, hval, hok⟩ := hverified
    have hchecked := (validateMessageIntegrity_spec hval).2 hok
    rwa [(read_eq_some hread₀).1] at hchecked
  · have hknown : (StunAttribute.byteString stunAttrMessageIntegrity digest).IsKnown :=
      Or.inr (Or.inl rfl)
    rw [hattrs, filter_append_fingerprint, List.filter_append, List.filter_cons_of_pos (by simpa),
      List.filter_nil]

/-! ## The ping -/

lemma prepareAttributes_signable (params : IceParameters) (conn : IceConnection) :
    Signable (prepareAttributes params conn) where
  made := by
    simp only [prepareAttributes, List.forall_mem_cons]
    exact ⟨.byteString 6 _, .uint64 0x802A 0, .byteString 0x25 [], .uint32 0x24 _, by simp⟩
  other := by
    simp only [prepareAttributes, List.forall_mem_cons]
    have hothers : ∀ n ∈ [stunAttrUsername, stunAttrIceControlling, stunAttrUseCandidate,
        stunAttrPriority], n ≠ stunAttrMessageIntegrity ∧ n ≠ stunAttrFingerprint := by decide
    simp only [List.forall_mem_cons] at hothers
    exact ⟨hothers.1, hothers.2.1, hothers.2.2.1, hothers.2.2.2.1, by simp⟩
  priority := by
    simp only [prepareAttributes, List.forall_mem_cons]
    exact ⟨nofun, nofun, nofun, fun _ => ⟨_, rfl⟩, by simp⟩

lemma prepareAttributes_kind (params : IceParameters) (conn : IceConnection) :
    ∀ a ∈ prepareAttributes params conn, a.KindOfType := by
  simp only [prepareAttributes, List.forall_mem_cons]
  exact ⟨⟨_, rfl⟩, trivial, trivial, ⟨_, rfl⟩, by simp⟩

/-- The username of a ping is short enough to be written as it is. -/
def Fits (params : IceParameters) (conn : IceConnection) : Prop :=
  conn.remoteCandidate.username.length + params.iceUfrag.length < 2 ^ 16 - 100

lemma Fits.ofString (h : Fits params conn) : StunAttribute.ofString stunAttrUsername
    (createStunUsername params.iceUfrag conn.remoteCandidate.username) =
      .byteString stunAttrUsername
        (createStunUsername params.iceUfrag conn.remoteCandidate.username) := by
  have hlength : (createStunUsername params.iceUfrag conn.remoteCandidate.username).length < 2 ^ 16 := by
    rw [createStunUsername, List.length_append, List.length_cons]
    unfold Fits at h
    omega
  rw [StunAttribute.ofString, Nat.mod_eq_of_lt hlength, List.take_length]

lemma Fits.writeAttributes (h : Fits params conn) : ∃ l,
    writeAttributes (prepareAttributes params conn) = some l ∧ l.length + 52 < 2 ^ 16 := by
  unfold prepareAttributes
  dsimp only
  rw [h.ofString]
  refine ⟨_, rfl, ?_⟩
  unfold Fits at h
  have hpad := StunAttribute.length_writePadding
    (createStunUsername params.iceUfrag conn.remoteCandidate.username).length
  have hle : padded (createStunUsername params.iceUfrag conn.remoteCandidate.username).length ≤
      conn.remoteCandidate.username.length + params.iceUfrag.length + 4 := by
    rw [createStunUsername, List.length_append, List.length_cons]
    unfold padded
    split <;> omega
  have hempty : (List.take (0 % 2 ^ 16) ([] : Bytes)).length = 0 := rfl
  have hnone : (StunAttribute.writePadding 0).length = 0 := rfl
  simp only [List.length_append, length_toBE, List.length_nil, hempty, hnone]
  omega

/-- A ping is a binding request under the password of the remote candidate, and its username is made
of both ufrags. -/
lemma exists_ping (crc32 : Bytes → UInt32) (hmac : Bytes → Bytes → Vector UInt8 20)
    (hid : id.length = kStunTransactionIdLength) (h : Fits params conn) :
    ∃ ping msg, sendPing (checksumOf crc32) (digestOf hmac) params conn id = some ping ∧
      ReadAs crc32 hmac conn.remoteCandidate.password ping msg ∧ msg.type = stunBindingRequest ∧
      msg.transactionId = id ∧ msg.getByteString stunAttrUsername =
        some (createStunUsername params.iceUfrag conn.remoteCandidate.username) ∧
      (msg.getByteString stunAttrMessageIntegrity).isSome = true := by
  obtain ⟨l, hl, hlen⟩ := h.writeAttributes
  obtain ⟨ping, msg, digest, hsent, hread, htype, hident, hattrs⟩ :=
    signed_read hmac crc32 (by decide : (0x0001 : UInt16).toNat &&& 0x0800 = 0) hid
      (prepareAttributes_signable params conn) (prepareAttributes_kind params conn)
      conn.remoteCandidate.password hl hlen
  refine ⟨ping, msg, hsent, hread, htype, hident, ?_, ?_⟩
  · rw [getByteString, hattrs]
    unfold prepareAttributes
    dsimp only
    rw [h.ofString]
    rfl
  · rw [getByteString, hattrs]
    rfl

/-! ## The answer -/

/-- A response can be written where the remote address is an IPv4 address. -/
lemma exists_response (crc32 : Bytes → UInt32) (hmac : Bytes → Bytes → Vector UInt8 20)
    (icePwd : Bytes) (hid : msg.transactionId.length = kStunTransactionIdLength)
    (huser : (msg.getByteString stunAttrUsername).isSome = true)
    (haddr : conn.remoteCandidate.address.family = .ipv4) :
    ∃ sent answer, sendStunBindingResponse (checksumOf crc32) (digestOf hmac) icePwd conn msg =
        some sent ∧
      ReadAs crc32 hmac icePwd sent answer ∧ answer.type = stunBindingResponse ∧
      answer.transactionId = msg.transactionId ∧
      (answer.getByteString stunAttrMessageIntegrity).isSome = true := by
  have hsign : Signable (responseAttributes conn) := by
    refine ⟨List.forall_mem_singleton.mpr (.xorAddress 0x20 _), List.forall_mem_singleton.mpr ?_,
      List.forall_mem_singleton.mpr nofun⟩
    have hne : stunAttrXorMappedAddress ≠ stunAttrMessageIntegrity ∧
      stunAttrXorMappedAddress ≠ stunAttrFingerprint := by decide
    exact hne
  obtain ⟨body, hbody⟩ : ∃ body, StunAttribute.writeXorAddress conn.remoteCandidate.address =
      some body := by
    unfold StunAttribute.writeXorAddress StunAttribute.getXoredIp
    rw [haddr]
    exact ⟨_, rfl⟩
  obtain ⟨l, hl⟩ : ∃ l, writeAttributes (responseAttributes conn) = some l ∧
      l.length + 52 < 2 ^ 16 := by
    have hlength := StunAttribute.length_writeXorAddress hbody
    rw [StunAttribute.addressLength, haddr] at hlength
    refine ⟨_, by simp only [responseAttributes, writeAttributes, StunAttribute.write, hbody]; rfl,
      ?_⟩
    simp only [List.length_append, length_toBE, hlength, List.length_nil]
    omega
  obtain ⟨sent, answer, digest, hsent, hread, htype, hident, hattrs⟩ :=
    signed_read hmac crc32 (by decide : (0x0101 : UInt16).toNat &&& 0x0800 = 0) hid hsign
      (List.forall_mem_singleton.mpr trivial) icePwd hl.1 hl.2
  refine ⟨sent, answer, ?_, hread, htype, hident, ?_⟩
  · unfold sendStunBindingResponse
    rw [← Option.not_isSome, huser, Bool.not_true, if_neg Bool.false_ne_true]
    exact hsent
  · rw [getByteString, hattrs]
    rfl

/-- A message other than a request comes out of `get_stun_message` unchecked. -/
lemma getStunMessage_of_read {crc32 : Bytes → Nat} {hmac : Bytes → Bytes → Bytes} (icePwd : Bytes)
    (hfingerprint : validateFingerprint crc32 data = .ok true) (hread : read data = some msg)
    (htype : msg.type ≠ stunBindingRequest) :
    getStunMessage crc32 hmac icePwd data = .ok { ret := true, outMsg := some msg } := by
  unfold getStunMessage
  simp only [hfingerprint, bind, Except.bind, Bool.not_true, Bool.false_eq_true, if_false, hread,
    if_neg htype]
  rfl

/-- A signed response is handed to the request that waits for it. -/
lemma connectionOnReadPacket_of_response {ch : IceTransportChannel} {c : ConnPtr} {ts : Int}
    (icePwd : Bytes) (h : ReadAs crc32 hmac (ch.memory c).remoteCandidate.password data msg)
    (hpresent : (msg.getByteString stunAttrMessageIntegrity).isSome = true)
    (htype : msg.type = stunBindingResponse)
    (hwait : (ch.memory c).requests msg.transactionId = some ts) (now : Int) :
    ch.connectionOnReadPacket (checksumOf crc32) (digestOf hmac) icePwd c data now =
      .ok ((ch.onConnectionRequestResponse c ts now).removeRequest c msg.transactionId) := by
  have hrequest : msg.type ≠ stunBindingRequest := by
    rw [htype]
    decide
  have hval : msg.validateMessageIntegrity (digestOf hmac) (ch.memory c).remoteCandidate.password =
      .ok { msg with integrity := .kIntegrityOk } := by
    unfold validateMessageIntegrity
    rw [if_pos hpresent, (read_eq_some h.read).1, h.integrity]
    rfl
  unfold connectionOnReadPacket
  rw [getStunMessage_of_read icePwd h.fingerprint h.read hrequest]
  simp only [bind, Except.bind, htype, true_or, if_true, hval]
  unfold checkResponse
  simp only [integrityOk, hwait, decide_true, if_true]
  rfl

/-- A response without MESSAGE-INTEGRITY is ignored. -/
lemma connectionOnReadPacket_of_unsigned {crc32 : Bytes → Nat} {ch : IceTransportChannel}
    {c : ConnPtr} (icePwd : Bytes) (hfingerprint : validateFingerprint crc32 data = .ok true)
    (hread : read data = some msg) (htype : msg.type ≠ stunBindingRequest)
    (habsent : (msg.getByteString stunAttrMessageIntegrity).isSome = false) (now : Int) :
    ch.connectionOnReadPacket crc32 (digestOf hmac) icePwd c data now = .ok ch := by
  unfold connectionOnReadPacket validateMessageIntegrity
  rw [getStunMessage_of_read icePwd hfingerprint hread htype]
  simp only [bind, Except.bind, habsent, Bool.false_eq_true, if_false]
  split_ifs <;> rfl

/-! ## The exchange -/

/-- Each end has the credentials of the other, and can answer it. -/
structure KnowsPeer (params : IceParameters) (conn : IceConnection) (params' : IceParameters)
    (conn' : IceConnection) : Prop where
  username : conn.remoteCandidate.username = params'.iceUfrag
  password : conn.remoteCandidate.password = params'.icePwd
  username' : conn'.remoteCandidate.username = params.iceUfrag
  address : conn'.remoteCandidate.address.family = .ipv4

lemma not_usernameIs {a b : Bytes} (huser : msg.getByteString stunAttrUsername = some (a ++ 58 :: b))
    (hcolon : 58 ∈ a ∨ 58 ∈ b) : ¬ ∃ l r, UsernameIs msg l r := by
  rintro ⟨l, r, hlr, hl, hr⟩
  rw [huser, Option.some.injEq] at hlr
  have hcount := congrArg (List.count 58) hlr
  simp only [List.count_append, List.count_cons_self, List.count_eq_zero.mpr hl,
    List.count_eq_zero.mpr hr] at hcount
  rcases hcolon with h | h <;> have hpos := List.count_pos_iff.mpr h <;> omega

variable (hmac params conn) in
/-- What a request with a colon too many gets is not signed. -/
lemma reply_of_colon (h : IsRequest (checksumOf crc32) data msg) {a b : Bytes}
    (huser : msg.getByteString stunAttrUsername = some (a ++ 58 :: b))
    (hpresent : (msg.getByteString stunAttrMessageIntegrity).isSome = true)
    (hcolon : 58 ∈ a ∨ 58 ∈ b) : ∃ answer msg',
    reply (checksumOf crc32) (digestOf hmac) params conn data = .ok (some answer) ∧
      validateFingerprint (checksumOf crc32) answer = .ok true ∧ read answer = some msg' ∧
      msg'.type = stunBindingErrorResponse ∧
      (msg'.getByteString stunAttrMessageIntegrity).isSome = false := by
  have hrefused := @IsRequest.refused _ hmac _ _ h params.icePwd (.inl (not_usernameIs huser hcolon))
  have hrefusal : refusal msg = (stunErrorUnathorized, "Unathorized") := by
    unfold refusal
    rw [huser, ← Option.not_isSome, ← Option.not_isSome, hpresent]
    rfl
  have hmade := StunAttribute.made_createErrorCode stunErrorUnathorized "Unathorized".toUTF8.toList
  obtain ⟨answer, msg', hsent, hfingerprint, hread, htype, hattrs⟩ :=
    fingerprinted_read crc32 (by decide : (0x0111 : UInt16).toNat &&& 0x0800 = 0)
      h.length_transactionId
      (List.forall_mem_singleton.mpr hmade) (List.forall_mem_singleton.mpr trivial) rfl
      (by decide +kernel)
  refine ⟨answer, msg', ?_, hfingerprint, hread, htype, ?_⟩
  · unfold reply
    rw [hrefused, hrefusal]
    simp only [bind, Except.bind, h.read, Option.bind_some]
    exact congrArg _ hsent
  · rw [getByteString, hattrs]
    rfl

/-- The connection after the response to a ping of the time `ts` came. -/
def answered (ts now : Int) (id : TransactionId) (conn : IceConnection) (selected receiving : Bool) :
    IceConnection :=
  let conn := recordResponse (toInt (now - ts)) now conn
  { conn with
    writeState := .stateWritable, state := .succeeded, selected, receiving
    requests := Function.update conn.requests id none }

lemma memory_updateReceiving (ch : IceTransportChannel) (c : ConnPtr) (now : Int) :
    ∃ selected receiving, (ch.updateReceiving c now).memory c =
      { ch.memory c with selected, receiving } := by
  unfold updateReceiving onConnectionStateChange
  dsimp only
  split
  · exact ⟨_, _, rfl⟩
  · obtain ⟨b, hb⟩ := (sortConnectionAndUpdateState_spec (ch.modify c
      ({ · with receiving := (ch.memory c).computeReceiving now })) now).memory c
    rw [hb, memory_modify, if_pos rfl]
    exact ⟨_, _, rfl⟩

lemma memory_updateReceiving_other (ch : IceTransportChannel) {c q : ConnPtr} (hq : q ≠ c)
    (now : Int) : (ch.memory q).SameButSelected ((ch.updateReceiving c now).memory q) := by
  unfold updateReceiving onConnectionStateChange
  dsimp only
  split
  · exact .refl _
  · have hsort := (sortConnectionAndUpdateState_spec (ch.modify c
      ({ · with receiving := (ch.memory c).computeReceiving now })) now).memory q
    rwa [memory_modify, if_neg hq] at hsort

/-- What a response changes in the connection that waited for it. -/
lemma memory_onConnectionRequestResponse (ch : IceTransportChannel) (c : ConnPtr) (ts now : Int)
    (id : TransactionId) : ∃ selected receiving,
    ((ch.onConnectionRequestResponse c ts now).removeRequest c id).memory c =
      answered ts now id (ch.memory c) selected receiving := by
  obtain ⟨ch₁, hch₁⟩ : ∃ ch₁, ch₁ = ch.modify c (recordResponse (toInt (now - ts)) now) := ⟨_, rfl⟩
  have hrecord : ch₁.memory c = recordResponse (toInt (now - ts)) now (ch.memory c) := by
    rw [hch₁, memory_modify, if_pos rfl]
  obtain ⟨selected, receiving, hreceive⟩ := memory_updateReceiving ch₁ c now
  obtain ⟨b, hwrite⟩ := memory_setWriteState (ch₁.updateReceiving c now) c c .stateWritable now
  rw [if_pos rfl, hreceive, hrecord] at hwrite
  refine ⟨b, receiving, ?_⟩
  rw [onConnectionRequestResponse, removeRequest, receivedPingResponse, ← hch₁, memory_modify,
    if_pos rfl, memory_modify, if_pos rfl, hwrite]
  rfl

/-- The other connections stay as they are, but for which of them is selected. -/
lemma memory_onConnectionRequestResponse_other (ch : IceTransportChannel) {c q : ConnPtr}
    (hq : q ≠ c) (ts now : Int) (id : TransactionId) : (ch.memory q).SameButSelected
      (((ch.onConnectionRequestResponse c ts now).removeRequest c id).memory q) := by
  obtain ⟨ch₁, hch₁⟩ : ∃ ch₁, ch₁ = ch.modify c (recordResponse (toInt (now - ts)) now) := ⟨_, rfl⟩
  have hrecord : ch₁.memory q = ch.memory q := by
    rw [hch₁, memory_modify, if_neg hq]
  have hreceive := memory_updateReceiving_other ch₁ hq now
  have hwrite := memory_setWriteState (ch₁.updateReceiving c now) c q .stateWritable now
  rw [if_neg hq] at hwrite
  rw [onConnectionRequestResponse, removeRequest, receivedPingResponse, ← hch₁, memory_modify,
    if_neg hq, memory_modify, if_neg hq, ← hrecord]
  exact hreceive.trans hwrite

/-- A ping between two ends that know each other is answered. Without a colon in the ufrags the
answer is a response, which makes the connection that pinged writable, with one more sample of the
round-trip time; with one, it is an error response, which leaves the channel as it is. No other
connection changes, but in whether it is selected. -/
theorem ping_exchange (crc32 : Bytes → UInt32) (hmac : Bytes → Bytes → Vector UInt8 20)
    (ch : IceTransportChannel) (c : ConnPtr) (hid : id.length = kStunTransactionIdLength)
    (hknows : KnowsPeer params (ch.memory c) params' conn') (hfits : Fits params (ch.memory c))
    (ts now : Int) : ∃ ping answer msg' ch',
    sendPing (checksumOf crc32) (digestOf hmac) params (ch.memory c) id = some ping ∧
    reply (checksumOf crc32) (digestOf hmac) params' conn' ping = .ok (some answer) ∧
    read answer = some msg' ∧
    (ch.modify c (IceTransportChannel.ping id ts)).connectionOnReadPacket (checksumOf crc32)
      (digestOf hmac) params.icePwd c answer now = .ok ch' ∧
    (∀ q, q ≠ c → (ch.memory q).SameButSelected (ch'.memory q)) ∧
    if 58 ∈ params.iceUfrag ∨ 58 ∈ params'.iceUfrag then
      msg'.type = stunBindingErrorResponse ∧ ch' = ch.modify c (IceTransportChannel.ping id ts)
    else
      msg'.type = stunBindingResponse ∧ ∃ selected receiving, ch'.memory c =
        answered ts now id (IceTransportChannel.ping id ts (ch.memory c)) selected receiving := by
  obtain ⟨ping, msg, hping, hmsg, htype, hident, huser, hpresent⟩ :=
    exists_ping crc32 hmac hid hfits
  rw [hknows.password] at hmsg
  rw [hknows.username, createStunUsername] at huser
  have hrequest : IsRequest (checksumOf crc32) ping msg := ⟨hmsg.fingerprint, hmsg.read, htype⟩
  have hpinged (q : ConnPtr) : (ch.modify c (IceTransportChannel.ping id ts)).memory q =
      if q = c then IceTransportChannel.ping id ts (ch.memory c) else ch.memory q :=
    memory_modify ..
  by_cases hcolon : 58 ∈ params.iceUfrag ∨ 58 ∈ params'.iceUfrag
  · obtain ⟨answer, msg', hreply, hfingerprint, hread, htype', habsent⟩ :=
      reply_of_colon hmac params' conn' hrequest huser hpresent
        hcolon.symm
    have hother : msg'.type ≠ stunBindingRequest := by
      rw [htype']
      decide
    refine ⟨ping, answer, msg', _, hping, hreply, hread, connectionOnReadPacket_of_unsigned
      params.icePwd hfingerprint hread hother habsent now, fun q hq => ?_, ?_⟩
    · rw [hpinged, if_neg hq]
      exact .refl _
    · rw [if_pos hcolon]
      exact ⟨htype', rfl⟩
  · obtain ⟨hnone, hnone'⟩ := not_or.mp hcolon
    have hchecked := hrequest.checked hmac params'.icePwd ⟨huser, hnone', hnone⟩ hpresent
    rw [hmsg.integrity] at hchecked
    obtain ⟨answer, msg', hsent, hread, htype', hident', hpresent'⟩ :=
      @exists_response { msg with integrity := .kIntegrityOk } conn' crc32 hmac params'.icePwd
        (by rw [hident]; exact hid) (by rw [getByteString] at huser ⊢; rw [huser]; rfl)
        hknows.address
    have hreply : reply (checksumOf crc32) (digestOf hmac) params' conn' ping =
        .ok (some answer) := by
      unfold reply
      rw [hchecked]
      simp only [bind, Except.bind, Except.map, if_true, htype, hknows.username', ne_eq, not_true,
        if_false]
      exact congrArg _ hsent
    have hident'' : msg'.transactionId = id := hident'.trans hident
    have hread' : ReadAs crc32 hmac
        ((ch.modify c (IceTransportChannel.ping id ts)).memory c).remoteCandidate.password answer
        msg' := by
      rw [hpinged, if_pos rfl]
      exact hknows.password ▸ hread
    have hwait : ((ch.modify c (IceTransportChannel.ping id ts)).memory c).requests
        msg'.transactionId = some ts := by
      rw [hpinged, if_pos rfl, hident'']
      exact Function.update_self ..
    have htaken := connectionOnReadPacket_of_response params.icePwd hread' hpresent' htype' hwait now
    rw [hident''] at htaken
    refine ⟨ping, answer, msg', _, hping, hreply, hread.read, htaken, fun q hq => ?_, ?_⟩
    · have hsame := memory_onConnectionRequestResponse_other
        (ch.modify c (IceTransportChannel.ping id ts)) hq ts now id
      rwa [hpinged, if_neg hq] at hsame
    · obtain ⟨selected, receiving, hmemory⟩ := memory_onConnectionRequestResponse
        (ch.modify c (IceTransportChannel.ping id ts)) c ts now id
      rw [hpinged, if_pos rfl] at hmemory
      rw [if_neg hcolon]
      exact ⟨htype', selected, receiving, hmemory⟩

/-- A connection of the user `a` to the user `b`. -/
def pingingConnection : IceConnection where
  port := 0
  localPriority := 7
  remoteCandidate := ⟨⟨[10, 0, 0, 2], 80⟩, [98], [113], 9⟩

/-- The connection at the other end. -/
def answeringConnection : IceConnection where
  port := 0
  localPriority := 9
  remoteCandidate := ⟨⟨[10, 0, 0, 1], 80⟩, [97], [112], 7⟩

theorem pingingConnection_writable : ∃ ping answer ch',
    sendPing (checksumOf fun _ => 9) (digestOf fun _ _ => Vector.replicate 20 5) ⟨[97], [112]⟩
      pingingConnection (List.replicate 12 7) = some ping ∧
    reply (checksumOf fun _ => 9) (digestOf fun _ _ => Vector.replicate 20 5) ⟨[98], [113]⟩
      answeringConnection ping = .ok (some answer) ∧
    ((initial fun _ => pingingConnection).modify 0
      (IceTransportChannel.ping (List.replicate 12 7) 1000)).connectionOnReadPacket
        (checksumOf fun _ => 9) (digestOf fun _ _ => Vector.replicate 20 5) [112] 0 answer 1040 =
      .ok ch' ∧ (ch'.memory 0).writeState = .stateWritable := by
  have hknows : KnowsPeer ⟨[97], [112]⟩ pingingConnection ⟨[98], [113]⟩ answeringConnection :=
    ⟨rfl, rfl, rfl, rfl⟩
  obtain ⟨ping, answer, msg', ch', hping, hreply, -, htaken, -, hanswered⟩ :=
    ping_exchange (fun _ => 9) (fun _ _ => Vector.replicate 20 5)
      (initial fun _ => pingingConnection) 0
      (by decide : (List.replicate 12 (7 : UInt8)).length = kStunTransactionIdLength) hknows
      (by unfold Fits; decide) 1000 1040
  refine ⟨ping, answer, ch', hping, hreply, htaken, ?_⟩
  rw [if_neg (by decide)] at hanswered
  obtain ⟨-, selected, receiving, hmemory⟩ := hanswered
  rw [hmemory]
  rfl

end XrtcServer.Ice
