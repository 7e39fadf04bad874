import XrtcServer.Ice.FingerprintErrors
import XrtcServer.Ice.PingExchange

/-!
# What is signed

A signature covers the octets before it. The file says what they tell about the message, its type and
its transaction, for the one who signs as for the one who checks, and what of it two ends remember.
-/

namespace XrtcServer.Ice
open XrtcServer.Base XrtcServer.Core StunMessage IceTransportChannel

variable {hmac : Bytes → Bytes → Bytes} {crc32 : Bytes → Nat} {attrs : List StunAttribute}
  {icePwd id data password text : Bytes} {type : UInt16} {msg : StunMessage}
  {params : IceParameters} {conn : IceConnection} {ch ch' : IceTransportChannel} {c : ConnPtr}
  {now : Int}

/-- The octets that `add_message_integrity` computes its digest of, if it does. -/
def signedPart (msg : StunMessage) : Option Bytes :=
  (msg.addAttribute (.ofString stunAttrMessageIntegrity
    (List.replicate kStunMessageIntegritySize 48))).write.map fun buf =>
      buf.take (buf.length - kStunAttributeHeaderSize - kStunMessageIntegritySize)

/-- `add_message_integrity` computes no other digest. -/
lemma addMessageIntegrity_eq (hmac : Bytes → Bytes → Bytes) (msg : StunMessage)
    (password : Bytes) :
    msg.addMessageIntegrity hmac password =
      let added := msg.addAttribute (.ofString stunAttrMessageIntegrity
        (List.replicate kStunMessageIntegritySize 48))
      match signedPart msg with
      | none => (added, false)
      | some text =>
        if (hmac password text).length ≠ kStunMessageIntegritySize then (added, false)
        else
          ({ added with
              attrs := msg.attrs ++ [.byteString stunAttrMessageIntegrity (hmac password text)]
              integrity := .kIntegrityOk }, true) := by
  unfold addMessageIntegrity signedPart
  dsimp only
  cases (msg.addAttribute (.ofString stunAttrMessageIntegrity
    (List.replicate kStunMessageIntegritySize 48))).write <;> rfl

/-- The octets whose digest `_validate_message_integrity_of_type` compares, if it does. -/
def signedText (data : Bytes) : Option Bytes :=
  match locateMessageIntegrity data with
  | .ok (some pos) => some (authenticated data.length (data.take pos))
  | _ => none

/-- The datagram carries the digest of this text under the password. -/
def Carries (hmac : Bytes → Bytes → Bytes) (password data text : Bytes) : Prop :=
  validateMessageIntegrityOfType hmac data password = .ok true ∧ signedText data = some text

/-- What is accepted carries the digest of some text. -/
lemma exists_carries (h : validateMessageIntegrityOfType hmac data password = .ok true) :
    ∃ text, Carries hmac password data text := by
  obtain ⟨pos, hpos⟩ := exists_locate h
  refine ⟨authenticated data.length (data.take pos), h, ?_⟩
  rw [signedText, hpos]

/-! ## The header in the text -/

/-- The text begins with the header of a message of this type and transaction. -/
structure Heads (type : Nat) (id text : Bytes) : Prop where
  type : headerType text = type
  id : (text.drop 8).take kStunTransactionIdLength = id

lemma Heads.unique {n n' : Nat} {id' : Bytes} (h : Heads n id text) (h' : Heads n' id' text) :
    n = n' ∧ id = id' :=
  ⟨h.type.symm.trans h'.type, h.id.symm.trans h'.id⟩

lemma headerType_take {n : Nat} (hn : 2 ≤ n) : headerType (data.take n) = headerType data := by
  rw [headerType, List.take_take, Nat.min_eq_left hn, headerType]

lemma take_drop_take {n : Nat} (hn : kStunHeaderSize ≤ n) :
    ((data.take n).drop 8).take kStunTransactionIdLength =
      (data.drop 8).take kStunTransactionIdLength := by
  rw [kStunHeaderSize] at hn
  rw [List.drop_take, List.take_take, kStunTransactionIdLength, Nat.min_eq_left (by omega)]

lemma Heads.take {n k : Nat} (h : Heads n id data) (hk : kStunHeaderSize ≤ k) :
    Heads n id (data.take k) := by
  have hle : 2 ≤ k := Nat.le_trans (by decide) hk
  exact ⟨(headerType_take hle).trans h.type, (take_drop_take hk).trans h.id⟩

lemma Heads.setLength {n : Nat} (h : Heads n id text) (hlen : kStunHeaderSize ≤ text.length)
    (v : Nat) : Heads n id (setLength text v) := by
  rw [kStunHeaderSize] at hlen
  have hfront : (text.take 2 ++ toBE 2 v).length = 4 := by
    rw [List.length_append, List.length_take, length_toBE]
    omega
  constructor
  · rw [headerType, StunMessage.setLength, List.append_assoc,
      List.take_left' (by rw [List.length_take]; omega)]
    exact h.type
  · rw [StunMessage.setLength, show 8 = 4 + 4 from rfl, ← List.drop_drop, List.drop_left' hfront,
      List.drop_drop]
    exact h.id

lemma exists_writeAttributes {more : List StunAttribute} {body : Bytes}
    (h : writeAttributes (attrs ++ more) = some body) : ∃ l, writeAttributes attrs = some l := by
  induction attrs generalizing body with
  | nil => exact ⟨[], rfl⟩
  | cons a attrs ih =>
    obtain ⟨value, hvalue, h⟩ := Option.bind_eq_some_iff.mp h
    obtain ⟨rest, hrest, -⟩ := Option.bind_eq_some_iff.mp h
    obtain ⟨l, hl⟩ := ih hrest
    exact ⟨_, by rw [writeAttributes, hvalue, hl]; rfl⟩

/-- The text that a built message is signed under has the type and the transaction of the message. -/
lemma heads_signedPart (hid : id.length = kStunTransactionIdLength)
    (h : signedPart (build type id attrs) = some text) : Heads type.toNat id text := by
  obtain ⟨buf, hbuf, rfl⟩ := Option.map_eq_some_iff.mp h
  rw [← build_append, build_eq, StunMessage.write] at hbuf
  obtain ⟨body, hbody, rfl⟩ := Option.map_eq_some_iff.mp hbuf
  obtain ⟨l, hl⟩ := exists_writeAttributes hbody
  have hzeros : StunAttribute.ofString stunAttrMessageIntegrity
      (List.replicate kStunMessageIntegritySize 48) =
        .byteString stunAttrMessageIntegrity (List.replicate 20 48) := rfl
  dsimp only at hbody ⊢
  rw [hzeros, writeAttributes_integrity hl (by decide), Option.some.injEq] at hbody
  obtain ⟨n, hn⟩ : ∃ n, n = ((attrs ++ [StunAttribute.byteString stunAttrMessageIntegrity
      (List.replicate 20 48)]).map fun a => padded a.length + kStunAttributeHeaderSize).sum :=
    ⟨_, rfl⟩
  have hlt : n % 2 ^ 16 < 2 ^ 16 := Nat.mod_lt _ (by decide)
  obtain ⟨htype, -, hident, -⟩ := read_writeHeader type hid hlt body
  rw [hzeros, ← hn]
  refine Heads.take ⟨htype, ?_⟩ ?_
  · simp only [writeHeader, List.append_assoc]
    rw [show 8 = 2 + (2 + 4) from rfl, ← List.drop_drop, List.drop_left' (length_toBE _ _),
      ← List.drop_drop, List.drop_left' (length_toBE _ _), List.drop_left' (length_toBE _ _),
      List.take_left' hid]
  · have hencode : (encodeIntegrity (List.replicate 20 48)).length = 24 :=
      length_encodeIntegrity (by decide)
    rw [List.length_append, length_writeHeader hid, ← hbody, List.length_append, hencode,
      kStunAttributeHeaderSize, kStunMessageIntegritySize]
    omega

lemma headerTransactionId_of_fingerprint (h : validateFingerprint crc32 data = .ok true) :
    headerTransactionId data = (data.drop 8).take kStunTransactionIdLength := by
  unfold validateFingerprint kStunTransactionIdOffset kStunMagicCookieLength at h
  dsimp only at h
  split at h
  · cases h
  · obtain ⟨cookie, hcookie, h⟩ := bind_eq_ok.mp h
    split at h
    · cases h
    · rename_i hmagic
      obtain ⟨-, hcookie⟩ := getBE_eq_ok hcookie
      rw [headerTransactionId, kStunMagicCookieLength, hcookie, if_neg hmagic]

/-- The text of a datagram that is read has the type and the transaction of the message. -/
lemma heads_signedText (hfingerprint : validateFingerprint crc32 data = .ok true)
    (hread : read data = some msg) (h : signedText data = some text) :
    Heads msg.type msg.transactionId text := by
  obtain ⟨-, -, attrs, -, rfl⟩ := read_eq_some_iff.mp hread
  have hdata : Heads (headerType data) (headerTransactionId data) data :=
    ⟨rfl, (headerTransactionId_of_fingerprint hfingerprint).symm⟩
  unfold signedText at h
  split at h
  · rename_i pos hpos
    cases h
    obtain ⟨hle, hend, -⟩ := locateMessageIntegrity_eq_some_iff.mp hpos
    have hlen : kStunHeaderSize ≤ (data.take pos).length := by
      rw [List.length_take]
      omega
    unfold authenticated
    dsimp only
    split
    · exact (hdata.take hle).setLength hlen _
    · exact hdata.take hle
  · cases h

/-! ## What is answered -/

/-- The octets signed for a transaction, under a password. -/
structure Signed where
  id : TransactionId
  password : Bytes
  text : Bytes

/-- The signed octets of a request that was accepted, and those of the response to it. -/
structure PingAnswer where
  request : Bytes
  response : Signed

/-- What `IceConnection::on_read_packet` accepts and answers with a response. -/
def answerTo (crc32 : Bytes → Nat) (hmac : Bytes → Bytes → Bytes) (params : IceParameters)
    (conn : IceConnection) (data : Bytes) : Option PingAnswer :=
  match getStunMessage crc32 hmac params.icePwd data with
  | .error _ => none
  | .ok result =>
    match result.outMsg with
    | none => none
    | some msg =>
      if msg.type = stunBindingRequest ∧ result.outUsername = conn.remoteCandidate.username then
        (signedText data).bind fun request =>
          (signedPart (build 0x0101 msg.transactionId (responseAttributes conn))).map fun text =>
            ⟨request, ⟨msg.transactionId, params.icePwd, text⟩⟩
      else none

/-- A message that the port hands on is the one in the datagram, but for the mark of the check. -/
lemma outMsg_read {result : StunResult} (h : getStunMessage crc32 hmac icePwd data = .ok result)
    (hmsg : result.outMsg = some msg) :
    result.errorResponse = none ∧ validateFingerprint crc32 data = .ok true ∧
      ∃ msg₀, read data = some msg₀ ∧ msg = { msg₀ with integrity := msg.integrity } := by
  unfold getStunMessage at h
  obtain ⟨fp, hfp, h⟩ := bind_eq_ok.mp h
  cases fp with
  | false =>
    cases h
    cases hmsg
  | true =>
    cases hread : read data with
    | none =>
      rw [hread] at h
      cases h
      cases hmsg
    | some msg₀ =>
      simp only [hread, Bool.not_true, Bool.false_eq_true, if_false] at h
      split at h
      · split at h
        · cases h
          cases hmsg
        · split at h
          · cases h
            cases hmsg
          · obtain ⟨msg₁, hval, h⟩ := bind_eq_ok.mp h
            split at h
            · cases h
              cases hmsg
            · cases h
              cases hmsg
              exact ⟨rfl, hfp, _, rfl, (validateMessageIntegrity_spec hval).1⟩
      · cases h
        cases hmsg
        exact ⟨rfl, hfp, _, rfl, rfl⟩

/-- What a connection takes as a response carries a digest under the password of the remote
candidate. -/
lemma connectionOnReadPacket_taken
    (h : ch.connectionOnReadPacket crc32 hmac icePwd c data now = .ok ch') (hch : ch' ≠ ch) :
    ∃ msg text ts, (msg.type = stunBindingResponse ∨ msg.type = stunBindingErrorResponse) ∧
      (ch.memory c).requests msg.transactionId = some ts ∧
      Carries hmac (ch.memory c).remoteCandidate.password data text ∧
      Heads msg.type msg.transactionId text ∧ ch' = ch.checkResponse c msg now := by
  unfold connectionOnReadPacket at h
  obtain ⟨result, hresult, h⟩ := bind_eq_ok.mp h
  cases hmsg : result.outMsg with
  | none =>
    rw [hmsg] at h
    cases h
    exact absurd rfl hch
  | some msg =>
    rw [hmsg] at h
    dsimp only at h
    split at h
    · rename_i htype
      obtain ⟨msg', hval, h⟩ := bind_eq_ok.mp h
      split at h
      · rename_i hok
        cases h
        obtain ⟨-, hfingerprint, msg₀, hread, hmsg₀⟩ := outMsg_read hresult hmsg
        obtain ⟨hmsg', hchecked⟩ := validateMessageIntegrity_spec hval
        have hbuffer : msg.buffer = data := by
          rw [hmsg₀]
          exact (read_eq_some hread).1
        have hvalid := hchecked (by simpa [integrityOk] using hok)
        rw [hbuffer] at hvalid
        obtain ⟨text, htext⟩ := exists_carries hvalid
        have hsame : msg'.type = msg₀.type ∧ msg'.transactionId = msg₀.transactionId := by
          rw [hmsg', hmsg₀]
          exact ⟨rfl, rfl⟩
        have htype' : msg'.type = msg.type := by rw [hmsg']
        cases hts : (ch.memory c).requests msg'.transactionId with
        | none => exact absurd (checkResponse_of_none hts now) hch
        | some ts =>
          refine ⟨msg', text, ts, htype' ▸ htype, hts, htext, ?_, rfl⟩
          rw [hsame.1, hsame.2]
          exact heads_signedText hfingerprint hread htext.2
      · cases h
        exact absurd rfl hch
    · cases h
      exact absurd rfl hch

/-- What an end answers carries a digest under its password, and the answer is signed under it. -/
lemma answerTo_spec {a : PingAnswer} (h : answerTo crc32 hmac params conn data = some a) :
    Carries hmac params.icePwd data a.request ∧ a.response.password = params.icePwd ∧
      Heads stunBindingRequest a.response.id a.request ∧
      Heads stunBindingResponse a.response.id a.response.text := by
  unfold answerTo at h
  split at h
  · cases h
  · rename_i result hresult
    split at h
    · cases h
    · rename_i msg hmsg
      split at h
      · rename_i haccept
        obtain ⟨request, hrequest, h⟩ := Option.bind_eq_some_iff.mp h
        obtain ⟨text, htext, rfl⟩ := Option.map_eq_some_iff.mp h
        obtain ⟨-, hfingerprint, msg₀, hread, hmsg₀⟩ := outMsg_read hresult hmsg
        have hsame : msg.type = msg₀.type ∧ msg.transactionId = msg₀.transactionId := by
          rw [hmsg₀]
          exact ⟨rfl, rfl⟩
        have hreq : IsRequest crc32 data msg₀ := ⟨hfingerprint, hread, hsame.1 ▸ haccept.1⟩
        obtain ⟨-, msg₁, hread₁, -, hchecked⟩ := outMsg_spec hresult hmsg
        have hheads := heads_signedText hfingerprint hread hrequest
        rw [hreq.type, ← hsame.2] at hheads
        refine ⟨⟨(hchecked haccept.1).2, hrequest⟩, rfl, hheads, ?_⟩
        exact heads_signedPart (hsame.2 ▸ hreq.length_transactionId) htext
      · cases h

lemma errorResponse_code {result : StunResult} {errCode : Int} {reason : String}
    (h : getStunMessage crc32 hmac icePwd data = .ok result)
    (herror : result.errorResponse = some (errCode, reason)) :
    errCode = stunErrorBadRequest ∨ errCode = stunErrorUnathorized := by
  unfold getStunMessage at h
  obtain ⟨fp, -, h⟩ := bind_eq_ok.mp h
  split at h
  · cases h
    cases herror
  · split at h
    · cases h
      cases herror
    · split at h
      · split at h
        · cases h
          cases herror
          exact Or.inl rfl
        · split at h
          · cases h
            cases herror
            exact Or.inr rfl
          · obtain ⟨msg₁, -, h⟩ := bind_eq_ok.mp h
            split at h
            · cases h
              cases herror
              exact Or.inr rfl
            · cases h
              cases herror
      · cases h
        cases herror

lemma type_addFingerprint (crc32 : Bytes → Nat) (msg : StunMessage) :
    (msg.addFingerprint crc32).1.type = msg.type := by
  unfold addFingerprint
  dsimp only
  split <;> rfl

lemma headerType_of_write {sent : Bytes} (h : msg.write = some sent) (htype : msg.type < 2 ^ 16) :
    headerType sent = msg.type := by
  obtain ⟨body, -, rfl⟩ := Option.map_eq_some_iff.mp h
  rw [headerType, writeHeader, List.append_assoc, List.take_left' (length_toBE _ _),
    ofBE_toBE (by exact htype)]

lemma headerType_of_error {errCode : Int} {reason : String} {sent : Bytes}
    (h : sendBindingErrorResponse crc32 hmac icePwd msg errCode reason = some sent)
    (hcode : errCode = stunErrorBadRequest ∨ errCode = stunErrorUnathorized) :
    headerType sent = stunBindingErrorResponse := by
  unfold sendBindingErrorResponse at h
  dsimp only at h
  rw [if_neg fun hc => hcode.elim hc.1 hc.2] at h
  have htype : ((build 0x0111 msg.transactionId
      [.createErrorCode errCode reason.toUTF8.toList]).addFingerprint crc32).1.type =
        stunBindingErrorResponse := by
    rw [type_addFingerprint, build_eq]
    rfl
  rw [headerType_of_write h (by rw [htype]; decide), htype]

lemma write_addFingerprint_eq_none (crc32 : Bytes → Nat)
    (h : writeAttributes (msg.attrs ++ [.uint32 stunAttrFingerprint 0]) = none) :
    (msg.addFingerprint crc32).1.write = none := by
  have hadded : (msg.addAttribute (.uint32 stunAttrFingerprint 0)).write = none := by
    rw [StunMessage.write, addAttribute, h, Option.map_none]
  unfold addFingerprint
  dsimp only
  rw [hadded]
  exact hadded

/-- A response that cannot be signed is not sent. -/
lemma isSome_signedPart {sent : Bytes}
    (h : sendStunBindingResponse crc32 hmac icePwd conn msg = some sent) :
    (signedPart (build 0x0101 msg.transactionId (responseAttributes conn))).isSome = true := by
  by_contra hnone
  rw [Option.isSome_iff_ne_none, not_not] at hnone
  unfold sendStunBindingResponse at h
  split at h
  · cases h
  · dsimp only at h
    rw [addMessageIntegrity_eq, hnone, ← build_append] at h
    dsimp only at h
    rw [signedPart, Option.map_eq_none_iff, ← build_append, build_eq, StunMessage.write,
      Option.map_eq_none_iff] at hnone
    rw [write_addFingerprint_eq_none] at h
    · cases h
    · rw [build_eq]
      by_contra hsome
      obtain ⟨body, hbody⟩ := Option.ne_none_iff_exists'.mp hsome
      obtain ⟨l, hl⟩ := exists_writeAttributes hbody
      cases hnone.symm.trans hl

/-- What an end sends as a response is among its answers. -/
theorem isSome_answerTo {sent : Bytes} (h : reply crc32 hmac params conn data = .ok (some sent))
    (htype : headerType sent = stunBindingResponse) :
    (answerTo crc32 hmac params conn data).isSome = true := by
  unfold reply at h
  unfold answerTo
  obtain ⟨result, hresult, h⟩ := bind_eq_ok.mp h
  rw [hresult]
  dsimp only
  cases herror : result.errorResponse with
  | some error =>
    obtain ⟨errCode, reason⟩ := error
    rw [herror] at h
    obtain ⟨msg, -, hsent⟩ := Option.bind_eq_some_iff.mp (Except.ok.inj h)
    have hcode := errorResponse_code hresult herror
    cases (headerType_of_error hsent hcode).symm.trans htype
  | none =>
    rw [herror] at h
    cases hmsg : result.outMsg with
    | none =>
      rw [hmsg] at h
      cases h
    | some msg =>
      rw [hmsg] at h
      dsimp only at h ⊢
      split at h
      · rename_i hrequest
        split at h
        · cases (headerType_of_error (Except.ok.inj h) (.inr rfl)).symm.trans htype
        · rename_i huser
          obtain ⟨-, msg₀, -, -, hchecked⟩ := outMsg_spec hresult hmsg
          obtain ⟨text, -, htext⟩ := exists_carries (hchecked hrequest).2
          rw [if_pos ⟨hrequest, not_not.mp huser⟩, htext, Option.bind_some, Option.isSome_map]
          exact isSome_signedPart (Except.ok.inj h)
      · cases h

/-- What an end remembers of an answer is what it signs: it sends, or fails to send, the response
whose digest it computes of this text under this password. -/
theorem reply_of_answerTo {a : PingAnswer} (h : answerTo crc32 hmac params conn data = some a) :
    ∃ msg, reply crc32 hmac params conn data =
        .ok (sendStunBindingResponse crc32 hmac a.response.password conn msg) ∧
      msg.transactionId = a.response.id ∧
      signedPart (build 0x0101 a.response.id (responseAttributes conn)) = some a.response.text := by
  unfold answerTo at h
  split at h
  · cases h
  · rename_i result hresult
    split at h
    · cases h
    · rename_i msg hmsg
      split at h
      · rename_i haccept
        obtain ⟨request, -, h⟩ := Option.bind_eq_some_iff.mp h
        obtain ⟨text, htext, rfl⟩ := Option.map_eq_some_iff.mp h
        refine ⟨msg, ?_, rfl, htext⟩
        rw [reply, hresult]
        simp only [bind, Except.bind, (outMsg_read hresult hmsg).1, hmsg, haccept.1, haccept.2,
          if_true, ne_eq, not_true, if_false]
        rfl
      · cases h

end XrtcServer.Ice
