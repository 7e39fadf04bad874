import XrtcServer.Ice.StunReader
import Mathlib.Data.Vector.Basic

/-!
# Reads of a received message

Which octet strings make the checks and the reader leave the buffer of the message. The reader and
the check of the fingerprint never do; the check of the integrity compares twenty octets behind the
header that it finds, wherever the message ends.
-/

namespace XrtcServer.Ice
open XrtcServer.Base XrtcServer.Core StunMessage

variable {l data : Bytes} {crc32 : Bytes → Nat} {hmac : Bytes → Bytes → Vector UInt8 20}
  {attrs : List StunAttribute} {msg : StunMessage} {pos p : Nat}

/-- HMAC-SHA1, which always gives twenty octets. -/
def digestOf (hmac : Bytes → Bytes → Vector UInt8 20) (password text : Bytes) : Bytes :=
  (hmac password text).toList

lemma length_digestOf (password text : Bytes) : (digestOf hmac password text).length = 20 :=
  (hmac password text).length_toList

/-- No read of the checks or of the reader leaves the message. -/
structure StaysInside (crc32 : Bytes → Nat) (hmac : Bytes → Bytes → Vector UInt8 20)
    (data : Bytes) : Prop where
  fingerprint : ∃ ok, validateFingerprint crc32 data = .ok ok
  reader : ∀ r : ByteBufferReader, r.bytes = data → ∀ n, ∃ got, r.readBytes n = .ok got
  integrity : ∀ msg, read data = some msg → ∀ password, ∃ msg',
    msg.validateMessageIntegrity (digestOf hmac) password = .ok msg'

/-- The reader accepts the message and has found a MESSAGE-INTEGRITY, and behind the header of the
first one that the check finds there are less than twenty octets. -/
structure Overreads (data : Bytes) : Prop where
  aligned : data.length % 4 = 0
  framed : Framed data
  type : headerType data &&& 0x0800 = 0
  found : ∃ attrs, Reads (data.drop kStunHeaderSize) attrs ∧
    ∃ a ∈ attrs, a.type = stunAttrMessageIntegrity
  short : ∃ p T, kStunHeaderSize ≤ p ∧ p + 4 ≤ data.length ∧ data.length < p + 24 ∧
    ofBE ((data.drop p).take 2) = stunAttrMessageIntegrity ∧
    Tiles ((data.take p).drop kStunHeaderSize) T ∧ ∀ t ∈ T, t.type ≠ stunAttrMessageIntegrity

/-! ## Where the checks look -/

lemma exists_getBE (h : pos + p ≤ data.length) : ∃ n, getBE data pos p = .ok n :=
  ⟨_, getBE_of_le data pos p h⟩

lemma exists_readAt (h : pos + p ≤ data.length) : ∃ l, readAt data pos p = .ok l :=
  ⟨_, if_pos h⟩

lemma exists_validateFingerprint (crc32 : Bytes → Nat) (data : Bytes) :
    ∃ ok, validateFingerprint crc32 data = .ok ok := by
  unfold validateFingerprint kStunTransactionIdOffset kStunMagicCookieLength
    kStunAttributeHeaderSize stunUInt32Size kStunHeaderSize
  dsimp only
  split
  · exact ⟨false, rfl⟩
  · refine exists_bind_eq_ok (exists_getBE (by omega)) fun magicCookie => ?_
    split
    · exact ⟨false, rfl⟩
    · refine exists_bind_eq_ok (exists_getBE (by omega)) fun attrType => ?_
      split
      · exact ⟨false, rfl⟩
      · refine exists_bind_eq_ok (exists_getBE (by omega)) fun attrLength => ?_
        split
        · exact ⟨false, rfl⟩
        · refine exists_bind_eq_ok (exists_getBE (by omega)) fun fingerprint => ?_
          exact exists_bind_eq_ok (exists_readAt (by omega)) fun text => ⟨_, rfl⟩

lemma exists_locateAttribute (type : Nat) (data : Bytes) (fuel pos : Nat) :
    ∃ found, locateAttribute type data fuel pos = .ok found := by
  induction fuel generalizing pos with
  | zero => exact ⟨none, rfl⟩
  | succ fuel ih =>
    rw [locateAttribute, kStunAttributeHeaderSize]
    split
    · refine exists_bind_eq_ok (exists_getBE (by omega)) fun attrType => ?_
      split
      · exact ⟨some pos, rfl⟩
      · exact exists_bind_eq_ok (exists_getBE (by omega)) fun attrLength => ih _
    · exact ⟨none, rfl⟩

/-- Behind the header that the search has found, the check needs twenty octets. -/
lemma exists_validateOfType_iff (hmac : Bytes → Bytes → Vector UInt8 20) (password : Bytes)
    (hframed : Framed data) (haligned : data.length % 4 = 0) :
    (∃ ok, validateMessageIntegrityOfType (digestOf hmac) data password = .ok ok) ↔
      ∀ p, locateMessageIntegrity data = .ok (some p) → p + 24 ≤ data.length := by
  have hlen : 20 ≤ data.length := by
    rw [hframed, kStunHeaderSize]
    exact Nat.le_add_right _ _
  have hlength : getBE data 2 2 = .ok (headerLength data) := getBE_of_le data 2 2 (by omega)
  have hskip : ¬ (data.length % 4 ≠ 0 ∨ data.length < kStunHeaderSize) := by
    rw [kStunHeaderSize]
    omega
  have hsize : ¬ headerLength data + kStunHeaderSize ≠ data.length := by
    rw [hframed, Nat.add_comm]
    exact not_not.mpr rfl
  unfold validateMessageIntegrityOfType
  rw [if_neg hskip, hlength]
  simp only [bind, Except.bind, hsize, if_false]
  obtain ⟨found, hfound⟩ : ∃ found, locateMessageIntegrity data = .ok found :=
    exists_locateAttribute stunAttrMessageIntegrity data data.length kStunHeaderSize
  rw [hfound]
  cases found with
  | none => simp [pure, Except.pure]
  | some p =>
    obtain ⟨hle, hp, -⟩ := locateMessageIntegrity_eq_some_iff.mp hfound
    have hhead : readAt data 0 p = .ok (data.take p) := if_pos (by omega)
    simp only [hhead, length_digestOf, kStunMessageIntegritySize, kStunAttributeHeaderSize]
    by_cases hfits : p + 24 ≤ data.length
    · have hvalue : readAt data (p + 4) 20 = .ok ((data.drop (p + 4)).take 20) := if_pos (by omega)
      simp [hvalue, hfits, pure, Except.pure]
    · have hvalue : readAt data (p + 4) 20 = .error .outOfBounds := if_neg (by omega)
      simp [hvalue, hfits]

/-! ## The message -/

lemma Reads.uint32_or_byteString (h : Reads l attrs) : ∀ a ∈ attrs,
    a.type = stunAttrPriority ∨ ∃ bytes, a = .byteString a.type bytes := by
  have hmade : ∀ {t : Tlv} {a : StunAttribute}, toAttribute t = some a →
      a.type = stunAttrPriority ∨ ∃ bytes, a = .byteString a.type bytes := by
    intro t a ha
    unfold toAttribute at ha
    split at ha
    · cases ha
    · cases ha
      exact Or.inr ⟨t.value, rfl⟩
    · rename_i hkind
      cases ha
      exact Or.inl (getAttributeValueType_uint32.mp hkind)
  induction h with
  | nil => simp
  | cons ht hsync hrest ih =>
    intro a ha
    rcases List.mem_append.mp ha with ha | ha
    · exact hmade (Option.mem_toList.mp ha)
    · exact ih a ha
  | odd hodd hrest ih =>
    intro a ha
    rcases List.mem_append.mp ha with ha | ha
    · cases hodd with
      | priority =>
        obtain rfl := Option.some.inj (Option.mem_toList.mp ha)
        exact Or.inl rfl
      | wrapped => cases ha
      | unpadded =>
        obtain rfl := Option.some.inj (Option.mem_toList.mp ha)
        exact Or.inr ⟨_, rfl⟩
    · exact ih a ha

lemma isSome_messageIntegrity_iff (h : Reads l attrs) :
    (findByteString attrs stunAttrMessageIntegrity).isSome = true ↔
      ∃ a ∈ attrs, a.type = stunAttrMessageIntegrity := by
  unfold findByteString
  cases hfind : attrs.find? (·.type = stunAttrMessageIntegrity) with
  | none =>
    have hnone := List.find?_eq_none.mp hfind
    simpa using hnone
  | some a =>
    have htype : a.type = stunAttrMessageIntegrity := by simpa using List.find?_some hfind
    have hmem := List.mem_of_find?_eq_some hfind
    rcases h.uint32_or_byteString a hmem with hprio | ⟨bytes, hbytes⟩
    · rw [htype] at hprio
      cases hprio
    · rw [hbytes]
      simp only [Option.isSome_some, true_iff]
      exact ⟨a, hmem, htype⟩

lemma exists_validateMessageIntegrity_iff (hmac : Bytes → Bytes → Bytes) (msg : StunMessage)
    (password : Bytes) : (∃ msg', msg.validateMessageIntegrity hmac password = .ok msg') ↔
      ((msg.getByteString stunAttrMessageIntegrity).isSome = true →
        ∃ ok, validateMessageIntegrityOfType hmac msg.buffer password = .ok ok) := by
  unfold validateMessageIntegrity
  split
  · rename_i hfound
    rw [forall_prop_of_true hfound]
    constructor
    · rintro ⟨msg', h⟩
      obtain ⟨ok, hok, -⟩ := bind_eq_ok.mp h
      exact ⟨ok, hok⟩
    · intro hok
      refine exists_bind_eq_ok hok fun ok => ?_
      split
      · exact ⟨_, rfl⟩
      · exact ⟨_, rfl⟩
  · rename_i hfound
    exact ⟨fun _ h => absurd h hfound, fun _ => ⟨_, rfl⟩⟩

lemma Framed.length_lt (h : Framed data) : (data.drop kStunHeaderSize).length < 2 ^ 16 := by
  have hlt := ofBE_lt ((data.drop 2).take 2)
  have htwo : ((data.drop 2).take 2).length ≤ 2 := List.length_take_le _ _
  have hpow : 256 ^ ((data.drop 2).take 2).length ≤ 256 ^ 2 :=
    Nat.pow_le_pow_right (by decide) htwo
  rw [List.length_drop, h, Nat.add_sub_cancel_left]
  exact Nat.lt_of_lt_of_le hlt hpow

/-- The check of the integrity stays inside a message that was read, unless it is one of these. -/
lemma exists_validate_of_not_overreads (h : ¬ Overreads data) (hread : read data = some msg)
    (hmac : Bytes → Bytes → Vector UInt8 20) (password : Bytes) :
    ∃ msg', msg.validateMessageIntegrity (digestOf hmac) password = .ok msg' := by
  obtain ⟨hframed, htype, attrs, hattrs, rfl⟩ := read_eq_some_iff.mp hread
  have hreads := (readAttributes_eq_some_iff hframed.length_lt).mp hattrs
  refine (exists_validateMessageIntegrity_iff _ _ password).mpr fun hsome => ?_
  have hfound := (isSome_messageIntegrity_iff hreads).mp hsome
  by_cases haligned : data.length % 4 = 0
  · refine (exists_validateOfType_iff hmac password hframed haligned).mpr fun p hlocate => ?_
    obtain ⟨hle, hp, hmi, T, hT, hother⟩ := locateMessageIntegrity_eq_some_iff.mp hlocate
    by_contra hfits
    exact h ⟨haligned, hframed, htype, ⟨attrs, hreads, hfound⟩, p, T, hle, hp, by omega,
      (getBE_eq_ok hmi).2, hT, hother⟩
  · exact ⟨false, if_pos (Or.inl haligned)⟩

/-- On these messages the check of the integrity leaves the message, whatever the password. -/
lemma not_overreads_of_validate (hread : read data = some msg) {msg' : StunMessage}
    {password : Bytes} (h : msg.validateMessageIntegrity (digestOf hmac) password = .ok msg') :
    ¬ Overreads data := by
  rintro ⟨haligned, hframed, -, ⟨attrs, hreads, hfound⟩, p, T, hle, hp, hshort, hmi, hT, hother⟩
  obtain ⟨-, -, attrs', hattrs', rfl⟩ := read_eq_some_iff.mp hread
  have hattrs := (readAttributes_eq_some_iff hframed.length_lt).mpr hreads
  obtain rfl := Option.some.inj (hattrs.symm.trans hattrs')
  have hok := (exists_validateMessageIntegrity_iff _ _ password).mp ⟨msg', h⟩
    ((isSome_messageIntegrity_iff hreads).mpr hfound)
  have hlocate : locateMessageIntegrity data = .ok (some p) := by
    refine locateMessageIntegrity_eq_some_iff.mpr ⟨hle, hp, ?_, T, hT, hother⟩
    rw [getBE_of_le data p 2 (by omega), hmi]
  have hfits := (exists_validateOfType_iff hmac password hframed haligned).mp hok p hlocate
  omega

/-- Messages that the checks and the reader handle without leaving them are exactly those with room
for a digest behind the header that the check finds. -/
theorem staysInside_iff : StaysInside crc32 hmac data ↔ ¬ Overreads data := by
  constructor
  · intro h hover
    obtain ⟨attrs, hreads, -⟩ := hover.found
    have hattrs := (readAttributes_eq_some_iff hover.framed.length_lt).mpr hreads
    have hread := read_eq_some_iff.mpr ⟨hover.framed, hover.type, attrs, hattrs, rfl⟩
    obtain ⟨msg', hmsg'⟩ := h.integrity _ hread []
    exact not_overreads_of_validate hread hmsg' hover
  · intro h
    refine ⟨exists_validateFingerprint crc32 data, ?_, ?_⟩
    · rintro r - n
      exact ⟨_, r.readBytes_eq n⟩
    · intro msg hmsg password
      exact exists_validate_of_not_overreads h hmsg hmac password

/-- A request with a MESSAGE-INTEGRITY that declares no value, in front of its fingerprint. -/
def emptyIntegrity : Bytes :=
  bindingRequest [0, 6, 0, 3, 97, 58, 98, 0, 0, 8, 0, 0, 0x80, 0x28, 0, 4, 0x53, 0x54, 0x55, 0x4E]

theorem emptyIntegrity_not_staysInside :
    ¬ StaysInside (fun _ => 0) (fun _ _ => Vector.replicate 20 0) emptyIntegrity := by
  intro h
  obtain ⟨msg', hmsg'⟩ := h.integrity {
    type := 1, length := 20, transactionId := List.replicate 12 7
    attrs := [.byteString 6 [97, 58, 98], .byteString 8 []], buffer := emptyIntegrity }
    (by decide +kernel) []
  have hframed : Framed emptyIntegrity :=
    (by decide : emptyIntegrity.length = kStunHeaderSize + headerLength emptyIntegrity)
  have hok := (exists_validateMessageIntegrity_iff _ _ []).mp ⟨msg', hmsg'⟩ (by decide)
  have hfits := (exists_validateOfType_iff _ [] hframed (by decide)).mp hok 28 (by decide +kernel)
  exact absurd hfits (by decide)

end XrtcServer.Ice
