import XrtcServer.Ice.StunBounds
import XrtcServer.Ice.StunWrite

/-!
# Signing STUN messages

`add_message_integrity` computes its digest before the message is complete, under the length that
the message has then. The file proves that the check finds the attribute again and the octets that
were signed, with or without a fingerprint behind it.
-/

namespace XrtcServer.Ice
open XrtcServer.Base XrtcServer.Core StunMessage

namespace StunMessage

/-- `add_message_integrity`, with what it returns. The attribute object is filled after the message
was written once. -/
def addMessageIntegrity (hmac : Bytes → Bytes → Bytes) (msg : StunMessage) (password : Bytes) :
    StunMessage × Bool :=
  let added := msg.addAttribute
    (.ofString stunAttrMessageIntegrity (List.replicate kStunMessageIntegritySize 48))
  match added.write with
  | none => (added, false)
  | some buf =>
    let msgLenForHmac := buf.length - kStunAttributeHeaderSize - kStunMessageIntegritySize
    let digest := hmac password (buf.take msgLenForHmac)
    if digest.length ≠ kStunMessageIntegritySize then (added, false)
    else
      ({ added with
          attrs := msg.attrs ++ [.byteString stunAttrMessageIntegrity digest]
          integrity := .kIntegrityOk }, true)

/-- `add_fingerprint`, with what it returns. -/
def addFingerprint (crc32 : Bytes → Nat) (msg : StunMessage) : StunMessage × Bool :=
  let added := msg.addAttribute (.uint32 stunAttrFingerprint 0)
  match added.write with
  | none => (added, false)
  | some buf =>
    let msgLenForCrc32 := buf.length - kStunAttributeHeaderSize - stunUInt32Size
    let c := crc32 (buf.take msgLenForCrc32)
    ({ added with
        attrs := msg.attrs ++ [.uint32 stunAttrFingerprint (c ^^^ stunFingerprintXorValue)] },
      true)

end StunMessage

/-- CRC32, which always fits 32 bits. -/
def checksumOf (crc32 : Bytes → UInt32) (text : Bytes) : Nat := (crc32 text).toNat

variable {hmac : Bytes → Bytes → Vector UInt8 20} {crc32 : Bytes → UInt32}
  {attrs : List StunAttribute} {l id data rest digest password : Bytes} {type : UInt16}
  {T : List Tlv}
  {msg : StunMessage}

/-- The octets are read, and the check of their integrity succeeds. -/
def Verified (hmac : Bytes → Bytes → Vector UInt8 20) (password data : Bytes) : Prop :=
  ∃ msg msg', read data = some msg ∧
    msg.validateMessageIntegrity (digestOf hmac) password = .ok msg' ∧
    msg'.integrity = .kIntegrityOk

/-! ## What is written -/

lemma build_append (type : UInt16) (id : Bytes) (attrs : List StunAttribute) (a : StunAttribute) :
    build type id (attrs ++ [a]) = (build type id attrs).addAttribute a := by
  rw [build, List.foldl_append, ← build]
  rfl

lemma writeAttributes_append {a : StunAttribute} {body : Bytes}
    (h : writeAttributes attrs = some l) (ha : a.write = some body) :
    writeAttributes (attrs ++ [a]) =
      some (l ++ (toBE 2 a.type ++ (toBE 2 a.length ++ body))) := by
  induction attrs generalizing l with
  | nil =>
    cases h
    simp [writeAttributes, ha, bind]
  | cons b attrs ih =>
    obtain ⟨value, hvalue, h⟩ := Option.bind_eq_some_iff.mp h
    obtain ⟨tail, htail, h⟩ := Option.bind_eq_some_iff.mp h
    cases h
    simp [writeAttributes, hvalue, ih htail, bind]

/-- The encoding of a MESSAGE-INTEGRITY with this digest. -/
def encodeIntegrity (digest : Bytes) : Bytes :=
  toBE 2 stunAttrMessageIntegrity ++ (toBE 2 kStunMessageIntegritySize ++ digest)

/-- The encoding of a FINGERPRINT with this value. -/
def encodeFingerprint (value : Nat) : Bytes :=
  toBE 2 stunAttrFingerprint ++ (toBE 2 stunUInt32Size ++ toBE 4 value)

lemma writeAttributes_integrity (h : writeAttributes attrs = some l) (hdigest : digest.length = 20) :
    writeAttributes (attrs ++ [.byteString stunAttrMessageIntegrity digest]) =
      some (l ++ encodeIntegrity digest) := by
  have hwrite : (StunAttribute.byteString stunAttrMessageIntegrity digest).write = some digest := by
    rw [StunAttribute.write, hdigest]
    simp [StunAttribute.writePadding]
  rw [writeAttributes_append h hwrite, StunAttribute.length, hdigest]
  rfl

lemma writeAttributes_fingerprint (h : writeAttributes attrs = some l) (value : Nat) :
    writeAttributes (attrs ++ [.uint32 stunAttrFingerprint value]) =
      some (l ++ encodeFingerprint value) :=
  writeAttributes_append h rfl

lemma made_integrity (hdigest : digest.length = 20) :
    (StunAttribute.byteString stunAttrMessageIntegrity digest).Made := by
  have hmade := StunAttribute.Made.byteString 8 digest
  rw [StunAttribute.ofString, hdigest, List.take_of_length_le (by omega)] at hmade
  exact hmade

lemma made_fingerprint (text : Bytes) : (StunAttribute.uint32 stunAttrFingerprint
    (checksumOf crc32 text ^^^ stunFingerprintXorValue)).Made := by
  have hmade := StunAttribute.Made.uint32 0x8028 (crc32 text ^^^ 0x5354554e)
  rw [UInt32.toNat_xor] at hmade
  exact hmade

lemma length_encodeIntegrity (hdigest : digest.length = 20) :
    (encodeIntegrity digest).length = 24 := by
  rw [encodeIntegrity, List.length_append, List.length_append, length_toBE, length_toBE, hdigest]

lemma length_encodeFingerprint (value : Nat) : (encodeFingerprint value).length = 8 := by
  rw [encodeFingerprint, List.length_append, List.length_append, length_toBE, length_toBE,
    length_toBE]

/-! ## The check -/

lemma Tiles.length_mod (h : Tiles l T) : l.length % 4 = 0 := by
  induction h with
  | nil => rfl
  | @cons l l' t T he _ ih =>
    have hmod := padded_mod t.value.length
    rw [List.length_append, he.length, Tlv.size]
    omega

lemma setLength_writeHeader (type n v : Nat) (id l : Bytes) :
    setLength (writeHeader type n id ++ l) v = writeHeader type v id ++ l := by
  have htype : (toBE 2 type).length = 2 := length_toBE _ _
  have hlength : (toBE 2 n).length = 2 := length_toBE _ _
  have hdrop : (toBE 2 type ++ (toBE 2 n ++ (toBE 4 kStunMagicCookie ++ (id ++ l)))).drop 4 =
      toBE 4 kStunMagicCookie ++ (id ++ l) := by
    rw [show 4 = 2 + 2 from rfl, ← List.drop_drop, List.drop_left' htype, List.drop_left' hlength]
  simp only [setLength, writeHeader, List.append_assoc, List.take_left' htype, hdrop]

/-- The octets that are authenticated are those that were signed: the length of a message that ends
with the attribute is put back if more follows. -/
lemma authenticated_writeHeader (hid : id.length = kStunTransactionIdLength) (type : Nat)
    (l rest : Bytes) :
    authenticated (kStunHeaderSize + (l.length + 24 + rest.length))
        (writeHeader type (l.length + 24 + rest.length) id ++ l) =
      writeHeader type (l.length + 24) id ++ l := by
  simp only [authenticated, List.length_append, length_writeHeader hid, kStunAttributeHeaderSize,
    kStunMessageIntegritySize]
  by_cases hrest : rest.length = 0
  · rw [if_neg (by omega), hrest, Nat.add_zero]
  · rw [if_pos (by omega), setLength_writeHeader,
      show kStunHeaderSize + l.length + 4 + 20 - kStunHeaderSize = l.length + 24 by omega]

lemma validateOfType_signed (hid : id.length = kStunTransactionIdLength) (hT : Tiles l T)
    (hother : ∀ t ∈ T, t.type ≠ stunAttrMessageIntegrity) (hrest : rest.length % 4 = 0)
    (hlen : l.length + 24 + rest.length < 2 ^ 16)
    (hdigest : digest =
      digestOf hmac password (writeHeader type.toNat (l.length + 24) id ++ l))
    (hdata : data = writeHeader type.toNat (l.length + 24 + rest.length) id ++
      (l ++ (encodeIntegrity digest ++ rest))) :
    validateMessageIntegrityOfType (digestOf hmac) data password = .ok true := by
  have hheader : (writeHeader type.toNat (l.length + 24 + rest.length) id).length =
      kStunHeaderSize := length_writeHeader hid
  have hdigestLength : digest.length = 20 := by
    rw [hdigest]
    exact length_digestOf _ _
  have hsize : data.length = kStunHeaderSize + (l.length + 24 + rest.length) := by
    rw [hdata, List.length_append, hheader, List.length_append, List.length_append,
      encodeIntegrity, List.length_append, List.length_append, length_toBE, length_toBE,
      hdigestLength]
    omega
  obtain ⟨-, hlength, -, -⟩ := read_writeHeader type hid hlen
    (l ++ (encodeIntegrity digest ++ rest))
  rw [← hdata] at hlength
  have hfront : (writeHeader type.toNat (l.length + 24 + rest.length) id ++ l).length =
      kStunHeaderSize + l.length := by
    rw [List.length_append, hheader]
  have hdata' : data = (writeHeader type.toNat (l.length + 24 + rest.length) id ++ l) ++
      (encodeIntegrity digest ++ rest) := by
    rw [hdata, List.append_assoc]
  have htake : data.take (kStunHeaderSize + l.length) =
      writeHeader type.toNat (l.length + 24 + rest.length) id ++ l := by
    rw [hdata', List.take_left' hfront]
  have hdrop : data.drop (kStunHeaderSize + l.length) = encodeIntegrity digest ++ rest := by
    rw [hdata', List.drop_left' hfront]
  have hlocate : locateMessageIntegrity data = .ok (some (kStunHeaderSize + l.length)) := by
    refine locateMessageIntegrity_eq_some_iff.mpr ⟨Nat.le_add_right _ _, by omega, ?_, T, ?_,
      hother⟩
    · rw [encodeIntegrity, List.append_assoc] at hdrop
      rw [getBE_of_drop hdrop (length_toBE _ _) (by decide), ofBE_toBE (by decide)]
    · rw [htake, List.drop_left' hheader]
      exact hT
  have hvalue : readAt data (kStunHeaderSize + l.length + 4) 20 = .ok digest := by
    have hskip : (toBE 2 stunAttrMessageIntegrity ++ toBE 2 kStunMessageIntegritySize).length = 4 := by
      rw [List.length_append, length_toBE, length_toBE]
    rw [readAt, if_pos (by omega), ← List.drop_drop, hdrop, encodeIntegrity, ← List.append_assoc,
      List.append_assoc _ digest, List.drop_left' hskip, List.take_left' hdigestLength]
  have hhead : readAt data 0 (kStunHeaderSize + l.length) =
      .ok (writeHeader type.toNat (l.length + 24 + rest.length) id ++ l) := by
    rw [readAt, if_pos (by omega), List.drop_zero, htake]
  have hget : getBE data 2 2 = .ok (l.length + 24 + rest.length) := by
    rw [getBE_of_le data 2 2 (by rw [hsize, kStunHeaderSize]; omega), ← hlength]
    rfl
  have hmod := hT.length_mod
  unfold validateMessageIntegrityOfType
  rw [if_neg (by rw [hsize, kStunHeaderSize]; omega), hget]
  simp only [bind, Except.bind]
  rw [if_neg (by rw [hsize, Nat.add_comm]; exact not_not.mpr rfl), hlocate]
  simp only [hhead]
  rw [hsize, authenticated_writeHeader hid, ← hdigest, kStunMessageIntegritySize,
    if_neg (by rw [hdigestLength]; decide), kStunAttributeHeaderSize, hvalue]
  simp [pure, Except.pure]

lemma getBE_magicCookie (type n : Nat) (id l : Bytes) :
    getBE (writeHeader type n id ++ l) 4 4 = .ok kStunMagicCookie := by
  have htype : (toBE 2 type).length = 2 := length_toBE _ _
  have hlength : (toBE 2 n).length = 2 := length_toBE _ _
  have hdrop : (writeHeader type n id ++ l).drop 4 = toBE 4 kStunMagicCookie ++ (id ++ l) := by
    simp only [writeHeader, List.append_assoc]
    rw [show 4 = 2 + 2 from rfl, ← List.drop_drop, List.drop_left' htype, List.drop_left' hlength]
  rw [getBE_of_drop hdrop (length_toBE _ _) (by decide), ofBE_toBE (by decide)]

lemma checksum_xor_lt (text : Bytes) :
    checksumOf crc32 text ^^^ stunFingerprintXorValue < 256 ^ 4 :=
  Nat.xor_lt_two_pow (n := 32) (UInt32.toNat_lt _) (by decide)

lemma validateFingerprint_signed (type : UInt16) (n : Nat)
    (hid : id.length = kStunTransactionIdLength) (hl : l.length % 4 = 0)
    (hdata : data = writeHeader type.toNat n id ++ l ++
      encodeFingerprint (checksumOf crc32 (writeHeader type.toNat n id ++ l) ^^^
        stunFingerprintXorValue)) :
    validateFingerprint (checksumOf crc32) data = .ok true := by
  obtain ⟨front, hfront⟩ : ∃ front, front = writeHeader type.toNat n id ++ l := ⟨_, rfl⟩
  have hcookie : getBE data (8 - 4) 4 = .ok kStunMagicCookie := by
    rw [hdata, List.append_assoc]
    exact getBE_magicCookie _ _ _ _
  rw [← hfront] at hdata
  have hfrontLength : front.length = 20 + l.length := by
    rw [hfront, List.length_append, length_writeHeader hid, kStunHeaderSize]
  have hsize : data.length = front.length + (4 + 4) := by
    rw [hdata, List.length_append, encodeFingerprint, List.length_append, List.length_append,
      length_toBE, length_toBE, length_toBE]
  have hdrop : data.drop front.length = encodeFingerprint
      (checksumOf crc32 front ^^^ stunFingerprintXorValue) := by
    rw [hdata, List.drop_left]
  rw [encodeFingerprint] at hdrop
  have htype := getBE_of_drop hdrop (length_toBE _ _) (by decide)
  have hdrop₂ : data.drop (front.length + 2) = toBE 2 stunUInt32Size ++
      toBE 4 (checksumOf crc32 front ^^^ stunFingerprintXorValue) := by
    rw [← List.drop_drop, hdrop, List.drop_left' (length_toBE _ _)]
  have hlength := getBE_of_drop hdrop₂ (length_toBE _ _) (by decide)
  have hdrop₄ : data.drop (front.length + 4) =
      toBE 4 (checksumOf crc32 front ^^^ stunFingerprintXorValue) ++ [] := by
    rw [show front.length + 4 = front.length + 2 + 2 from rfl, ← List.drop_drop, hdrop₂,
      List.drop_left' (length_toBE _ _), List.append_nil]
  have hvalue := getBE_of_drop hdrop₄ (length_toBE _ _) (by decide)
  rw [ofBE_toBE (by decide)] at htype hlength
  rw [ofBE_toBE (checksum_xor_lt front)] at hvalue
  have htext : readAt data 0 front.length = .ok front := by
    rw [readAt, if_pos (by omega), List.drop_zero, hdata, List.take_left]
  unfold validateFingerprint kStunTransactionIdOffset kStunMagicCookieLength
    kStunAttributeHeaderSize stunUInt32Size kStunHeaderSize
  dsimp only
  rw [if_neg (by omega), hcookie, show data.length - (4 + 4) = front.length by omega, htype]
  simp only [bind, Except.bind, ne_eq, not_true, if_false]
  rw [hlength]
  simp only [stunUInt32Size, not_true, if_false]
  rw [hvalue]
  simp only [htext, Nat.xor_assoc, Nat.xor_self, Nat.xor_zero]
  simp [pure, Except.pure]

/-! ## The signed message -/

/-- What `add_message_integrity` and `add_fingerprint` need of the attributes that were added before. -/
structure Signable (attrs : List StunAttribute) : Prop where
  made : ∀ a ∈ attrs, a.Made
  other : ∀ a ∈ attrs, a.type ≠ stunAttrMessageIntegrity ∧ a.type ≠ stunAttrFingerprint
  priority : ∀ a ∈ attrs, a.type = stunAttrPriority → ∃ bits, a = .uint32 stunAttrPriority bits

lemma Signable.inSync (h : Signable attrs) : ∀ a ∈ attrs, InSync a.tlv := by
  intro a ha hprio
  obtain ⟨bits, rfl⟩ := h.priority a ha hprio
  simp [StunAttribute.tlv, StunAttribute.write, StunAttribute.length]

lemma Signable.inSync_append (h : Signable attrs) {more : List StunAttribute}
    (hmore : ∀ a ∈ more, a.type ≠ stunAttrPriority) : ∀ a ∈ attrs ++ more, InSync a.tlv := by
  rw [List.forall_mem_append]
  exact ⟨h.inSync, fun a ha hprio => absurd hprio (hmore a ha)⟩

lemma Signable.tlv_type (h : Signable attrs) :
    ∀ t ∈ attrs.map StunAttribute.tlv, t.type ≠ stunAttrMessageIntegrity := by
  intro t ht
  obtain ⟨a, ha, rfl⟩ := List.mem_map.mp ht
  exact (h.other a ha).1

lemma addMessageIntegrity_of_write {front enc : Bytes} (henc : enc.length = 24)
    (h : (msg.addAttribute (.ofString stunAttrMessageIntegrity
      (List.replicate kStunMessageIntegritySize 48))).write = some (front ++ enc)) :
    (msg.addMessageIntegrity (digestOf hmac) password).1 =
      { msg.addAttribute (.ofString stunAttrMessageIntegrity
          (List.replicate kStunMessageIntegritySize 48)) with
        attrs := msg.attrs ++
          [.byteString stunAttrMessageIntegrity (digestOf hmac password front)]
        integrity := .kIntegrityOk } := by
  have htake : (front ++ enc).take ((front ++ enc).length - kStunAttributeHeaderSize -
      kStunMessageIntegritySize) = front := by
    rw [List.length_append, henc, kStunAttributeHeaderSize, kStunMessageIntegritySize]
    exact List.take_left' (by omega)
  unfold addMessageIntegrity
  dsimp only
  rw [h]
  dsimp only
  rw [htake, if_neg (by rw [length_digestOf]; decide)]

lemma addFingerprint_of_write {crc32 : Bytes → Nat} {front enc : Bytes} (henc : enc.length = 8)
    (h : (msg.addAttribute (.uint32 stunAttrFingerprint 0)).write = some (front ++ enc)) :
    (msg.addFingerprint crc32).1 =
      { msg.addAttribute (.uint32 stunAttrFingerprint 0) with
        attrs := msg.attrs ++
          [.uint32 stunAttrFingerprint (crc32 front ^^^ stunFingerprintXorValue)] } := by
  have htake : (front ++ enc).take ((front ++ enc).length - kStunAttributeHeaderSize -
      stunUInt32Size) = front := by
    rw [List.length_append, henc, kStunAttributeHeaderSize, stunUInt32Size]
    exact List.take_left' (by omega)
  unfold addFingerprint
  dsimp only
  rw [h]
  dsimp only
  rw [htake]

/-- The digest of `add_message_integrity` is over what precedes it, under the length of a message
that ends with it. -/
lemma addMessageIntegrity_build (hmac : Bytes → Bytes → Vector UInt8 20) (password : Bytes)
    (type : UInt16) (id : Bytes) (hmade : ∀ a ∈ attrs, a.Made) (hl : writeAttributes attrs = some l)
    (hlen : l.length + 24 < 2 ^ 16) (hdigest : digest =
      digestOf hmac password (writeHeader type.toNat (l.length + 24) id ++ l)) :
    ((build type id attrs).addMessageIntegrity (digestOf hmac) password).1 =
      { build type id (attrs ++ [.byteString stunAttrMessageIntegrity digest]) with
        integrity := .kIntegrityOk } := by
  have hdigestLength : digest.length = 20 := by
    rw [hdigest]
    exact length_digestOf _ _
  have hencode : (encodeIntegrity (List.replicate 20 48)).length = 24 := by decide
  have hmadeZeros : ∀ a ∈ attrs ++ [.byteString stunAttrMessageIntegrity (List.replicate 20 48)],
      a.Made := by
    rw [List.forall_mem_append]
    exact ⟨hmade, List.forall_mem_singleton.mpr (made_integrity (by decide))⟩
  have hwrite := write_build_eq type id hmadeZeros
    (writeAttributes_integrity hl (by decide)) (by rw [List.length_append, hencode]; exact hlen)
  rw [List.length_append, hencode, ← List.append_assoc, build_append] at hwrite
  rw [addMessageIntegrity_of_write hencode hwrite, ← hdigest, build_append]
  simp only [build_eq, addAttribute, StunAttribute.ofString, StunAttribute.length, hdigestLength]
  rfl

lemma addFingerprint_build (crc32 : Bytes → UInt32) (type : UInt16) (id : Bytes)
    (integrity : IntegrityStatus) (hmade : ∀ a ∈ attrs, a.Made)
    (hl : writeAttributes attrs = some l) (hlen : l.length + 8 < 2 ^ 16) :
    ({ build type id attrs with integrity := integrity }.addFingerprint (checksumOf crc32)).1 =
      { build type id (attrs ++ [.uint32 stunAttrFingerprint
          (checksumOf crc32 (writeHeader type.toNat (l.length + 8) id ++ l) ^^^
            stunFingerprintXorValue)]) with
        integrity := integrity } := by
  have hencode := length_encodeFingerprint 0
  have hmadeZero : ∀ a ∈ attrs ++ [.uint32 stunAttrFingerprint 0], a.Made := by
    rw [List.forall_mem_append]
    exact ⟨hmade, List.forall_mem_singleton.mpr (.uint32 0x8028 0)⟩
  have hwrite := write_build_eq type id hmadeZero
    (writeAttributes_fingerprint hl 0) (by rw [List.length_append, hencode]; exact hlen)
  rw [List.length_append, hencode, ← List.append_assoc, build_append] at hwrite
  have hwrite' : ({ build type id attrs with integrity := integrity }.addAttribute
      (.uint32 stunAttrFingerprint 0)).write = _ := hwrite
  rw [addFingerprint_of_write hencode hwrite', build_append]
  rfl

/-- What was written with a MESSAGE-INTEGRITY is read and verified, if the check on its octets
succeeds. -/
lemma verified_of_write (hbit : type.toNat &&& 0x0800 = 0)
    (hid : id.length = kStunTransactionIdLength) (hmade : ∀ a ∈ attrs, a.Made)
    (hsync : ∀ a ∈ attrs, InSync a.tlv) (hdigest : digest.length = 20)
    (hmem : .byteString stunAttrMessageIntegrity digest ∈ attrs)
    (h : (build type id attrs).write = some data) (hlen : data.length < 2 ^ 16)
    (hcheck : validateMessageIntegrityOfType (digestOf hmac) data password = .ok true) :
    Verified hmac password data := by
  have hread := read_of_write hbit hid hmade hsync h hlen
  obtain ⟨hframed, -, read, hattrs, hmsg⟩ := read_eq_some_iff.mp hread
  have hreads := (readAttributes_eq_some_iff hframed.length_lt).mp hattrs
  obtain rfl : _ = read := congrArg StunMessage.attrs hmsg
  have hknown : (StunAttribute.byteString stunAttrMessageIntegrity digest).IsKnown :=
    Or.inr (Or.inl rfl)
  have hmade' := (made_integrity hdigest).toAttribute_tlv ⟨digest, rfl⟩
  rw [if_pos hknown] at hmade'
  have hfound := (isSome_messageIntegrity_iff hreads).mpr
    ⟨_, List.mem_filterMap.mpr ⟨_, List.mem_map.mpr ⟨_, hmem, rfl⟩, hmade'⟩, rfl⟩
  have hvalid : ∀ msg : StunMessage, msg.buffer = data →
      (msg.getByteString stunAttrMessageIntegrity).isSome = true →
      msg.validateMessageIntegrity (digestOf hmac) password =
        .ok { msg with integrity := .kIntegrityOk } := by
    rintro msg rfl hsome
    unfold validateMessageIntegrity
    rw [if_pos hsome, hcheck]
    rfl
  exact ⟨_, _, hread, hvalid _ rfl hfound, rfl⟩

lemma verified_integrity (hbit : type.toNat &&& 0x0800 = 0)
    (hid : id.length = kStunTransactionIdLength) (hsign : Signable attrs)
    (hl : writeAttributes attrs = some l) (hlen : l.length + 44 < 2 ^ 16) (hdigest : digest =
      digestOf hmac password (writeHeader type.toNat (l.length + 24) id ++ l)) :
    ∃ signed, (build type id (attrs ++ [.byteString stunAttrMessageIntegrity digest])).write =
      some signed ∧ Verified hmac password signed := by
  have hdigestLength : digest.length = 20 := by
    rw [hdigest]
    exact length_digestOf _ _
  have hencode := length_encodeIntegrity hdigestLength
  have hmade : ∀ a ∈ attrs ++ [.byteString stunAttrMessageIntegrity digest], a.Made := by
    rw [List.forall_mem_append]
    exact ⟨hsign.made, List.forall_mem_singleton.mpr (made_integrity hdigestLength)⟩
  have hwrite := write_build_eq type id hmade
    (writeAttributes_integrity hl hdigestLength) (by rw [List.length_append, hencode]; omega)
  rw [List.length_append, hencode] at hwrite
  have htype : stunAttrMessageIntegrity ≠ stunAttrPriority := by decide
  refine ⟨_, hwrite, verified_of_write hbit hid hmade
    (hsign.inSync_append (List.forall_mem_singleton.mpr htype)) hdigestLength (by simp) hwrite
    ?_ ?_⟩
  · rw [List.length_append, List.length_append, length_writeHeader hid, hencode, kStunHeaderSize]
    omega
  · have hdata : writeHeader type.toNat (l.length + 24) id ++ (l ++ encodeIntegrity digest) =
        writeHeader type.toNat (l.length + 24 + ([] : Bytes).length) id ++
          (l ++ (encodeIntegrity digest ++ [])) := by
      rw [List.append_nil]
      rfl
    refine validateOfType_signed hid (tiles_writeAttributes hsign.made hl (by omega))
      hsign.tlv_type rfl ?_ hdigest hdata
    rw [List.length_nil]
    omega

lemma verified_fingerprint (hbit : type.toNat &&& 0x0800 = 0)
    (hid : id.length = kStunTransactionIdLength) (hsign : Signable attrs)
    (hl : writeAttributes attrs = some l) (hlen : l.length + 52 < 2 ^ 16) (hdigest : digest =
      digestOf hmac password (writeHeader type.toNat (l.length + 24) id ++ l)) {text : Bytes}
    (htext : text = writeHeader type.toNat (l.length + 32) id ++ (l ++ encodeIntegrity digest)) :
    ∃ signed, (build type id (attrs ++ [.byteString stunAttrMessageIntegrity digest] ++
        [.uint32 stunAttrFingerprint (checksumOf crc32 text ^^^ stunFingerprintXorValue)])).write =
      some signed ∧ validateFingerprint (checksumOf crc32) signed = .ok true ∧
        Verified hmac password signed := by
  have hdigestLength : digest.length = 20 := by
    rw [hdigest]
    exact length_digestOf _ _
  have hencode := length_encodeIntegrity hdigestLength
  have hfingerprint := length_encodeFingerprint (checksumOf crc32 text ^^^ stunFingerprintXorValue)
  have hT := tiles_writeAttributes hsign.made hl (by omega)
  have hmade : ∀ a ∈ attrs ++ [.byteString stunAttrMessageIntegrity digest] ++
      [.uint32 stunAttrFingerprint (checksumOf crc32 text ^^^ stunFingerprintXorValue)],
      a.Made := by
    rw [List.forall_mem_append, List.forall_mem_append]
    exact ⟨⟨hsign.made, List.forall_mem_singleton.mpr (made_integrity hdigestLength)⟩,
      List.forall_mem_singleton.mpr (made_fingerprint text)⟩
  have hwrite := write_build_eq type id hmade
    (writeAttributes_fingerprint (writeAttributes_integrity hl hdigestLength) _)
    (by rw [List.length_append, List.length_append, hencode, hfingerprint]; omega)
  rw [List.length_append, List.length_append, hencode, hfingerprint,
    show l.length + 24 + 8 = l.length + 32 from rfl] at hwrite
  have hmod := hT.length_mod
  refine ⟨_, hwrite, ?_, ?_⟩
  · refine validateFingerprint_signed type (l.length + 32) hid
      (?_ : (l ++ encodeIntegrity digest).length % 4 = 0) ?_
    · rw [List.length_append, hencode]
      omega
    · rw [← htext, ← List.append_assoc, ← htext]
  · have htypes : ∀ a ∈ [StunAttribute.byteString stunAttrMessageIntegrity digest,
        .uint32 stunAttrFingerprint (checksumOf crc32 text ^^^ stunFingerprintXorValue)],
        a.type ≠ stunAttrPriority := by
      simp [StunAttribute.type, stunAttrMessageIntegrity, stunAttrFingerprint, stunAttrPriority]
    rw [List.append_assoc] at hwrite hmade
    refine verified_of_write hbit hid hmade (hsign.inSync_append htypes) hdigestLength (by simp)
      hwrite ?_ ?_
    · rw [List.length_append, List.length_append, List.length_append, length_writeHeader hid,
        hencode, hfingerprint, kStunHeaderSize]
      omega
    · obtain ⟨rest, hrest⟩ : ∃ rest, rest = encodeFingerprint
          (checksumOf crc32 text ^^^ stunFingerprintXorValue) := ⟨_, rfl⟩
      rw [← hrest] at hfingerprint ⊢
      have hdata : writeHeader type.toNat (l.length + 32) id ++
          (l ++ encodeIntegrity digest ++ rest) =
            writeHeader type.toNat (l.length + 24 + rest.length) id ++
              (l ++ (encodeIntegrity digest ++ rest)) := by
        rw [hfingerprint, List.append_assoc]
      exact validateOfType_signed hid hT hsign.tlv_type (by omega) (by omega) hdigest hdata

/-- The receiver of a message that was signed under a password verifies it under the same password,
with or without a fingerprint. -/
theorem signed_verified (hbit : type.toNat &&& 0x0800 = 0)
    (hid : id.length = kStunTransactionIdLength) (hsign : Signable attrs) (password : Bytes)
    (h : (build type id attrs).write = some data) :
    (data.length + 24 < 2 ^ 16 → ∃ signed,
      ((build type id attrs).addMessageIntegrity (digestOf hmac) password).1.write = some signed ∧
        Verified hmac password signed) ∧
    (data.length + 32 < 2 ^ 16 → ∃ signed,
      (((build type id attrs).addMessageIntegrity (digestOf hmac) password).1.addFingerprint
        (checksumOf crc32)).1.write = some signed ∧
      validateFingerprint (checksumOf crc32) signed = .ok true ∧ Verified hmac password signed) := by
  by_cases hlen : data.length + 24 < 2 ^ 16
  · obtain ⟨l, hl, hdata, -⟩ := write_build hsign.made h (by omega)
    have hsize : data.length = 20 + l.length := by
      rw [hdata, List.length_append, length_writeHeader hid, kStunHeaderSize]
    have hintegrity := addMessageIntegrity_build hmac password type id hsign.made hl
      (by omega) rfl
    obtain ⟨digest, hdigest⟩ : ∃ digest, digest =
        digestOf hmac password (writeHeader type.toNat (l.length + 24) id ++ l) := ⟨_, rfl⟩
    rw [← hdigest] at hintegrity
    have hdigestLength : digest.length = 20 := by
      rw [hdigest]
      exact length_digestOf _ _
    have hencode := length_encodeIntegrity hdigestLength
    have hmade : ∀ a ∈ attrs ++ [.byteString stunAttrMessageIntegrity digest], a.Made := by
      rw [List.forall_mem_append]
      exact ⟨hsign.made, List.forall_mem_singleton.mpr (made_integrity hdigestLength)⟩
    rw [hintegrity]
    refine ⟨fun _ => verified_integrity hbit hid hsign hl (by omega) hdigest, fun hlen => ?_⟩
    rw [addFingerprint_build _ _ _ _ hmade (writeAttributes_integrity hl hdigestLength)
      (by rw [List.length_append, hencode]; omega), List.length_append, hencode]
    exact verified_fingerprint hbit hid hsign hl (by omega) hdigest rfl
  · exact ⟨fun h => absurd h hlen, fun h => absurd h (by omega)⟩

/-- A request as `ConnectionRequest::prepare` makes it. -/
def sampleRequest : List StunAttribute :=
  [.ofString stunAttrUsername [97, 58, 98], .uint64 0x802A 0, .ofString 0x0025 [],
    .uint32 stunAttrPriority 7]

lemma sampleRequest_signable : Signable sampleRequest where
  made := by
    simp only [sampleRequest, List.forall_mem_cons]
    exact ⟨.byteString 6 _, .uint64 0x802A 0, .byteString 0x25 [], .uint32 0x24 7, by simp⟩
  other := by decide
  priority := by
    simp only [sampleRequest, List.forall_mem_cons]
    exact ⟨nofun, nofun, nofun, fun _ => ⟨7, rfl⟩, by simp⟩

theorem sampleRequest_verified :
    ∃ signed,
      (((build 1 (List.replicate 12 7) sampleRequest).addMessageIntegrity
        (digestOf fun _ _ => Vector.replicate 20 5) [112]).1.addFingerprint
          (checksumOf fun _ => 9)).1.write = some signed ∧
      validateFingerprint (checksumOf fun _ => 9) signed = .ok true ∧
      Verified (fun _ _ => Vector.replicate 20 5) [112] signed := by
  have hwrite : (build 1 (List.replicate 12 7) sampleRequest).write =
      some (((build 1 (List.replicate 12 7) sampleRequest).write).getD []) := by decide +kernel
  exact (signed_verified (by decide) (by decide) sampleRequest_signable [112] hwrite).2
    (by decide +kernel)

end XrtcServer.Ice
