import XrtcServer.Ice.StunReader
import Mathlib.Data.List.Induction

/-!
# Writing STUN messages

`add_attribute` keeps the length of the message as the attributes come in, and `write` puts out the
header and each attribute by its class. The file proves that what is written is the type-length-value
sequence of the attributes under a header with its length, so that the reader takes it apart again.
-/

namespace XrtcServer.Ice
open XrtcServer.Base XrtcServer.Core StunMessage

/-- `StunErrorCodeAttribute::MIN_SIZE` -/
def stunErrorCodeMinSize : Nat := 4

namespace StunAttribute

/-- The constructor of `StunByteStringAttribute` from a string: `set_length` keeps sixteen bits of
its size, and these are the octets that are ever read again. -/
def ofString (type : Nat) (str : Bytes) : StunAttribute :=
  .byteString type (str.take (str.length % 2 ^ 16))

/-- An attribute object with its content set, as the constructors and setters take it. -/
inductive Made : StunAttribute → Prop
  | byteString (type : UInt16) (str : Bytes) : Made (ofString type.toNat str)
  | uint32 (type : UInt16) (value : UInt32) : Made (.uint32 type.toNat value.toNat)
  | uint64 (type : UInt16) (value : UInt64) : Made (.uint64 type.toNat value.toNat)
  | address (type : UInt16) (addr : SocketAddress) : Made (.address type.toNat addr)
  | xorAddress (type : UInt16) (addr : SocketAddress) : Made (.xorAddress type.toNat addr)
  | errorCode (type : UInt16) (cls number : UInt8) (reason : Bytes) :
      Made (.errorCode type.toNat cls.toNat number.toNat reason)

/-- The length that `set_address` sets. -/
def addressLength (addr : SocketAddress) : Nat :=
  match addr.family with
  | .ipv4 => 8
  | .ipv6 => 20
  | .undef => 0

def length : StunAttribute → Nat
  | .byteString _ bytes => bytes.length
  | .uint32 .. => 4
  | .uint64 .. => 8
  | .address _ addr => addressLength addr
  | .xorAddress _ addr => addressLength addr
  | .errorCode _ _ _ reason => (stunErrorCodeMinSize + reason.length) % 2 ^ 16

def writePadding (length : Nat) : Bytes :=
  if length % 4 > 0 then List.replicate (4 - length % 4) 0 else []

def writeAddress (addr : SocketAddress) : Option Bytes :=
  if addr.family = .undef then none
  else some ([0, UInt8.ofNat addr.family.toNat] ++ toBE 2 addr.port.toNat ++ addr.ip)

/-- `_get_xored_ip`, which knows IPv4 only. -/
def getXoredIp (addr : SocketAddress) : Option Bytes :=
  if addr.family = .ipv4 then
    some (List.zipWith (fun a b => a ^^^ b) addr.ip (toBE 4 kStunMagicCookie))
  else none

def writeXorAddress (addr : SocketAddress) : Option Bytes :=
  if addr.family = .undef then none
  else (getXoredIp addr).map fun ip =>
    [0, UInt8.ofNat addr.family.toNat] ++
      toBE 2 (addr.port.toNat ^^^ (kStunMagicCookie >>> 16)) ++ ip

/-- `write` of the classes: the value and its padding; `none` where it returns false. -/
def write : StunAttribute → Option Bytes
  | .byteString _ bytes => some (bytes ++ writePadding bytes.length)
  | .uint32 _ bits => some (toBE 4 bits)
  | .uint64 _ bits => some (toBE 8 bits)
  | .address _ addr => writeAddress addr
  | .xorAddress _ addr => writeXorAddress addr
  | a@(.errorCode _ cls number reason) =>
    some (toBE 4 (cls <<< 8 ||| number) ++ reason ++ writePadding a.length)

/-- The classes that `StunAttribute::create` would make for the type, or any for another type. -/
def KindOfType (a : StunAttribute) : Prop :=
  match getAttributeValueType a.type with
  | .stunValueUnknown => True
  | .stunValueByteString => ∃ bytes, a = .byteString a.type bytes
  | .stunValueUInt32 => ∃ bits, a = .uint32 a.type bits

end StunAttribute

namespace StunMessage

/-- The default constructor. -/
def new : StunMessage where
  type := 0
  length := 0
  transactionId := List.replicate 12 48
  attrs := []
  buffer := []

def setType (msg : StunMessage) (type : UInt16) : StunMessage := { msg with type := type.toNat }

def setTransactionId (msg : StunMessage) (transactionId : Bytes) : StunMessage :=
  { msg with transactionId }

/-- `add_attribute`; `_length` has sixteen bits. -/
def addAttribute (msg : StunMessage) (attr : StunAttribute) : StunMessage :=
  { msg with
    length := (msg.length + (padded attr.length + kStunAttributeHeaderSize)) % 2 ^ 16
    attrs := msg.attrs ++ [attr] }

/-- The loop of `write` over the attributes. -/
def writeAttributes : List StunAttribute → Option Bytes
  | [] => some []
  | attr :: attrs => do
    let value ← attr.write
    let rest ← writeAttributes attrs
    some (toBE 2 attr.type ++ (toBE 2 attr.length ++ value) ++ rest)

/-- The header that `write` puts out. -/
def writeHeader (type length : Nat) (transactionId : Bytes) : Bytes :=
  toBE 2 type ++ (toBE 2 length ++ (toBE 4 kStunMagicCookie ++ transactionId))

/-- `StunMessage::write`; `none` where it returns false. -/
def write (msg : StunMessage) : Option Bytes :=
  (writeAttributes msg.attrs).map
    (writeHeader msg.type msg.length msg.transactionId ++ ·)

/-- A message of this type and transaction with these attributes added one after the other. -/
def build (type : UInt16) (transactionId : Bytes) (attrs : List StunAttribute) : StunMessage :=
  attrs.foldl addAttribute ((new.setType type).setTransactionId transactionId)

end StunMessage

variable {a : StunAttribute} {attrs : List StunAttribute} {body l id data : Bytes}
  {msg : StunMessage} {type : UInt16}

/-! ## One attribute -/

namespace StunAttribute

/-- The type-length-value reading of what is written of an attribute. -/
def tlv (a : StunAttribute) : Tlv where
  type := a.type
  value := (a.write.getD []).take a.length

lemma length_writePadding (n : Nat) : n + (writePadding n).length = padded n := by
  unfold writePadding padded
  by_cases hn : n % 4 = 0
  · simp [hn]
  · rw [if_pos (Nat.pos_of_ne_zero hn), if_pos hn, List.length_replicate]

lemma Made.type_lt (h : Made a) : a.type < 256 ^ 2 := by
  cases h <;> exact UInt16.toNat_lt _

lemma length_writeAddress {addr : SocketAddress} (h : writeAddress addr = some body) :
    body.length = addressLength addr := by
  obtain ⟨hv4, hv6⟩ := addr.length_ip
  unfold writeAddress at h
  unfold addressLength
  cases hfam : addr.family with
  | undef => simp [hfam] at h
  | ipv4 =>
    simp only [hfam] at h
    cases h
    simp [hv4 hfam]
  | ipv6 =>
    simp only [hfam] at h
    cases h
    simp [hv6 hfam]

lemma length_writeXorAddress {addr : SocketAddress} (h : writeXorAddress addr = some body) :
    body.length = addressLength addr := by
  obtain ⟨hv4, -⟩ := addr.length_ip
  unfold writeXorAddress getXoredIp at h
  unfold addressLength
  cases hfam : addr.family with
  | undef => simp [hfam] at h
  | ipv4 =>
    simp only [hfam] at h
    cases h
    simp [hv4 hfam]
  | ipv6 => simp [hfam] at h

lemma addressLength_eq (addr : SocketAddress) :
    padded (addressLength addr) = addressLength addr ∧ addressLength addr < 256 ^ 2 := by
  unfold addressLength
  cases addr.family <;> decide

lemma Made.write_spec (h : Made a) (hw : a.write = some body) (hbody : body.length < 2 ^ 16) :
    a.length ≤ body.length ∧ body.length = padded a.length ∧ a.length < 256 ^ 2 := by
  cases h with
  | byteString type str =>
    cases hw
    rw [List.length_append, length_writePadding] at hbody
    rw [List.length_append, length_writePadding]
    have hle := le_padded (str.take (str.length % 2 ^ 16)).length
    have hlt := Nat.mod_lt str.length (y := 2 ^ 16) (by decide)
    refine ⟨hle, rfl, ?_⟩
    rw [ofString, length, List.length_take]
    omega
  | uint32 type value =>
    cases hw
    rw [length_toBE, length]
    decide
  | uint64 type value =>
    cases hw
    rw [length_toBE, length]
    decide
  | address type addr =>
    obtain ⟨hpadded, hlt⟩ := addressLength_eq addr
    have hlen := length_writeAddress hw
    exact ⟨Nat.le_of_eq hlen.symm, hlen.trans hpadded.symm, hlt⟩
  | xorAddress type addr =>
    obtain ⟨hpadded, hlt⟩ := addressLength_eq addr
    have hlen := length_writeXorAddress hw
    exact ⟨Nat.le_of_eq hlen.symm, hlen.trans hpadded.symm, hlt⟩
  | errorCode type cls number reason =>
    cases hw
    have hpad := length_writePadding ((4 + reason.length) % 2 ^ 16)
    have hle := le_padded ((4 + reason.length) % 2 ^ 16)
    simp only [length, stunErrorCodeMinSize, List.length_append, length_toBE] at hbody ⊢
    rw [Nat.mod_eq_of_lt (show 4 + reason.length < 2 ^ 16 by omega)] at hpad hle hbody ⊢
    omega

lemma Made.length_value (h : Made a) (hw : a.write = some body) (hbody : body.length < 2 ^ 16) :
    a.tlv.value.length = a.length := by
  rw [tlv, hw, Option.getD_some]
  exact List.length_take_of_le (h.write_spec hw hbody).1

lemma Made.encodes (h : Made a) (hw : a.write = some body) (hbody : body.length < 2 ^ 16) :
    Encodes (toBE 2 a.type ++ (toBE 2 a.length ++ body)) a.tlv := by
  obtain ⟨hle, hpadded, hlt⟩ := h.write_spec hw hbody
  have hvalue := h.length_value hw hbody
  have hsplit : a.tlv.value ++ body.drop a.length = body := by
    rw [tlv, hw, Option.getD_some, List.take_append_drop]
  refine ⟨toBE 2 a.type, toBE 2 a.length, body.drop a.length, ?_, length_toBE _ _,
    ofBE_toBE h.type_lt, length_toBE _ _, ?_, ?_⟩
  · rw [hsplit]
  · rw [hvalue, ofBE_toBE hlt]
  · rw [hvalue, List.length_drop, ← hpadded, Nat.add_sub_cancel' hle]

end StunAttribute

/-! ## The message -/

lemma tiles_writeAttributes (hmade : ∀ a ∈ attrs, a.Made) (h : writeAttributes attrs = some l)
    (hlen : l.length < 2 ^ 16) : Tiles l (attrs.map StunAttribute.tlv) := by
  induction attrs generalizing l with
  | nil =>
    cases h
    exact .nil
  | cons a attrs ih =>
    obtain ⟨ha, hmade⟩ := List.forall_mem_cons.mp hmade
    obtain ⟨body, hbody, h⟩ := Option.bind_eq_some_iff.mp h
    obtain ⟨rest, hrest, h⟩ := Option.bind_eq_some_iff.mp h
    cases h
    simp only [List.length_append, length_toBE] at hlen
    exact .cons (ha.encodes hbody (by omega)) (ih hmade hrest (by omega))

/-- What `add_attribute` has added up is the length of what `write` puts out. -/
lemma sum_of_writeAttributes (hmade : ∀ a ∈ attrs, a.Made) (h : writeAttributes attrs = some l)
    (hlen : l.length < 2 ^ 16) :
    (attrs.map fun a => padded a.length + kStunAttributeHeaderSize).sum = l.length := by
  induction attrs generalizing l with
  | nil =>
    cases h
    rfl
  | cons a attrs ih =>
    obtain ⟨ha, hmade⟩ := List.forall_mem_cons.mp hmade
    obtain ⟨body, hbody, h⟩ := Option.bind_eq_some_iff.mp h
    obtain ⟨rest, hrest, h⟩ := Option.bind_eq_some_iff.mp h
    cases h
    simp only [List.length_append, length_toBE] at hlen ⊢
    rw [List.map_cons, List.sum_cons, ih hmade hrest (by omega),
      (ha.write_spec hbody (by omega)).2.1, kStunAttributeHeaderSize]
    omega

lemma build_eq (type : UInt16) (id : Bytes) (attrs : List StunAttribute) :
    build type id attrs =
      { type := type.toNat, transactionId := id, attrs, buffer := []
        length :=
          (attrs.map fun a => padded a.length + kStunAttributeHeaderSize).sum % 2 ^ 16 } := by
  induction attrs using List.reverseRecOn with
  | nil => rfl
  | append_singleton attrs a ih =>
    rw [build, List.foldl_append, ← build, ih]
    simp only [List.foldl_cons, List.foldl_nil, addAttribute, List.map_append, List.sum_append,
      List.map_cons, List.map_nil, List.sum_singleton, Nat.mod_add_mod]

lemma length_writeHeader {type length : Nat} (hid : id.length = kStunTransactionIdLength) :
    (writeHeader type length id).length = kStunHeaderSize := by
  simp only [writeHeader, List.length_append, length_toBE, hid]
  rfl

lemma write_build_eq (type : UInt16) (id : Bytes) (hmade : ∀ a ∈ attrs, a.Made)
    (hl : writeAttributes attrs = some l) (hlen : l.length < 2 ^ 16) :
    (build type id attrs).write = some (writeHeader type.toNat l.length id ++ l) := by
  rw [build_eq, sum_of_writeAttributes hmade hl hlen, Nat.mod_eq_of_lt hlen, write, hl,
    Option.map_some]

/-- The octets of a message that was built: its attributes under a header with their length. -/
theorem write_build (hmade : ∀ a ∈ attrs, a.Made)
    (h : (build type id attrs).write = some data) (hlen : data.length < 2 ^ 16) :
    ∃ l, writeAttributes attrs = some l ∧ data = writeHeader type.toNat l.length id ++ l ∧
      Tiles l (attrs.map StunAttribute.tlv) := by
  have hattrs := build_eq type id attrs
  obtain ⟨l, hl, hdata⟩ := Option.map_eq_some_iff.mp h
  rw [hattrs] at hl hdata
  have hlength : l.length < 2 ^ 16 := by
    rw [← hdata, List.length_append] at hlen
    omega
  rw [write_build_eq type id hmade hl hlength] at h
  exact ⟨l, hl, (Option.some.inj h).symm, tiles_writeAttributes hmade hl hlength⟩

lemma read_writeHeader (type : UInt16) {n : Nat} (hid : id.length = kStunTransactionIdLength)
    (hn : n < 2 ^ 16) (l : Bytes) :
    headerType (writeHeader type.toNat n id ++ l) = type.toNat ∧
      headerLength (writeHeader type.toNat n id ++ l) = n ∧
      headerTransactionId (writeHeader type.toNat n id ++ l) = id ∧
      (writeHeader type.toNat n id ++ l).drop kStunHeaderSize = l := by
  have htype : (toBE 2 type.toNat).length = 2 := length_toBE _ _
  have hlength : (toBE 2 n).length = 2 := length_toBE _ _
  have hcookie : (toBE 4 kStunMagicCookie).length = 4 := length_toBE _ _
  simp only [writeHeader, List.append_assoc]
  refine ⟨?_, ?_, ?_, ?_⟩
  · rw [headerType, List.take_left' htype, ofBE_toBE type.toNat_lt]
  · rw [headerLength, List.drop_left' htype, List.take_left' hlength, ofBE_toBE hn]
  · have hdrop₄ : (toBE 2 type.toNat ++ (toBE 2 n ++ (toBE 4 kStunMagicCookie ++ (id ++ l)))).drop 4
        = toBE 4 kStunMagicCookie ++ (id ++ l) := by
      rw [show 4 = 2 + 2 from rfl, ← List.drop_drop, List.drop_left' htype,
        List.drop_left' hlength]
    have hdrop₈ : (toBE 2 type.toNat ++ (toBE 2 n ++ (toBE 4 kStunMagicCookie ++ (id ++ l)))).drop 8
        = id ++ l := by
      rw [show 8 = 4 + 4 from rfl, ← List.drop_drop, hdrop₄, List.drop_left' hcookie]
    rw [headerTransactionId, hdrop₄, hdrop₈, kStunMagicCookieLength, List.take_left' hcookie,
      List.take_left' hid, ofBE_toBE (by decide), if_neg (not_not.mpr rfl)]
  · rw [← List.append_assoc, ← List.append_assoc, ← List.append_assoc]
    refine List.drop_left' ?_
    simp only [List.length_append, htype, hlength, hcookie, hid]
    rfl

/-! ## Reading it again -/

namespace StunAttribute

/-- A type of which the reader makes an object. -/
def IsKnown (a : StunAttribute) : Prop :=
  a.type = stunAttrUsername ∨ a.type = stunAttrMessageIntegrity ∨ a.type = stunAttrPriority

instance (a : StunAttribute) : Decidable a.IsKnown := by unfold IsKnown; infer_instance

lemma isKnown_iff : a.IsKnown ↔ getAttributeValueType a.type ≠ .stunValueUnknown := by
  unfold IsKnown getAttributeValueType
  split
  · simp_all
  · split
    · simp_all
    · split <;> simp_all

/-- The reader makes the attribute again that was written, if it makes one. -/
lemma Made.toAttribute_tlv (h : Made a) (hkind : a.KindOfType) :
    toAttribute a.tlv = if a.IsKnown then some a else none := by
  unfold toAttribute
  unfold KindOfType at hkind
  rw [tlv]
  cases htype : getAttributeValueType a.type with
  | stunValueUnknown =>
    rw [if_neg (not_not.mpr htype ∘ isKnown_iff.mp)]
  | stunValueByteString =>
    rw [htype] at hkind
    obtain ⟨bytes, hbytes⟩ := hkind
    rw [if_pos (isKnown_iff.mpr (by rw [htype]; decide))]
    conv_rhs => rw [hbytes]
    rw [hbytes]
    simp only [write, length, Option.getD_some, List.take_left, type]
  | stunValueUInt32 =>
    rw [htype] at hkind
    obtain ⟨bits, hbits⟩ := hkind
    rw [if_pos (isKnown_iff.mpr (by rw [htype]; decide))]
    have hlt : bits < 256 ^ 4 := by
      rw [hbits] at h
      generalize a.type = ty at h
      cases h with
      | uint32 type value => exact value.toNat_lt
    conv_rhs => rw [hbits]
    rw [hbits]
    have htake : (toBE 4 bits).take 4 = toBE 4 bits := List.take_of_length_le (by simp)
    simp only [write, length, Option.getD_some, type, htake, ofBE_toBE hlt]

lemma KindOfType.inSync (hkind : a.KindOfType) : InSync a.tlv := by
  intro hprio
  have htype : getAttributeValueType a.type = .stunValueUInt32 :=
    getAttributeValueType_uint32.mpr hprio
  rw [KindOfType, htype] at hkind
  obtain ⟨bits, hbits⟩ := hkind
  rw [tlv, hbits]
  simp [write, length]

end StunAttribute

lemma filterMap_tlv (hmade : ∀ a ∈ attrs, a.Made) (hkind : ∀ a ∈ attrs, a.KindOfType) :
    (attrs.map StunAttribute.tlv).filterMap toAttribute = attrs.filter (·.IsKnown) := by
  induction attrs with
  | nil => rfl
  | cons a attrs ih =>
    obtain ⟨ha, hmade⟩ := List.forall_mem_cons.mp hmade
    obtain ⟨hk, hkind⟩ := List.forall_mem_cons.mp hkind
    rw [List.map_cons]
    have hattr := ha.toAttribute_tlv hk
    by_cases hknown : a.IsKnown
    · rw [if_pos hknown] at hattr
      rw [List.filterMap_cons_some hattr, ih hmade hkind,
        List.filter_cons_of_pos (by simpa using hknown)]
    · rw [if_neg hknown] at hattr
      rw [List.filterMap_cons_none hattr, ih hmade hkind,
        List.filter_cons_of_neg (by simpa using hknown)]

lemma read_of_write (hbit : type.toNat &&& 0x0800 = 0)
    (hid : id.length = kStunTransactionIdLength) (hmade : ∀ a ∈ attrs, a.Made)
    (hsync : ∀ a ∈ attrs, InSync a.tlv) (h : (build type id attrs).write = some data)
    (hlen : data.length < 2 ^ 16) :
    read data = some { type := type.toNat, length := data.length - kStunHeaderSize
                       transactionId := id, buffer := data
                       attrs := (attrs.map StunAttribute.tlv).filterMap toAttribute } := by
  obtain ⟨l, -, hdata, hl⟩ := write_build hmade h hlen
  have htotal : data.length = kStunHeaderSize + l.length := by
    rw [hdata, List.length_append, length_writeHeader hid]
  have hl16 : l.length < 2 ^ 16 := by omega
  obtain ⟨htype, hlength, hidentity, hdrop⟩ := read_writeHeader type hid hl16 l
  rw [← hdata] at htype hlength hidentity hdrop
  have hsync' : ∀ t ∈ attrs.map StunAttribute.tlv, InSync t := by
    intro t ht
    obtain ⟨a, ha, rfl⟩ := List.mem_map.mp ht
    exact hsync a ha
  have hread := (readAttributes_eq_some_iff (by omega)).mpr (hl.reads hsync')
  rw [← hdrop] at hread
  refine read_eq_some_iff.mpr ⟨?_, ?_, _, hread, ?_⟩
  · rw [Framed, htotal, hlength]
  · rw [htype]
    exact hbit
  · rw [htype, hlength, hidentity, htotal, Nat.add_sub_cancel_left]

/-- What was written is read with the same type, transaction and known attributes. -/
theorem read_of_write_build (hbit : type.toNat &&& 0x0800 = 0)
    (hid : id.length = kStunTransactionIdLength) (hmade : ∀ a ∈ attrs, a.Made)
    (hkind : ∀ a ∈ attrs, a.KindOfType) (h : (build type id attrs).write = some data)
    (hlen : data.length < 2 ^ 16) :
    ∃ msg, read data = some msg ∧ msg.type = type.toNat ∧ msg.transactionId = id ∧
      kStunHeaderSize + msg.length = data.length ∧ msg.attrs = attrs.filter (·.IsKnown) := by
  have hread := read_of_write hbit hid hmade (fun a ha => (hkind a ha).inSync) h hlen
  have hle := length_of_read hread
  exact ⟨_, hread, rfl, rfl, Nat.add_sub_cancel' hle, filterMap_tlv hmade hkind⟩

/-- An error response with an attribute of every class. -/
def sampleAttributes : List StunAttribute :=
  [.ofString stunAttrUsername [97, 58, 98], .uint32 stunAttrPriority 7, .uint64 0x802A 9,
    .errorCode stunAttrErrorCode 4 1 [110, 111], .address 1 ⟨[10, 0, 0, 1], 80⟩,
    .xorAddress 0x20 ⟨[10, 0, 0, 1], 80⟩, .ofString stunAttrMessageIntegrity []]

lemma sampleAttributes_made : ∀ a ∈ sampleAttributes, a.Made := by
  simp only [sampleAttributes, List.forall_mem_cons]
  exact ⟨.byteString 6 _, .uint32 0x24 7, .uint64 0x802A 9, .errorCode 9 4 1 _, .address 1 _,
    .xorAddress 0x20 _, .byteString 8 _, by simp⟩

lemma sampleAttributes_kind : ∀ a ∈ sampleAttributes, a.KindOfType := by
  simp only [sampleAttributes, List.forall_mem_cons]
  exact ⟨⟨_, rfl⟩, ⟨_, rfl⟩, trivial, trivial, trivial, trivial, ⟨_, rfl⟩, by simp⟩

theorem sampleAttributes_read : ∃ msg,
    read (((build 0x0111 (List.replicate 12 7) sampleAttributes).write).getD []) = some msg ∧
      msg.type = 0x0111 ∧ msg.transactionId = List.replicate 12 7 ∧
      kStunHeaderSize + msg.length =
        (((build 0x0111 (List.replicate 12 7) sampleAttributes).write).getD []).length ∧
      msg.attrs = sampleAttributes.filter (·.IsKnown) := by
  have hbit : (0x0111 : UInt16).toNat &&& 0x0800 = 0 := by decide
  exact read_of_write_build hbit (by decide) sampleAttributes_made sampleAttributes_kind
    (by decide +kernel) (by decide +kernel)

end XrtcServer.Ice
