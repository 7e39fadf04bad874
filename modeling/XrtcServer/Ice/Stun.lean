import XrtcServer.Core.ReadAll
import XrtcServer.Ice.SocketAddress

/-!
# STUN messages

The reading and checking side of `StunMessage`, and `UDPPort::get_stun_message`, which puts the
checks in order. The checks index the received buffer, so each of their reads is bounds-checked;
the reader consumes the buffer and fails where it runs out. HMAC-SHA1 and CRC32 are parameters.
-/

namespace XrtcServer.Ice
open XrtcServer.Base XrtcServer.Core

def kStunHeaderSize : Nat := 20
def kStunAttributeHeaderSize : Nat := 4
def kStunTransactionIdOffset : Nat := 8
def kStunTransactionIdLength : Nat := 12
def kStunMagicCookie : Nat := 0x2112A442
def kStunMagicCookieLength : Nat := 4
def kStunMessageIntegritySize : Nat := 20
def kStunTypeMask : Nat := 0x0110
def stunFingerprintXorValue : Nat := 0x5354554e

def stunBindingRequest : Nat := 0x0001
def stunBindingResponse : Nat := 0x0101
def stunBindingErrorResponse : Nat := 0x0111

def stunAttrUsername : Nat := 0x0006
def stunAttrMessageIntegrity : Nat := 0x0008
def stunAttrErrorCode : Nat := 0x0009
def stunAttrPriority : Nat := 0x0024
def stunAttrFingerprint : Nat := 0x8028

def stunErrorBadRequest : Int := 400
def stunErrorUnathorized : Int := 401
def stunErrorUnknownAttribute : Int := 420
def stunErrorServerError : Int := 500
def stunErrorGlobalFail : Int := 600

/-- `StunUInt32Attribute::SIZE` -/
def stunUInt32Size : Nat := 4

inductive StunAttributeValueType
  | stunValueUnknown
  | stunValueUInt32
  | stunValueByteString
  deriving DecidableEq, Repr

/-- An attribute object, by its class. `StunAttribute::create` makes byte strings and 32-bit numbers
only. -/
inductive StunAttribute
  | byteString (type : Nat) (bytes : Bytes)
  | uint32 (type : Nat) (bits : Nat)
  | uint64 (type : Nat) (bits : Nat)
  | address (type : Nat) (addr : SocketAddress)
  | xorAddress (type : Nat) (addr : SocketAddress)
  | errorCode (type cls number : Nat) (reason : Bytes)
  deriving DecidableEq, Repr

def StunAttribute.type : StunAttribute → Nat
  | .byteString type _ => type
  | .uint32 type _ => type
  | .uint64 type _ => type
  | .address type _ => type
  | .xorAddress type _ => type
  | .errorCode type _ _ _ => type

/-- `StunErrorCodeAttribute::code` -/
def StunAttribute.code : StunAttribute → Int
  | .errorCode _ cls number _ => cls * 100 + number
  | _ => 0

inductive IntegrityStatus
  | kNotSet
  | kNoIntegrity
  | kIntegrityOk
  | kIntegrityBad
  deriving DecidableEq, Repr

structure StunMessage where
  type : Nat
  length : Nat
  transactionId : Bytes
  attrs : List StunAttribute
  integrity : IntegrityStatus := .kNotSet
  buffer : Bytes
  deriving DecidableEq, Repr

/-- The length of a value with its padding to a multiple of four. -/
def padded (n : Nat) : Nat := if n % 4 ≠ 0 then n + (4 - n % 4) else n

namespace StunMessage

/-! ## Reading -/

def getAttributeValueType (type : Nat) : StunAttributeValueType :=
  if type = stunAttrUsername then .stunValueByteString
  else if type = stunAttrMessageIntegrity then .stunValueByteString
  else if type = stunAttrPriority then .stunValueUInt32
  else .stunValueUnknown

/-- `StunAttribute::consume_padding`, whose failure nobody notices. -/
def consumePadding (length : Nat) (buf : Bytes) : Bytes :=
  if length % 4 > 0 then (consume (4 - length % 4) buf).getD buf else buf

def readByteString (type length : Nat) (buf : Bytes) : Option (StunAttribute × Bytes) :=
  (readBytes length buf).map fun (v, rest) => (.byteString type v, consumePadding length rest)

/-- `StunUInt32Attribute::read`; the constructor has set the length of the object to `SIZE`, so the
length in the message plays no part. -/
def readUInt32Attribute (type : Nat) (buf : Bytes) : Option (StunAttribute × Bytes) :=
  (readUInt32 buf).map fun (v, rest) => (.uint32 type v, rest)

/-- What the loop of `read` does with a value: the object that `_create_attribute` makes reads it,
and where there is none it is skipped with its padded length computed in 16 bits. -/
def readValue (attrType attrLength : Nat) (buf : Bytes) :
    Option (Option StunAttribute × Bytes) :=
  match getAttributeValueType attrType with
  | .stunValueUnknown => (consume (padded attrLength % 2 ^ 16) buf).map (none, ·)
  | .stunValueByteString => (readByteString attrType attrLength buf).map (Prod.map some id)
  | .stunValueUInt32 => (readUInt32Attribute attrType buf).map (Prod.map some id)

/-- One turn of the loop of `read`. -/
def readAttribute (buf : Bytes) : Option (Option StunAttribute × Bytes) :=
  (readUInt16 buf).bind fun (attrType, buf) =>
    (readUInt16 buf).bind fun (attrLength, buf) => readValue attrType attrLength buf

/-- The loop of `read` over the attributes. -/
def readAttributes : Bytes → Option (List StunAttribute) := readWhole readAttribute

/-- `StunMessage::read`; `none` where it returns false. -/
def read (data : Bytes) : Option StunMessage := do
  let (type, buf) ← readUInt16 data
  if type &&& 0x0800 ≠ 0 then none
  else
    let (length, buf) ← readUInt16 buf
    let (magicCookie, buf) ← readBytes kStunMagicCookieLength buf
    let (transactionId, buf) ← readBytes kStunTransactionIdLength buf
    let transactionId :=
      if ofBE magicCookie ≠ kStunMagicCookie then magicCookie ++ transactionId else transactionId
    if buf.length ≠ length then none
    else
      let attrs ← readAttributes buf
      some { type, length, transactionId, attrs, buffer := data }

/-- The octets of the first attribute of a type, if that is a byte string. -/
def findByteString (attrs : List StunAttribute) (type : Nat) : Option Bytes :=
  match attrs.find? (·.type = type) with
  | some (.byteString _ bytes) => some bytes
  | _ => none

/-- The number in the first attribute of a type, if that is a 32-bit number. -/
def findUInt32 (attrs : List StunAttribute) (type : Nat) : Option Nat :=
  match attrs.find? (·.type = type) with
  | some (.uint32 _ bits) => some bits
  | _ => none

/-- `get_byte_string`, with the octets that `get_string` returns. -/
def getByteString (msg : StunMessage) (type : Nat) : Option Bytes :=
  findByteString msg.attrs type

/-- `get_uint32`, with the number that `value` returns. -/
def getUInt32 (msg : StunMessage) (type : Nat) : Option Nat :=
  findUInt32 msg.attrs type

def getErrorCodeValue (msg : StunMessage) : Int :=
  match msg.attrs.find? (·.type = stunAttrErrorCode) with
  | some attr => attr.code
  | none => stunErrorGlobalFail

/-! ## Checking -/

variable (crc32 : Bytes → Nat) (hmac : Bytes → Bytes → Bytes)

def validateFingerprint (data : Bytes) : Except OutOfBounds Bool := do
  let fingerprintAttrSize := kStunAttributeHeaderSize + stunUInt32Size
  if data.length % 4 ≠ 0 ∨ data.length < kStunHeaderSize + fingerprintAttrSize then return false
  if (← getBE data (kStunTransactionIdOffset - kStunMagicCookieLength) 4) ≠ kStunMagicCookie then
    return false
  let pos := data.length - fingerprintAttrSize
  if (← getBE data pos 2) ≠ stunAttrFingerprint then return false
  if (← getBE data (pos + 2) 2) ≠ stunUInt32Size then return false
  let fingerprint ← getBE data (pos + kStunAttributeHeaderSize) 4
  return fingerprint ^^^ stunFingerprintXorValue = crc32 (← readAt data 0 pos)

/-- The search of `_validate_message_integrity_of_type`: the position of the first attribute of a
type, from `pos` on. -/
def locateAttribute (attrType : Nat) (data : Bytes) :
    Nat → Nat → Except OutOfBounds (Option Nat)
  | 0, _ => return none
  | fuel + 1, pos => do
    if pos + kStunAttributeHeaderSize ≤ data.length then
      if (← getBE data pos 2) = attrType then return some pos
      let attrLength ← getBE data (pos + 2) 2
      locateAttribute attrType data fuel (pos + kStunAttributeHeaderSize + padded attrLength)
    else return none

/-- The position of the attribute that the integrity check is about. Every turn moves on by four
octets at least. -/
def locateMessageIntegrity (data : Bytes) : Except OutOfBounds (Option Nat) :=
  locateAttribute stunAttrMessageIntegrity data data.length kStunHeaderSize

/-- `SetBE16(data + 2, v)` -/
def setLength (data : Bytes) (v : Nat) : Bytes :=
  data.take 2 ++ toBE 2 v ++ data.drop 4

/-- The octets `head` in front of the integrity attribute with the length they are authenticated
under: the one of the message of `size` octets, or that of a message that ends with the attribute. -/
def authenticated (size : Nat) (head : Bytes) : Bytes :=
  let extraPos := head.length + kStunAttributeHeaderSize + kStunMessageIntegritySize
  if size > extraPos then setLength head (extraPos - kStunHeaderSize) else head

/-- `_validate_message_integrity_of_type`, for MESSAGE-INTEGRITY. -/
def validateMessageIntegrityOfType (data password : Bytes) : Except OutOfBounds Bool := do
  if data.length % 4 ≠ 0 ∨ data.length < kStunHeaderSize then return false
  let length ← getBE data 2 2
  if length + kStunHeaderSize ≠ data.length then return false
  match ← locateMessageIntegrity data with
  | none => return false
  | some pos =>
    let head ← readAt data 0 pos
    let digest := hmac password (authenticated data.length head)
    if digest.length ≠ kStunMessageIntegritySize then return false
    let value ← readAt data (pos + kStunAttributeHeaderSize) kStunMessageIntegritySize
    return value = digest

def validateMessageIntegrity (msg : StunMessage) (password : Bytes) :
    Except OutOfBounds StunMessage := do
  if (msg.getByteString stunAttrMessageIntegrity).isSome then
    if ← validateMessageIntegrityOfType hmac msg.buffer password then
      return { msg with integrity := .kIntegrityOk }
    else return { msg with integrity := .kIntegrityBad }
  else return { msg with integrity := .kNoIntegrity }

def integrityOk (msg : StunMessage) : Bool := msg.integrity = .kIntegrityOk

end StunMessage

/-! ## The checks of a port -/

/-- `rtc::split` -/
def split (delimiter : UInt8) (s : Bytes) : List Bytes := s.splitOn delimiter

/-- `_parse_stun_username`: the local and the remote ufrag. -/
def parseStunUsername (msg : StunMessage) : Option (Bytes × Bytes) :=
  match msg.getByteString stunAttrUsername with
  | none => none
  | some username =>
    match split 58 username with
    | [localUfrag, remoteUfrag] => some (localUfrag, remoteUfrag)
    | _ => none

/-- What `get_stun_message` returns, sets and sends. -/
structure StunResult where
  ret : Bool
  outMsg : Option StunMessage := none
  outUsername : Bytes := []
  errorResponse : Option (Int × String) := none
  deriving DecidableEq, Repr

/-- `UDPPort::get_stun_message` of a port with the password `icePwd`. -/
def getStunMessage (crc32 : Bytes → Nat) (hmac : Bytes → Bytes → Bytes) (icePwd data : Bytes) :
    Except OutOfBounds StunResult := do
  if !(← StunMessage.validateFingerprint crc32 data) then return { ret := false }
  match StunMessage.read data with
  | none => return { ret := false }
  | some msg =>
    if msg.type = stunBindingRequest then
      if (msg.getByteString stunAttrUsername).isNone ∨
          (msg.getByteString stunAttrMessageIntegrity).isNone then
        return { ret := true, errorResponse := some (stunErrorBadRequest, "Bad request") }
      match parseStunUsername msg with
      | none =>
        return { ret := true, errorResponse := some (stunErrorUnathorized, "Unathorized") }
      | some (_, remoteUfrag) =>
        let msg ← msg.validateMessageIntegrity hmac icePwd
        if msg.integrity ≠ .kIntegrityOk then
          return { ret := true, errorResponse := some (stunErrorUnathorized, "Unathorized") }
        else return { ret := true, outMsg := some msg, outUsername := remoteUfrag }
    else return { ret := true, outMsg := some msg }

end XrtcServer.Ice
