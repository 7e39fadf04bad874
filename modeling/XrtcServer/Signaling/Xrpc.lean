import Mathlib.Data.List.TakeWhile
import XrtcServer.Signaling.Chunks
import XrtcServer.Signaling.Worker

/-!
# The Go side of a request

The package `xrpc` of the gateway writes the header that `xhead_t` lays out, with its own offsets,
and reads the reply. Both sides agree on every field.
-/

namespace XrtcServer.Signaling.Xrpc
open XrtcServer.Base XrtcServer.Core

def headerSize : Nat := 36

def headerMagicNum : UInt32 := 0xfb202507

structure Header where
  id : UInt16 := 0
  version : UInt16 := 0
  logId : UInt32 := 0
  provider : {l : Bytes // l.length = 16} := ⟨List.replicate 16 0, rfl⟩
  magicNum : UInt32 := 0
  reserved : UInt32 := 0
  bodyLen : UInt32 := 0
  deriving DecidableEq, Repr

/-- The slice `b[i:j]`. -/
def slice (b : Bytes) (i j : Nat) : Bytes := (b.drop i).take (j - i)

/-- `v` is stored at `i`. -/
def put (b : Bytes) (i : Nat) (v : Bytes) : Bytes := b.take i ++ v ++ b.drop (i + v.length)

def Header.marshal (h : Header) (b : Bytes) : Option Bytes :=
  if b.length < headerSize then none
  else
    let b := put b 0 (toLE 2 h.id.toNat)
    let b := put b 2 (toLE 2 h.version.toNat)
    let b := put b 4 (toLE 4 h.logId.toNat)
    let b := put b 8 h.provider
    let b := put b 24 (toLE 4 h.magicNum.toNat)
    let b := put b 28 (toLE 4 h.reserved.toNat)
    let b := put b 32 (toLE 4 h.bodyLen.toNat)
    some b

/-- `UnMarshal`, which sets every field of its receiver. -/
def Header.unMarshal (b : Bytes) : Option Header :=
  if hb : b.length < headerSize then none
  else
    some {
      id := UInt16.ofNat (ofLE (slice b 0 2))
      version := UInt16.ofNat (ofLE (slice b 2 4))
      logId := UInt32.ofNat (ofLE (slice b 4 8))
      provider := ⟨slice b 8 24, by
        rw [slice, List.length_take, List.length_drop]
        rw [headerSize] at hb
        omega⟩
      magicNum := UInt32.ofNat (ofLE (slice b 24 28))
      reserved := UInt32.ofNat (ofLE (slice b 28 32))
      bodyLen := UInt32.ofNat (ofLE (slice b 32 36)) }

/-- `Header.Write`: the octets for the writer. -/
def Header.write (h : Header) : Option Bytes := h.marshal (List.replicate headerSize 0)

/-- `Header.Read` from a reader with these octets, and what it leaves. -/
def Header.read (r : Bytes) : Option (Header × Bytes) :=
  (readBytes headerSize r).bind fun (buf, r) => (unMarshal buf).map (·, r)

/-- An `io.Reader` by its dynamic type, with the octets it has left. -/
inductive Reader
  | bytesReader (left : Bytes)
  | other (left : Bytes)

/-- A `Request`; the body is what the limited reader lets through. -/
structure Request where
  header : Header
  body : Option Bytes

def newRequest (body : Option Reader) (logId : UInt32) : Option Request :=
  let header : Header := { logId, magicNum := headerMagicNum }
  match body with
  | none => some ⟨header, none⟩
  | some (.bytesReader left) =>
    let bodyLen := UInt32.ofNat left.length
    some ⟨{ header with bodyLen }, some (left.take bodyLen.toNat)⟩
  | some (.other _) => none

/-- `Request.Write`: the number it returns and the octets for the writer. A request without a body
makes `io.Copy` panic. -/
def Request.write (r : Request) : Option (Nat × Bytes) :=
  r.header.write.bind fun header => r.body.map fun body => (body.length, header ++ body)

structure Response where
  header : Header
  body : Bytes

/-- `ReadResponse` from a reader with these octets, and what it leaves. -/
def readResponse (r : Bytes) : Option (Response × Bytes) :=
  (Header.read r).bind fun (header, r) =>
    if header.magicNum ≠ headerMagicNum then none
    else (readBytes header.bodyLen.toNat r).map fun (body, r) => (⟨header, body⟩, r)

variable {h : Header} {b body : Bytes}

/-- The octets of a header. -/
def Header.octets (h : Header) : Bytes :=
  toLE 2 h.id.toNat ++ toLE 2 h.version.toNat ++ toLE 4 h.logId.toNat ++ h.provider ++
    toLE 4 h.magicNum.toNat ++ toLE 4 h.reserved.toNat ++ toLE 4 h.bodyLen.toNat

lemma Header.length_octets (h : Header) : h.octets.length = headerSize := by
  simp only [octets, List.length_append, length_toLE, h.provider.property]
  rfl

lemma put_append_drop {l : Bytes} {i j : Nat} (hl : l.length = i) (v : Bytes)
    (hj : i + v.length = j) : put (l ++ b.drop i) i v = l ++ v ++ b.drop j := by
  rw [put, List.take_left' hl, ← List.drop_drop, List.drop_left' hl, List.drop_drop, hj]

theorem Header.marshal_eq (hb : headerSize ≤ b.length) :
    h.marshal b = some (h.octets ++ b.drop headerSize) := by
  have hprovider := h.provider.property
  have hid : put b 0 (toLE 2 h.id.toNat) = toLE 2 h.id.toNat ++ b.drop 2 := by
    rw [put, length_toLE]
    rfl
  rw [marshal, if_neg (Nat.not_lt_of_le hb), octets]
  dsimp only
  rw [hid, put_append_drop, put_append_drop, put_append_drop, put_append_drop, put_append_drop,
    put_append_drop]
  all_goals simp only [List.length_append, length_toLE, hprovider, headerSize]

lemma Header.slice_octets (h : Header) (rest : Bytes) :
    slice (h.octets ++ rest) 0 2 = toLE 2 h.id.toNat ∧
      slice (h.octets ++ rest) 2 4 = toLE 2 h.version.toNat ∧
      slice (h.octets ++ rest) 4 8 = toLE 4 h.logId.toNat ∧
      slice (h.octets ++ rest) 8 24 = h.provider ∧
      slice (h.octets ++ rest) 24 28 = toLE 4 h.magicNum.toNat ∧
      slice (h.octets ++ rest) 28 32 = toLE 4 h.reserved.toNat ∧
      slice (h.octets ++ rest) 32 36 = toLE 4 h.bodyLen.toNat := by
  have hprovider := h.provider.property
  simp [slice, octets, List.drop_append, List.drop_of_length_le, hprovider]

lemma ofLE_uint16 (x : UInt16) : ofLE (toLE 2 x.toNat) = x.toNat := ofLE_toLE x.toNat_lt

lemma ofLE_uint32 (x : UInt32) : ofLE (toLE 4 x.toNat) = x.toNat := ofLE_toLE x.toNat_lt

/-- The offsets of `xhead_t` are those of `UnMarshal`. -/
lemma ofBytes_eq (b : Bytes) :
    XHead.ofBytes b =
      { id := ofLE (slice b 0 2)
        version := ofLE (slice b 2 4)
        logId := ofLE (slice b 4 8)
        provider := slice b 8 24
        magicNum := ofLE (slice b 24 28)
        reserved := ofLE (slice b 28 32)
        bodyLen := ofLE (slice b 32 36) } := rfl

lemma Header.ofBytes_octets (h : Header) :
    XHead.ofBytes h.octets =
      { id := h.id.toNat
        version := h.version.toNat
        logId := h.logId.toNat
        provider := h.provider
        magicNum := h.magicNum.toNat
        reserved := h.reserved.toNat
        bodyLen := h.bodyLen.toNat } := by
  obtain ⟨hid, hversion, hlogId, hprovider, hmagic, hreserved, hbodyLen⟩ := h.slice_octets []
  rw [List.append_nil] at hid hversion hlogId hprovider hmagic hreserved hbodyLen
  rw [ofBytes_eq]
  simp only [hid, hversion, hlogId, hprovider, hmagic, hreserved, hbodyLen, ofLE_uint16,
    ofLE_uint32]

lemma Header.unMarshal_octets (h : Header) (rest : Bytes) :
    unMarshal (h.octets ++ rest) = some h := by
  obtain ⟨hid, hversion, hlogId, hprovider, hmagic, hreserved, hbodyLen⟩ := h.slice_octets rest
  have hlen : headerSize ≤ (h.octets ++ rest).length := by
    rw [List.length_append, h.length_octets]
    exact Nat.le_add_right _ _
  rw [unMarshal, dif_neg (Nat.not_lt_of_le hlen)]
  simp only [hid, hversion, hlogId, hprovider, hmagic, hreserved, hbodyLen, ofLE_uint16,
    ofLE_uint32, UInt16.ofNat_toNat, UInt32.ofNat_toNat]

lemma Header.write_eq (h : Header) : h.write = some h.octets := by
  have hlen : headerSize ≤ (List.replicate headerSize (0 : UInt8)).length := by decide
  rw [write, marshal_eq hlen]
  simp

lemma readResponse_octets (hmagic : h.magicNum = headerMagicNum)
    (hlen : h.bodyLen.toNat = body.length) (rest : Bytes) :
    readResponse (h.octets ++ (body ++ rest)) = some (⟨h, body⟩, rest) := by
  have hheader : Header.unMarshal h.octets = some h := by
    have hnil := h.unMarshal_octets []
    rwa [List.append_nil] at hnil
  have hread : Header.read (h.octets ++ (body ++ rest)) = some (h, body ++ rest) := by
    rw [Header.read, readBytes_append h.length_octets, Option.bind_some]
    dsimp only
    rw [hheader, Option.map_some]
  rw [readResponse, hread, Option.bind_some]
  dsimp only
  rw [if_neg (not_not.mpr hmagic), readBytes_append hlen.symm, Option.map_some]

/-- The reply to a header is the header with the length of the text, and the text. -/
lemma take_buildReply (h : Header) {json : Bytes} (hlen : json.length < maxResBuf)
    (hnul : 0 ∉ json) :
    (buildReply h.octets json).buf.take (buildReply h.octets json).size =
      { h with bodyLen := UInt32.ofNat json.length }.octets ++ json := by
  have hmax : maxResBuf = 4096 := rfl
  have htext : snprintf json = json := by
    rw [snprintf, List.takeWhile_eq_self_iff.mpr, List.take_of_length_le (by omega)]
    intro b hb
    have hne : b ≠ 0 := fun h => hnul (h ▸ hb)
    simpa using hne
  have hbodyLen : (UInt32.ofNat json.length).toNat = json.length := by
    rw [UInt32.toNat_ofNat']
    omega
  have hfront : h.octets.take 32 ++ toLE 4 json.length =
      { h with bodyLen := UInt32.ofNat json.length }.octets := by
    have hprovider := h.provider.property
    rw [Header.octets, Header.octets, List.take_left' (by simp [hprovider]), hbodyLen]
  have hsize : (buildReply h.octets json).size =
      ({ h with bodyLen := UInt32.ofNat json.length }.octets ++ json).length := by
    rw [List.length_append, Header.length_octets]
    change (36 + json.length % 2 ^ 32) % 2 ^ 32 = 36 + json.length
    omega
  rw [hsize, buildReply, htext, hfront, List.take_left]

/-- The worker finds one request in the octets, however they are divided: with the right magic, this
log id, this header and this body. -/
def FramedAs (octets : Bytes) (logId : UInt32) (header body : Bytes) : Prop :=
  (XHead.ofBytes header).magicNum = xheadMagicNum ∧
    (XHead.ofBytes header).logId = logId.toNat ∧
    ∀ request rs t, Leads (ReadStep request) (.opened {} []) rs t → .failed ∉ rs →
      received rs <+: octets →
        if received rs = octets then t.Called [(header, body)] else ∃ q, t = .opened q []

/-- The replies to a header are read with this log id and the whole text. A JSON text holds no
NUL. -/
def RepliesRead (header : Bytes) (logId : UInt32) : Prop :=
  ∀ json rest : Bytes, json.length < maxResBuf → 0 ∉ json →
    ∃ resp, readResponse ((buildReply header json).buf.take (buildReply header json).size ++ rest) =
      some (resp, rest) ∧ resp.header.logId = logId ∧ resp.body = json

/-- What `UnMarshal` reads from a buffer is what `Marshal` stored there. -/
theorem Header.unMarshal_marshal (h : Header) {b : Bytes} (hb : headerSize ≤ b.length) :
    (h.marshal b).bind unMarshal = some h := by
  rw [marshal_eq hb, Option.bind_some, unMarshal_octets]

/-- The request that `NewRequest` makes is framed by the worker as it was sent, and its replies are
read as they were built. -/
theorem request_framed_and_answered (body : Bytes) (logId : UInt32) (hlen : body.length ≤ 2 ^ 30) :
    (∃ r header, newRequest (some (.bytesReader body)) logId = some r ∧
      r.write = some (body.length, header ++ body) ∧
      FramedAs (header ++ body) logId header body ∧ RepliesRead header logId) ∧
    ∀ (h : Header) (b : Bytes), headerSize ≤ b.length →
      (h.marshal b).bind Header.unMarshal = some h := by
  refine ⟨?_, fun h b hb => h.unMarshal_marshal hb⟩
  have hbodyLen : (UInt32.ofNat body.length).toNat = body.length := by
    rw [UInt32.toNat_ofNat']
    omega
  obtain ⟨h, hh⟩ : ∃ h : Header, h =
      { logId, magicNum := headerMagicNum, bodyLen := UInt32.ofNat body.length } := ⟨_, rfl⟩
  have hmagic : h.magicNum = headerMagicNum := by rw [hh]
  have hlogId : h.logId = logId := by rw [hh]
  refine ⟨⟨h, some body⟩, h.octets, ?_, ?_, ⟨?_, ?_, ?_⟩, ?_⟩
  · rw [newRequest, hh]
    dsimp only
    rw [hbodyLen, List.take_length]
  · rw [Request.write, h.write_eq, Option.bind_some, Option.map_some]
  · rw [h.ofBytes_octets, hmagic]
    rfl
  · rw [h.ofBytes_octets, hlogId]
  · intro request rs t hrun hok hpart
    refine called_of_reads h.length_octets ?_ ?_ hrun hok hpart
    · rw [h.ofBytes_octets, hmagic]
      rfl
    · rw [h.ofBytes_octets, hh]
      exact hbodyLen
  · intro json rest hjson hnul
    have hmax : maxResBuf = 4096 := rfl
    obtain ⟨g, hg⟩ : ∃ g : Header, g = { h with bodyLen := UInt32.ofNat json.length } := ⟨_, rfl⟩
    have hgmagic : g.magicNum = headerMagicNum := by
      rw [hg]
      exact hmagic
    have hglen : g.bodyLen.toNat = json.length := by
      rw [hg, UInt32.toNat_ofNat']
      omega
    refine ⟨⟨g, json⟩, ?_, ?_, rfl⟩
    · rw [take_buildReply h hjson hnul, ← hg, List.append_assoc]
      exact readResponse_octets hgmagic hglen rest
    · rw [hg]
      exact hlogId

theorem emptyObject_framed_and_answered :
    ∃ r header, newRequest (some (.bytesReader [123, 125])) 7 = some r ∧
      r.write = some (2, header ++ [123, 125]) ∧
      FramedAs (header ++ [123, 125]) 7 header [123, 125] ∧ RepliesRead header 7 :=
  (request_framed_and_answered [123, 125] 7 (by decide)).1

end XrtcServer.Signaling.Xrpc
