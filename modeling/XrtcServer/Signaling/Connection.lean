import XrtcServer.Base.Bytes
import XrtcServer.Core.Loop

/-!
# TCP connections of the signaling server

A request is a header of 36 octets, of which the last field is the length of the body, and the body.
`SignalingWorker` collects the octets it reads in `querybuf`, taken here as a growable string.
-/

namespace XrtcServer.Signaling
open XrtcServer.Base XrtcServer.Core

def xheadSize : Nat := 36

def xheadMagicNum : Nat := 0xfb202507

/-- `xhead_t`, as a little-endian host lays it out. -/
structure XHead where
  id : Nat
  version : Nat
  logId : Nat
  provider : Bytes
  magicNum : Nat
  reserved : Nat
  bodyLen : Nat
  deriving DecidableEq, Repr

/-- The header at the start of a buffer. -/
def XHead.ofBytes (buf : Bytes) : XHead where
  id := ofLE (buf.take 2)
  version := ofLE ((buf.drop 2).take 2)
  logId := ofLE ((buf.drop 4).take 4)
  provider := (buf.drop 8).take 16
  magicNum := ofLE ((buf.drop 24).take 4)
  reserved := ofLE ((buf.drop 28).take 4)
  bodyLen := ofLE ((buf.drop 32).take 4)

lemma XHead.ofBytes_append {buf : Bytes} (h : xheadSize ≤ buf.length) (l : Bytes) :
    XHead.ofBytes (buf ++ l) = XHead.ofBytes buf := by
  have hlen : 36 ≤ buf.length := h
  have hfield : ∀ pos n, pos + n ≤ 36 →
      ((buf ++ l).drop pos).take n = (buf.drop pos).take n := by
    intro pos n hpos
    rw [List.drop_append_of_le_length (by omega), List.take_append_of_le_length]
    rw [List.length_drop]
    omega
  have hid : (buf ++ l).take 2 = buf.take 2 := hfield 0 2 (by omega)
  simp only [XHead.ofBytes, hid, hfield 2 2 (by omega), hfield 4 4 (by omega),
    hfield 8 16 (by omega), hfield 24 4 (by omega), hfield 28 4 (by omega),
    hfield 32 4 (by omega)]

inductive ConnState
  | head
  | body
  deriving DecidableEq, Repr

/-- The fields of a `TCPConnection` that find the request in what it sent. -/
structure Framing where
  querybuf : Bytes := []
  currentState : ConnState := .head
  bytesExpected : Nat := xheadSize
  bytesProcessed : Nat := 0
  deriving DecidableEq, Repr

/-- The slices `header` and `body` of `_process_query_buffer`. -/
def Framing.header (q : Framing) : Bytes := q.querybuf.take xheadSize

def Framing.body (q : Framing) : Bytes :=
  (q.querybuf.drop xheadSize).take (XHead.ofBytes q.querybuf).bodyLen

variable {ω : Type*}

/-- One iteration of the loop of `_process_query_buffer`, with what `_process_request` does to the
rest of the program as a parameter. The loop leaves with the value returned. -/
def processQueryIter (processRequest : ω → Bytes → Bytes → Int × ω) :
    Framing × ω → (Framing × ω) ⊕ (Int × Framing × ω)
  | (q, w) =>
    if q.bytesProcessed + q.bytesExpected ≤ q.querybuf.length then
      let head := XHead.ofBytes q.querybuf
      match q.currentState with
      | .head =>
        if head.magicNum ≠ xheadMagicNum then .inr (-1, q, w)
        else .inl ({ q with
          currentState := .body, bytesProcessed := xheadSize, bytesExpected := head.bodyLen }, w)
      | .body =>
        let (ret, w) := processRequest w q.header q.body
        if ret ≠ 0 then .inr (-1, q, w) else .inl ({ q with bytesProcessed := 65535 }, w)
    else .inr (0, q, w)

section iter
variable {processRequest : ω → Bytes → Bytes → Int × ω} {q q' : Framing} {w w' : ω} {ret : Int}

/-- How an iteration goes on: the header is in, or a request was processed. -/
lemma processQueryIter_eq_inl (h : processQueryIter processRequest (q, w) = .inl (q', w')) :
    q.bytesProcessed + q.bytesExpected ≤ q.querybuf.length ∧
      (q.currentState = .head ∧ (XHead.ofBytes q.querybuf).magicNum = xheadMagicNum ∧ w' = w ∧
          q' = { q with
            currentState := .body
            bytesProcessed := xheadSize
            bytesExpected := (XHead.ofBytes q.querybuf).bodyLen } ∨
        q.currentState = .body ∧ processRequest w q.header q.body = (0, w') ∧
          q' = { q with bytesProcessed := 65535 }) := by
  rw [processQueryIter] at h
  by_cases hlen : q.bytesProcessed + q.bytesExpected ≤ q.querybuf.length
  · rw [if_pos hlen] at h
    refine ⟨hlen, ?_⟩
    cases hstate : q.currentState with
    | head =>
      simp only [hstate] at h
      by_cases hmagic : (XHead.ofBytes q.querybuf).magicNum = xheadMagicNum
      · rw [if_neg (not_not.mpr hmagic)] at h
        cases h
        exact Or.inl ⟨rfl, hmagic, rfl, rfl⟩
      · rw [if_pos hmagic] at h
        cases h
    | body =>
      simp only [hstate] at h
      by_cases hret : (processRequest w q.header q.body).1 = 0
      · rw [if_neg (not_not.mpr hret)] at h
        cases h
        exact Or.inr ⟨rfl, Prod.ext hret rfl, by rw [← hstate]⟩
      · rw [if_pos hret] at h
        cases h
  · rw [if_neg hlen] at h
    cases h

/-- How the loop leaves: too little is in, or the connection is to be closed. -/
lemma processQueryIter_eq_inr (h : processQueryIter processRequest (q, w) = .inr (ret, q', w')) :
    q' = q ∧
      (ret = 0 ∧ w' = w ∧ q.querybuf.length < q.bytesProcessed + q.bytesExpected ∨
        ret = -1 ∧ q.bytesProcessed + q.bytesExpected ≤ q.querybuf.length ∧
          (q.currentState = .head ∧ (XHead.ofBytes q.querybuf).magicNum ≠ xheadMagicNum ∧ w' = w ∨
            q.currentState = .body ∧
              ∃ r, r ≠ 0 ∧ processRequest w q.header q.body = (r, w'))) := by
  rw [processQueryIter] at h
  by_cases hlen : q.bytesProcessed + q.bytesExpected ≤ q.querybuf.length
  · rw [if_pos hlen] at h
    cases hstate : q.currentState with
    | head =>
      simp only [hstate] at h
      by_cases hmagic : (XHead.ofBytes q.querybuf).magicNum = xheadMagicNum
      · rw [if_neg (not_not.mpr hmagic)] at h
        cases h
      · rw [if_pos hmagic] at h
        cases h
        exact ⟨rfl, Or.inr ⟨rfl, hlen, Or.inl ⟨rfl, hmagic, rfl⟩⟩⟩
    | body =>
      simp only [hstate] at h
      by_cases hret : (processRequest w q.header q.body).1 = 0
      · rw [if_neg (not_not.mpr hret)] at h
        cases h
      · rw [if_pos hret] at h
        cases h
        exact ⟨rfl, Or.inr ⟨rfl, hlen, Or.inr ⟨rfl, _, hret, rfl⟩⟩⟩
  · rw [if_neg hlen] at h
    cases h
    exact ⟨rfl, Or.inl ⟨rfl, rfl, Nat.lt_of_not_le hlen⟩⟩

end iter

/-- `SignalingWorker::_process_query_buffer` returns `r`. -/
def ProcessQueryBuffer (processRequest : ω → Bytes → Bytes → Int × ω) (q : Framing) (w : ω)
    (r : Int × Framing × ω) : Prop :=
  Yields (processQueryIter processRequest) (q, w) r

/-- What `sock_read_data` brings: octets, nothing yet, or an error or the end of the connection. -/
inductive ReadResult
  | data (chunk : Bytes)
  | wouldBlock
  | failed
  deriving DecidableEq, Repr

/-- `read_len` of `_read_query`: `bytes_expected` as an `int`. -/
def Framing.readLen (q : Framing) : Int := Int.bmod q.bytesExpected (2 ^ 32)

/-- What a socket can answer to a read of `readLen` octets: it hands out at most as many, and a read
of no or of negatively many octets returns 0 or fails. -/
def ReadResult.Fits (q : Framing) : ReadResult → Prop
  | .data chunk => 0 < chunk.length ∧ (chunk.length : Int) ≤ q.readLen
  | .wouldBlock => 0 < q.readLen
  | .failed => True

instance (q : Framing) (r : ReadResult) : Decidable (r.Fits q) :=
  match r with
  | .data _ => inferInstanceAs (Decidable (_ ∧ _))
  | .wouldBlock => inferInstanceAs (Decidable (0 < q.readLen))
  | .failed => .isTrue trivial

/-- The buffer takes in what was read. -/
def Framing.append (q : Framing) (chunk : Bytes) : Framing :=
  { q with querybuf := q.querybuf ++ chunk }

section append
variable (q : Framing) (chunk : Bytes)

@[simp] lemma Framing.querybuf_append : (q.append chunk).querybuf = q.querybuf ++ chunk := rfl
@[simp] lemma Framing.currentState_append : (q.append chunk).currentState = q.currentState := rfl
@[simp] lemma Framing.bytesExpected_append :
    (q.append chunk).bytesExpected = q.bytesExpected := rfl
@[simp] lemma Framing.bytesProcessed_append :
    (q.append chunk).bytesProcessed = q.bytesProcessed := rfl

end append

/-- The buffer after `sock_read_data`; `none` where `_read_query` closes the connection. -/
def Framing.receive (q : Framing) : ReadResult → Option Framing
  | .data chunk => some (q.append chunk)
  | .wouldBlock => some q
  | .failed => none

lemma Framing.header_append {q : Framing} (h : xheadSize ≤ q.querybuf.length) (chunk : Bytes) :
    (q.append chunk).header = q.header :=
  List.take_append_of_le_length h

lemma Framing.body_append {q : Framing}
    (h : xheadSize + (XHead.ofBytes q.querybuf).bodyLen ≤ q.querybuf.length) (chunk : Bytes) :
    (q.append chunk).body = q.body := by
  have hhead : xheadSize ≤ q.querybuf.length := Nat.le_of_add_right_le h
  unfold Framing.body
  rw [Framing.querybuf_append, XHead.ofBytes_append hhead,
    List.drop_append_of_le_length hhead, List.take_append_of_le_length]
  rw [List.length_drop]
  omega

end XrtcServer.Signaling
