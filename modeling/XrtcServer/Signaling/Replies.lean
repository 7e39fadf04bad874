import XrtcServer.Signaling.Answers
import Mathlib.Data.List.Sort
import Mathlib.Data.List.TakeWhile

/-!
# Replies in their blocks

A reply is written into a block of `XHEAD_SIZE + MAX_RES_BUF` octets, while `body_len` and the size
of the slice come from the text as it was before `snprintf` cut it. The slice shows the header and
the text if and only if the text is shorter than `MAX_RES_BUF`. A text of exactly `MAX_RES_BUF`
octets loses its last one, and of a longer one the slice leaves the block.
-/

namespace XrtcServer.Signaling
open XrtcServer.Base SignalingWorker

/-- The slice lies inside the block of `XHEAD_SIZE + MAX_RES_BUF` octets and shows the header with
`body_len` set to the length of the text, and then the text. -/
def Reply.Carries (r : Reply) (header text : Bytes) : Prop :=
  r.buf.length = xheadSize + maxResBuf ∧ r.size ≤ xheadSize + maxResBuf ∧
    r.buf.take r.size = header.take 32 ++ toLE 4 text.length ++ text

section block
variable {header text : Bytes}

lemma snprintf_eq_take (h : 0 ∉ text) : snprintf text = text.take (maxResBuf - 1) := by
  have hall : ∀ b ∈ text, decide (b ≠ 0) = true := by
    intro b hb
    exact decide_eq_true fun hzero => h (hzero ▸ hb)
  rw [snprintf, List.takeWhile_eq_self_iff.mpr hall]

lemma length_snprintf_lt : (snprintf text).length < maxResBuf := by
  have hle := List.length_take_le (maxResBuf - 1) (text.takeWhile (· ≠ 0))
  have hpos : 0 < maxResBuf := by decide
  rw [snprintf]
  omega

lemma length_head (h : xheadSize ≤ header.length) :
    (header.take 32 ++ toLE 4 text.length).length = xheadSize := by
  have h36 : 36 ≤ header.length := h
  rw [List.length_append, List.length_take, length_toLE, Nat.min_eq_left (by omega)]
  rfl

/-- The block is the one that was allocated. -/
lemma length_buildReply_buf (h : xheadSize ≤ header.length) :
    (buildReply header text).buf.length = xheadSize + maxResBuf := by
  have hlt : (snprintf text).length < maxResBuf := length_snprintf_lt
  rw [buildReply, List.length_append, List.length_append, length_head h, List.length_replicate]
  omega

/-- A text that fits is in the block as it is, behind the header. -/
lemma buildReply_carries (hheader : xheadSize ≤ header.length) (hnul : 0 ∉ text)
    (hlen : text.length < maxResBuf) : (buildReply header text).Carries header text := by
  have hsize : (buildReply header text).size = xheadSize + text.length := by
    simp only [buildReply, xheadSize, maxResBuf] at hlen ⊢
    omega
  have hfit : snprintf text = text := by
    rw [snprintf_eq_take hnul, List.take_of_length_le (Nat.le_sub_one_of_lt hlen)]
  have hhead : (header.take 32 ++ toLE 4 text.length).length = xheadSize := length_head hheader
  refine ⟨length_buildReply_buf hheader, ?_, ?_⟩
  · omega
  · rw [hsize, buildReply, hfit, ← hhead, ← List.length_append, List.take_left]

/-- The octet that `snprintf` ends the text with is where a longer text goes on. -/
lemma Reply.Carries.length_lt (h : (buildReply header text).Carries header text)
    (hheader : xheadSize ≤ header.length) (hnul : 0 ∉ text) : text.length < maxResBuf := by
  obtain ⟨hbuf, hsize, htake⟩ := h
  have hlen := congrArg List.length htake
  rw [List.length_take, hbuf, Nat.min_eq_left hsize, List.length_append, length_head hheader]
    at hlen
  by_contra hge
  have heq : text.length = maxResBuf := by omega
  have hbound : maxResBuf - 1 < text.length := by
    rw [heq]
    decide
  have hend : xheadSize + (maxResBuf - 1) < (buildReply header text).size := by omega
  have hget : (buildReply header text).buf[xheadSize + (maxResBuf - 1)]? =
      some text[maxResBuf - 1] := by
    rw [← List.getElem?_take_of_lt hend, htake,
      List.getElem?_append_right (by rw [length_head hheader]; omega), length_head hheader,
      Nat.add_sub_cancel_left, List.getElem?_eq_getElem]
  have hcut : (snprintf text).length = maxResBuf - 1 := by
    rw [snprintf_eq_take hnul, List.length_take, heq]
    rfl
  have hzero : (buildReply header text).buf[xheadSize + (maxResBuf - 1)]? = some 0 := by
    rw [buildReply, List.append_assoc _ (snprintf text),
      List.getElem?_append_right (by rw [length_head hheader]; omega), length_head hheader,
      Nat.add_sub_cancel_left, List.getElem?_append_right (Nat.le_of_eq hcut), hcut, Nat.sub_self]
    rfl
  rw [hget, Option.some.injEq] at hzero
  exact hnul (hzero ▸ List.getElem_mem hbound)

lemma buildReply_carries_iff (hheader : xheadSize ≤ header.length) (hnul : 0 ∉ text) :
    (buildReply header text).Carries header text ↔ text.length < maxResBuf :=
  ⟨fun h => h.length_lt hheader hnul, buildReply_carries hheader hnul⟩

end block

section handlers
variable {json : JsonLib} {notify : Nat → Bool} {w w' : SignalingWorker} {p : Addr}
  {c : TCPConnection} {header body : Bytes} {ret : Int}

/-- `_process_request` either leaves the reply lists alone or queues one reply. -/
lemma processRequest_queues (h : processRequest json notify p c w header body = .ok (ret, w')) :
    w'.heap = w.heap ∨
      ∃ res, Queues w.heap w'.heap p c (buildReply header (json.write (requestResult res))) := by
  have hr := handled_processRequest json notify p c w header body
  rw [h] at hr
  cases hr with
  | refused => exact Or.inl rfl
  | asked _ _ hands => exact Or.inl hands.heap
  | replied _ hands => exact Or.inr ⟨_, queues_addReply hands.heap⟩

/-- `_response_server_offer` either drops the message or queues one reply, on the connection that
the message names. -/
lemma responseServerOffer_queues {m : Sent} {beyond : Bytes}
    (h : responseServerOffer json w m beyond = some w') :
    w'.heap = w.heap ∨
      ∃ p c, m.msg.conn = some p ∧ w.heap p = some c ∧
        Queues w.heap w'.heap p c (buildReply ((c.querybuf ++ beyond).take xheadSize)
          (json.write (offerResult m.msg))) := by
  unfold responseServerOffer at h
  split at h
  · cases h
    exact Or.inl rfl
  · split at h
    · cases h
      exact Or.inl rfl
    · split at h
      · cases h
        exact Or.inl rfl
      · split at h
        · cases h
        · cases h
          exact Or.inr ⟨_, _, ‹_›, ‹_›, rfl⟩

end handlers

/-- Every reply that `_process_request` or `_response_server_offer` queues is the header and the
text if and only if the text is shorter than `MAX_RES_BUF`. -/
theorem replies_carry_iff (json : JsonLib) (hnul : ∀ fields, 0 ∉ json.write fields)
    (notify : Nat → Bool) (w w' : SignalingWorker) :
    (∀ p c header body ret, xheadSize ≤ header.length →
      processRequest json notify p c w header body = .ok (ret, w') →
      w'.heap = w.heap ∨ ∃ res r, Queues w.heap w'.heap p c r ∧
        (r.Carries header (json.write (requestResult res)) ↔
          (json.write (requestResult res)).length < maxResBuf)) ∧
    ∀ m beyond, responseServerOffer json w m beyond = some w' →
      w'.heap = w.heap ∨ ∃ p c r, m.msg.conn = some p ∧ w.heap p = some c ∧
        Queues w.heap w'.heap p c r ∧
        (xheadSize ≤ (c.querybuf ++ beyond).length →
          (r.Carries ((c.querybuf ++ beyond).take xheadSize) (json.write (offerResult m.msg)) ↔
            (json.write (offerResult m.msg)).length < maxResBuf)) := by
  constructor
  · intro p c header body ret hheader h
    rcases processRequest_queues h with hheap | ⟨res, hqueues⟩
    · exact Or.inl hheap
    · exact Or.inr ⟨res, _, hqueues, buildReply_carries_iff hheader (hnul _)⟩
  · intro m beyond h
    rcases responseServerOffer_queues h with hheap | ⟨p, c, hconn, hc, hqueues⟩
    · exact Or.inl hheap
    · refine Or.inr ⟨p, c, _, hconn, hc, hqueues, fun hlen => ?_⟩
      refine buildReply_carries_iff ?_ (hnul _)
      rw [List.length_take, Nat.min_eq_left hlen]

section text

def hexDigit (n : UInt8) : UInt8 := if n < 10 then 48 + n else 87 + n

/-- An octet of a JSON string, for those of ASCII. -/
def escape (b : UInt8) : Bytes :=
  if b = 34 ∨ b = 92 then [92, b]
  else if b = 8 then [92, 98]
  else if b = 9 then [92, 116]
  else if b = 10 then [92, 110]
  else if b = 12 then [92, 102]
  else if b = 13 then [92, 114]
  else if b < 32 then [92, 117, 48, 48, 48 + b / 16, hexDigit (b % 16)]
  else [b]

def escaped (s : Bytes) : Bytes := s.flatMap escape

def writeMember : String × JsonField → Bytes
  | (key, .int n) =>
    [34] ++ escaped key.toUTF8.toList ++ [34, 58] ++ escaped (toString n).toUTF8.toList
  | (key, .string s) => [34] ++ escaped key.toUTF8.toList ++ [34, 58, 34] ++ escaped s ++ [34]

/-- The members of an object in the order of their keys. -/
def writeObject (fields : List (String × JsonField)) : Bytes :=
  [123] ++ [44].intercalate ((fields.insertionSort (·.1 ≤ ·.1)).map writeMember) ++ [125]

lemma mem_intercalate {b : UInt8} {sep : Bytes} {ls : List Bytes} (h : b ∈ sep.intercalate ls) :
    b ∈ sep ∨ ∃ l ∈ ls, b ∈ l := by
  induction ls with
  | nil => simp at h
  | cons l ls ih =>
    rcases ls with - | ⟨l', ls⟩
    · exact Or.inr ⟨l, List.mem_cons_self, by simpa using h⟩
    · rw [List.intercalate_cons_cons, List.mem_append, List.mem_append] at h
      rcases h with (h | h) | h
      · exact Or.inr ⟨l, List.mem_cons_self, h⟩
      · exact Or.inl h
      · exact (ih h).imp_right fun ⟨m, hm, hb⟩ => ⟨m, List.mem_cons_of_mem l hm, hb⟩

lemma length_le_intercalate (sep : Bytes) {l : Bytes} {ls : List Bytes} (h : l ∈ ls) :
    l.length ≤ (sep.intercalate ls).length := by
  induction ls with
  | nil => cases h
  | cons m ls ih =>
    rcases ls with - | ⟨m', ls⟩
    · rw [List.mem_singleton.mp h, List.intercalate_singleton]
    · rw [List.intercalate_cons_cons, List.length_append, List.length_append]
      rcases List.mem_cons.mp h with rfl | h
      · omega
      · have := ih h
        omega

lemma zero_notMem_escape (b : UInt8) : 0 ∉ escape b := by
  by_cases hb : b < 32
  · have hall : ∀ n < 32, 0 ∉ escape (.ofNat n) := by decide
    have hcontrol := hall b.toNat hb
    rwa [UInt8.ofNat_toNat] at hcontrol
  · have hzero : 0 ≠ b := by
      rintro rfl
      exact hb (by decide)
    unfold escape
    split_ifs <;> simp [hzero]

lemma zero_notMem_escaped (s : Bytes) : 0 ∉ escaped s := by
  intro h
  obtain ⟨b, -, hb⟩ := List.mem_flatMap.mp h
  exact zero_notMem_escape b hb

lemma length_le_escaped (s : Bytes) : s.length ≤ (escaped s).length := by
  induction s with
  | nil => rfl
  | cons b s ih =>
    have hpos : 0 < (escape b).length := by
      unfold escape
      split_ifs <;> simp
    rw [escaped, List.flatMap_cons, List.length_append, ← escaped, List.length_cons]
    omega

lemma zero_notMem_writeMember (f : String × JsonField) : 0 ∉ writeMember f := by
  rcases f with ⟨key, n | s⟩
  · simp [writeMember, zero_notMem_escaped]
  · simp [writeMember, zero_notMem_escaped]

lemma zero_notMem_writeObject (fields : List (String × JsonField)) : 0 ∉ writeObject fields := by
  intro h
  simp only [writeObject, List.mem_append, List.mem_singleton] at h
  rcases h with (h | h) | h
  · cases h
  · rcases mem_intercalate h with h | ⟨l, hl, h⟩
    · simp at h
    · obtain ⟨f, -, rfl⟩ := List.mem_map.mp hl
      exact zero_notMem_writeMember f h
  · cases h

/-- A string member is at most as long as its object. -/
lemma length_le_writeObject {fields : List (String × JsonField)} {key : String} {s : Bytes}
    (h : (key, .string s) ∈ fields) : s.length ≤ (writeObject fields).length := by
  have hmem : writeMember (key, .string s) ∈
      (fields.insertionSort (·.1 ≤ ·.1)).map writeMember :=
    List.mem_map_of_mem ((List.mem_insertionSort _).mpr h)
  have hmember := length_le_intercalate [44] hmem
  have hs := length_le_escaped s
  simp only [writeMember, List.length_append] at hmember
  simp only [writeObject, List.length_append]
  omega

/-- A library that writes objects as they are without indentation. -/
def compactJson : JsonLib := { someJson with write := writeObject }

end text

/-- The connection on fd 5, which has asked for it. -/
def offerWorker : SignalingWorker :=
  { initial with
    conns := [none, none, none, none, none, some 1]
    heap := Function.update initial.heap 1
      (some
        { fd := 5, serial := 0, lastInteraction := 0
          querybuf := pushHeader ++ pushRequestText }) }

def offerMsg (sdp : Bytes) : RtcMsg :=
  { cmdno := cmdnoPush, uid := 1, streamName := [97], audio := 1, video := 1, worker := true,
    conn := some 1, fd := 5, sdp }

/-- A short offer arrives as it is. -/
theorem short_offer_carried :
    ∃ w' p c r,
      responseServerOffer compactJson offerWorker ⟨offerMsg [118], 0, pushHeader⟩ [] = some w' ∧
      offerWorker.heap p = some c ∧ Queues offerWorker.heap w'.heap p c r ∧
      r.Carries pushHeader (compactJson.write (offerResult (offerMsg [118]))) := by
  obtain ⟨w', hrun, hone⟩ : ∃ w',
      responseServerOffer compactJson offerWorker ⟨offerMsg [118], 0, pushHeader⟩ [] = some w' ∧
        (w'.heap 1).map (·.replyList.length) = some 1 := ⟨_, rfl, rfl⟩
  rcases (replies_carry_iff compactJson zero_notMem_writeObject (fun _ => true) offerWorker w').2
    ⟨offerMsg [118], 0, pushHeader⟩ [] hrun with hheap | ⟨p, c, r, hconn, hc, hqueues, hiff⟩
  · rw [hheap] at hone
    exact absurd hone (by decide)
  · cases hconn
    obtain rfl := Option.some.inj hc
    exact ⟨w', 1, _, r, hrun, rfl, hqueues, (hiff (by decide)).mpr (by decide +kernel)⟩

/-- An offer that passes on a `cname` of 4096 octets. -/
def longOffer : Bytes :=
  "v=0\r\nm=audio 9 UDP/TLS/RTP/SAVPF 111\r\na=ssrc:1 cname:".toUTF8.toList ++
    List.replicate 4096 99 ++ [13, 10]

/-- The slice of the reply with this offer is not the header and the text. -/
theorem long_offer_not_carried :
    ∃ w' p c r,
      responseServerOffer compactJson offerWorker ⟨offerMsg longOffer, 0, pushHeader⟩ [] = some w' ∧
      offerWorker.heap p = some c ∧ Queues offerWorker.heap w'.heap p c r ∧
      ¬ r.Carries pushHeader (compactJson.write (offerResult (offerMsg longOffer))) := by
  refine ⟨_, 1, _, _, rfl, rfl, rfl, fun h => ?_⟩
  have hlen := h.length_lt (by decide) (zero_notMem_writeObject _)
  have hmem : ("offer", .string longOffer) ∈ offerResult (offerMsg longOffer) := by
    simp [offerResult, offerMsg]
  have hoffer := length_le_writeObject hmem
  have h4096 : 4096 ≤ longOffer.length := by
    simp only [longOffer, List.length_append, List.length_replicate]
    omega
  exact absurd (h4096.trans hoffer) (Nat.not_le_of_lt hlen)

end XrtcServer.Signaling
