import XrtcServer.Core.Loop
import XrtcServer.Pc.DtlsTransport

/-!
# The records of a DTLS packet

`_handle_dtls_packet` walks through a packet with a pointer and a count of the octets that remain,
and hands the packet to the stream of the adapter if it ends where a record does. Each octet that
the walk looks at is a bounds-checked read, and the count is a `size_t`.
-/

namespace XrtcServer.Pc
open XrtcServer.Base XrtcServer.Core

/-- A record, as its header of 13 octets announces it. -/
structure DtlsRecord where
  header : Bytes
  payload : Bytes
  length_header : header.length = kDtlsRecordHeaderLen
  length_payload : ofBE (header.drop 11) = payload.length

namespace DtlsRecord

def toBytes (r : DtlsRecord) : Bytes := r.header ++ r.payload

lemma length_toBytes (r : DtlsRecord) :
    r.toBytes.length = kDtlsRecordHeaderLen + ofBE (r.header.drop 11) := by
  rw [toBytes, List.length_append, r.length_header, r.length_payload]

end DtlsRecord

/-- The packet is a sequence of records. -/
def IsRecords (data : Bytes) : Prop :=
  ∃ records : List DtlsRecord, data = (records.map DtlsRecord.toBytes).flatten

/-! ## The walk -/

def kMaxPendingPackets : Nat := 2

/-- The side of a `StreamInterfaceChannel` on which packets come in: the calls of
`on_received_packet`, the queue `_packets` and the number of times that `SE_READ` was signalled. -/
structure StreamInterfaceChannel where
  received : List Bytes := []
  packets : List Bytes := []
  reads : Nat := 0
  deriving DecidableEq, Repr

/-- `on_received_packet`, which signals even where the queue is full. -/
def StreamInterfaceChannel.onReceivedPacket (s : StreamInterfaceChannel) (data : Bytes) :
    Bool × StreamInterfaceChannel :=
  (true,
    { received := s.received ++ [data]
      packets := if s.packets.length = kMaxPendingPackets then s.packets else s.packets ++ [data]
      reads := s.reads + 1 })

/-- The difference of two `size_t`. -/
def subSize (a b : Nat) : Nat := if b ≤ a then a - b else 2 ^ 64 + a - b

/-- `data[i]` -/
def readOctet (data : Bytes) (i : Nat) : Except OutOfBounds UInt8 :=
  match data[i]? with
  | none => .error .outOfBounds
  | some b => .ok b

/-- `tmp_data`, as an offset, and `tmp_size`. -/
structure RecordCursor where
  tmpData : Nat
  tmpSize : Nat
  deriving DecidableEq, Repr

/-- `(tmp_data[11] << 8) | tmp_data[12]` -/
def recordLen (data : Bytes) (c : RecordCursor) : Except OutOfBounds Nat := do
  let high ← readOctet data (c.tmpData + 11)
  let low ← readOctet data (c.tmpData + 12)
  return high.toNat <<< 8 ||| low.toNat

/-- The end of a walk: a read outside, or what is returned and what becomes of the stream. -/
abbrev WalkEnd := Except OutOfBounds (Bool × StreamInterfaceChannel)

/-- One turn of the loop of `_handle_dtls_packet`, with what follows the loop. -/
def handleTurn (data : Bytes) (downward : StreamInterfaceChannel) (c : RecordCursor) :
    RecordCursor ⊕ WalkEnd :=
  if c.tmpSize > 0 then
    if c.tmpSize < kDtlsRecordHeaderLen then .inr (.ok (false, downward))
    else
      match recordLen data c with
      | .error e => .inr (.error e)
      | .ok len =>
        if len + kDtlsRecordHeaderLen > c.tmpSize then .inr (.ok (false, downward))
        else
          .inl
            { tmpData := c.tmpData + (kDtlsRecordHeaderLen + len)
              tmpSize := subSize c.tmpSize (kDtlsRecordHeaderLen + len) }
  else .inr (.ok (downward.onReceivedPacket data))

/-- `_handle_dtls_packet` ends with `r`. -/
def HandlesDtlsPacket (data : Bytes) (downward : StreamInterfaceChannel) (r : WalkEnd) : Prop :=
  Yields (handleTurn data downward) ⟨0, data.length⟩ r

/-! ## What the walk finds -/

variable {data : Bytes} {downward : StreamInterfaceChannel} {c c' : RecordCursor} {r : WalkEnd}

/-- The pointer is in the packet, and the count is that of the octets behind it. -/
def InPacket (data : Bytes) (c : RecordCursor) : Prop := c.tmpData + c.tmpSize = data.length

lemma readOctet_of_lt {i : Nat} (h : i < data.length) : readOctet data i = .ok data[i] := by
  rw [readOctet, List.getElem?_eq_getElem h]

lemma shift_or_eq (a b : UInt8) : a.toNat <<< 8 ||| b.toNat = ofBE [a, b] := by
  rw [Nat.shiftLeft_eq, Nat.mul_comm, ← Nat.two_pow_add_eq_or_of_lt b.toNat_lt]
  simp [ofBE, Nat.mul_comm]

/-- The length of a record whose header is in the packet. -/
lemma recordLen_eq (h : c.tmpData + kDtlsRecordHeaderLen ≤ data.length) :
    recordLen data c = .ok (ofBE (((data.drop c.tmpData).drop 11).take 2)) := by
  unfold kDtlsRecordHeaderLen at h
  have hhigh : c.tmpData + 11 < data.length := by omega
  have hlow : c.tmpData + 12 < data.length := by omega
  have hoctets : ((data.drop c.tmpData).drop 11).take 2 =
      [data[c.tmpData + 11], data[c.tmpData + 12]] := by
    rw [List.drop_drop, List.drop_eq_getElem_cons hhigh, List.drop_eq_getElem_cons hlow]
    rfl
  rw [hoctets, ← shift_or_eq, recordLen, readOctet_of_lt hhigh, readOctet_of_lt hlow]
  rfl

/-- The walk from a place in the packet ends, reads nothing outside, and finds what the octets from
there on are. -/
lemma yields_of_inPacket (hc : InPacket data c) :
    Yields (handleTurn data downward) c
      (.ok (if wholeRecords (data.drop c.tmpData) then downward.onReceivedPacket data
        else (false, downward))) := by
  generalize hrest : data.drop c.tmpData = rest
  unfold InPacket at hc
  have hsize : rest.length = c.tmpSize := by
    rw [← hrest, List.length_drop, ← hc, Nat.add_sub_cancel_left]
  fun_induction wholeRecords rest generalizing c with
  | case1 =>
    refine (yields_iff_of_exit ?_).mpr rfl
    rw [handleTurn, ← hsize]
    rfl
  | case2 rest hne hshort =>
    have hpos := List.length_pos_of_ne_nil hne
    refine (yields_iff_of_exit ?_).mpr rfl
    rw [handleTurn, ← hsize, if_pos hpos, if_pos hshort]
    rfl
  | case3 rest hne hlong len =>
    rename_i hover
    have hpos := List.length_pos_of_ne_nil hne
    refine (yields_iff_of_exit ?_).mpr rfl
    rw [handleTurn, ← hsize, if_pos hpos, if_neg hlong, recordLen_eq (by omega), hrest]
    dsimp only
    rw [if_pos hover]
    rfl
  | case4 rest hne hlong len hover =>
    rename_i ih
    have hpos := List.length_pos_of_ne_nil hne
    -- The count does not wrap: the record lies within what remains.
    have hnext : handleTurn data downward c = .inl
        { tmpData := c.tmpData + (kDtlsRecordHeaderLen + len)
          tmpSize := c.tmpSize - (kDtlsRecordHeaderLen + len) } := by
      rw [handleTurn, ← hsize, if_pos hpos, if_neg hlong, recordLen_eq (by omega), hrest]
      dsimp only
      rw [if_neg hover, subSize, if_pos (by omega)]
    rw [yields_iff_of_again hnext]
    refine ih ?_ ?_ ?_
    · dsimp only
      omega
    · rw [← hrest, List.drop_drop]
    · rw [List.length_drop, hsize]

/-! ## The packets it accepts -/

lemma ofBE_take_two {l : Bytes} (h : l.length = 2) (rest : Bytes) :
    ofBE ((l ++ rest).take 2) = ofBE l := by
  rw [← h, List.take_left]

lemma wholeRecords_append (record : DtlsRecord) (rest : Bytes) :
    wholeRecords (record.toBytes ++ rest) = wholeRecords rest := by
  have hheader := record.length_header
  have hlen := record.length_toBytes
  have hoctets : ofBE (((record.toBytes ++ rest).drop 11).take 2) = ofBE (record.header.drop 11) := by
    rw [DtlsRecord.toBytes, List.append_assoc, List.drop_append_of_le_length
      (by rw [hheader, kDtlsRecordHeaderLen]; omega)]
    exact ofBE_take_two (by rw [List.length_drop, hheader, kDtlsRecordHeaderLen]) _
  rw [wholeRecords]
  dsimp only
  rw [hoctets]
  have hdrop : (record.toBytes ++ rest).drop
      (kDtlsRecordHeaderLen + ofBE (record.header.drop 11)) = rest := by
    rw [← hlen, List.drop_left]
  have htotal : (record.toBytes ++ rest).length = record.toBytes.length + rest.length :=
    List.length_append
  have hlong : kDtlsRecordHeaderLen ≤ record.toBytes.length := hlen ▸ Nat.le_add_right ..
  have hne : record.toBytes ++ rest ≠ [] := by
    apply List.ne_nil_of_length_pos
    rw [htotal]
    exact Nat.add_pos_left (Nat.lt_of_lt_of_le (by decide) hlong) _
  rw [if_neg hne, if_neg (by omega), if_neg (by omega), hdrop]

lemma isRecords_of_wholeRecords (h : wholeRecords data = true) : IsRecords data := by
  fun_induction wholeRecords data with
  | case1 => exact ⟨[], rfl⟩
  | case2 => cases h
  | case3 => cases h
  | case4 data hne hlong len hover =>
    rename_i ih
    obtain ⟨records, hrest⟩ := ih h
    have hheader : (data.take kDtlsRecordHeaderLen).length = kDtlsRecordHeaderLen :=
      List.length_take_of_le (by omega)
    refine ⟨⟨data.take kDtlsRecordHeaderLen,
      (data.drop kDtlsRecordHeaderLen).take (ofBE ((data.drop 11).take 2)), hheader, ?_⟩ :: records, ?_⟩
    · rw [List.length_take_of_le (by rw [List.length_drop]; omega), List.drop_take]
      rfl
    · rw [List.map_cons, List.flatten_cons, ← hrest, DtlsRecord.toBytes]
      dsimp only
      rw [List.append_assoc, ← List.drop_drop, List.take_append_drop, List.take_append_drop]

/-- The loop accepts the sequences of records. -/
theorem wholeRecords_iff : wholeRecords data = true ↔ IsRecords data := by
  constructor
  · exact isRecords_of_wholeRecords
  · rintro ⟨records, rfl⟩
    induction records with
    | nil =>
      rw [List.map_nil, List.flatten_nil, wholeRecords, if_pos rfl]
    | cons record records ih =>
      rw [List.map_cons, List.flatten_cons, wholeRecords_append]
      exact ih

lemma handlesDtlsPacket_eq (data : Bytes) (downward : StreamInterfaceChannel) (r : WalkEnd) :
    HandlesDtlsPacket data downward r ↔
      r = .ok (if wholeRecords data then downward.onReceivedPacket data else (false, downward)) := by
  have hyields := @yields_of_inPacket data downward ⟨0, data.length⟩ (Nat.zero_add _)
  rw [List.drop_zero] at hyields
  exact ⟨fun hr => Yields.unique hr hyields, fun hr => hr ▸ hyields⟩

/-- `_handle_dtls_packet` ends without a read outside the packet. It passes the packet on if it is a
sequence of records, and otherwise returns false and leaves the stream alone. -/
theorem handlesDtlsPacket_iff (data : Bytes) (downward : StreamInterfaceChannel) (r : WalkEnd) :
    HandlesDtlsPacket data downward r ↔
      IsRecords data ∧ r = .ok (downward.onReceivedPacket data) ∨
        ¬ IsRecords data ∧ r = .ok (false, downward) := by
  rw [handlesDtlsPacket_eq, ← wholeRecords_iff]
  by_cases hrecords : wholeRecords data = true
  · simp [hrecords]
  · simp [hrecords]

/-- The transport returns what the walk does. -/
theorem handleDtlsPacket_of_handles {ω : Type} {W : Wiring ω} {signals : List DtlsSignal}
    {x : DtlsTransport × ω} {v : Bool × StreamInterfaceChannel}
    (h : HandlesDtlsPacket data downward (.ok v)) :
    (DtlsTransport.handleDtlsPacket W signals data x).1 = v.1 := by
  rw [handlesDtlsPacket_eq] at h
  cases h
  unfold DtlsTransport.handleDtlsPacket
  split <;> rfl

end XrtcServer.Pc
